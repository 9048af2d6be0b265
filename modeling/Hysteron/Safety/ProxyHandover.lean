import Hysteron.Proxy.Lemmas
import Hysteron.Safety.Origins
import Hysteron.Util.Handover

/-!
The hand-over of the writable database among the proxies. Sentinels announce it in the proxy object
of the cluster data, and proxies publish the generation of the object that they have read. The runs
of both refine the general hand-over.
-/

namespace Hysteron

variable {cd cd' newcd : ClusterData} {proxy proxy' : Proxy} {pis : ProxiesInfo}

inductive Proxy.Announces (pis : ProxiesInfo) (proxy proxy' : Proxy) : Prop where
  | same (hgeneration : proxy'.generation = proxy.generation)
    (hmaster : proxy'.spec.masterDBUID = proxy.spec.masterDBUID)
  | keep (hgeneration : proxy'.generation = proxy.generation + 1)
    (hmaster : proxy'.spec.masterDBUID = proxy.spec.masterDBUID)
  | withdraw (hgeneration : proxy'.generation = proxy.generation + 1)
    (hmaster : proxy'.spec.masterDBUID = "")
  | offer (hgeneration : proxy'.generation = proxy.generation + 1)
    (hnone : proxy.spec.masterDBUID = "")
    (hready : ∀ (uid : String) (pi : ProxyInfo), pis[uid]? = some pi
      → pi.generation = proxy.generation)

theorem announces_updateProxy (masterDBUID : String) (pis : ProxiesInfo) (proxy : Proxy)
    : proxy.Announces pis (Sentinel.updateProxy masterDBUID pis proxy) := by
  unfold Sentinel.updateProxy
  split
  . next hnone =>
    split
    . exact .same rfl rfl
    . next hready =>
      refine .offer rfl hnone ?_
      intro uid pi hpi
      by_contra hne
      exact hready ((FinMap.anyValue_iff _ _).mpr ⟨uid, pi, hpi, by simpa using hne⟩)
  . dsimp only
    split
    . exact .keep rfl rfl
    . exact .same rfl rfl

theorem Proxy.Announces.roundTrip (h : proxy.Announces pis proxy')
    : proxy.Announces pis proxy'.roundTrip := by
  cases h with
  | same hgeneration hmaster => exact .same hgeneration hmaster
  | keep hgeneration hmaster => exact .keep hgeneration hmaster
  | withdraw hgeneration hmaster => exact .withdraw hgeneration hmaster
  | offer hgeneration hnone hready => exact .offer hgeneration hnone hready

namespace Sentinel

variable {env : Env} {s s' : Sentinel} {inp : CheckInput}

theorem announces_withoutMaster (pis : ProxiesInfo) (proxy : Proxy)
    : proxy.Announces pis (Proxy.withoutMaster proxy) := by
  unfold Sentinel.Proxy.withoutMaster
  split
  . exact .withdraw rfl rfl
  . exact .same rfl rfl

theorem announces_normalCase {base : ClusterData} {wanted : String}
    (h : NormalCase env cd base pis wanted newcd)
    : base.proxy.Announces pis newcd.proxy := by
  cases h with
  | promoted _ _ _ _ _ _ _ hpromotion =>
    rw [hpromotion.proxy]
    exact announces_withoutMaster pis base.proxy
  | kept => exact announces_updateProxy _ pis base.proxy
  | reconciled _ _ _ _ _ _ _ _ hreconcile =>
    obtain ⟨dbs, rfl⟩ := reconcileStandbys_frame hreconcile
    exact announces_updateProxy _ pis base.proxy

theorem announces_updateCluster (h : s.updateCluster env cd pis = .ok (s', newcd))
    : cd.proxy.Announces pis newcd.proxy := by
  cases updateCluster_cases h with
  | paused _ heq =>
    rw [heq]
    exact .same rfl rfl
  | initializing _ mid hmid hfinish =>
    rw [(finishUpdate_finished hfinish).proxy]
    cases hmid <;> exact .same rfl rfl
  | normal _ base mid followed wanted _ hbase hmid hfollow hfinish =>
    have hfollowed : followed.proxy = mid.proxy := by
      obtain ⟨masterDB, followers, -, rfl⟩ := updateFollowers_cases hfollow
      rfl
    rw [(finishUpdate_finished hfinish).proxy, hfollowed, ← hbase.proxy]
    exact announces_normalCase hmid

def CheckInput.activeProxies (inp : CheckInput) (s : Sentinel) (cd : ClusterData) : ProxiesInfo :=
  ((inp.start s cd).activeProxiesInfos inp.env.now (getProxiesInfo inp.proxies)).2

theorem activeProxiesInfos_congr {now : Time} {proxiesInfo : ProxiesInfo}
    (h : s'.proxyInfoHistories = s.proxyInfoHistories)
    : (s'.activeProxiesInfos now proxiesInfo).2 = (s.activeProxiesInfos now proxiesInfo).2 := by
  unfold activeProxiesInfos
  simp only [h]

theorem proxyInfoHistories_updateKeepersStatus {now : Time} {keepersInfo : KeepersInfo}
    {firstRun : Bool} {kihs : FinMap String KeeperInfoHistory} (hkeyed : cd.Keyed)
    (h : s.updateKeepersStatus now cd keepersInfo firstRun = .ok (s', cd', kihs))
    : s'.proxyInfoHistories = s.proxyInfoHistories := by
  cases firstRun with
  | true => rw [(updateKeepersStatus_firstRunHistories h).1]
  | false => exact (updateKeepersStatus_memory hkeyed h).1.proxyInfoHistories

theorem proxy_updateKeepersStatus {now : Time} {keepersInfo : KeepersInfo}
    {firstRun : Bool} {kihs : FinMap String KeeperInfoHistory}
    (h : s.updateKeepersStatus now cd keepersInfo firstRun = .ok (s', cd', kihs))
    : cd'.proxy = cd.proxy := by
  cases firstRun with
  | true => rw [(updateKeepersStatus_firstRun h).2]
  | false => exact (updateKeepersStatus_merged h).proxy

theorem announces_check (hkeyed : cd.Keyed)
    (h : (s.clusterSentinelCheck inp cd).2 = some newcd)
    : cd.proxy.Announces (inp.activeProxies s cd) newcd.proxy := by
  obtain ⟨merged, observed, kihs, hcompleted⟩ := clusterSentinelCheck_completed (Prod.ext rfl h)
  obtain ⟨s₁, hupdate⟩ := hcompleted.update
  have hhistories := proxyInfoHistories_updateKeepersStatus hkeyed hcompleted.merge
  have hannounces := announces_updateCluster hupdate
  rw [proxy_updateKeepersStatus hcompleted.merge, activeProxiesInfos_congr hhistories] at hannounces
  exact hannounces

end Sentinel

theorem proxy_command {now : Time} {c : Operations.Command} (hsound : cd.Assigned)
    (h : c.run now cd = .ok cd')
    : cd'.proxy = cd.proxy := by
  cases Operations.command_effect c hsound h with
  | status | spec | promoted | resync | failed => rfl
  | removed _ _ _ hremoved => exact hremoved.proxy

namespace ProxyHandover

open ClusterChecker

structure Process where
  checker : ClusterChecker
  seen : Option Proxy := none
  rest : List Action := []
  published : Int := noGeneration

structure State where
  cd : ClusterData
  infos : ProxiesInfo
  snapshots : List ProxiesInfo
  process : String → Process

variable {st st' : State} {p : Process}

def State.setProcess (st : State) (uid : String) (p : Process) : State :=
  { st with process := Function.update st.process uid p }

def Process.read (a : CheckAnswers) (cd : ClusterData) (p : Process) : Process :=
  match p.checker.startListeners a with
  | (checker, .ok ()) =>
    { p with checker, seen := some cd.proxy, rest := checker.plan a.resolve (some cd) }
  | (checker, .error _) => { p with checker, seen := some cd.proxy, rest := [] }

def State.setInfos (st : State) (infos : ProxiesInfo) : State :=
  { st with infos, snapshots := infos :: st.snapshots }

/--
The effect of the deadline of a check: a proxy only begins to route while its info is in the store
and at most one later generation of the proxy object has been committed.
-/
def State.mayRoute (st : State) (uid : String) : Prop :=
  uid ∈ st.infos
    ∧
  ∀ (seen : Proxy), (st.process uid).seen = some seen
    → st.cd.proxy.generation ≤ seen.generation + 1

inductive Step (expected : Sentinel.CheckInput → Sentinel → State → Prop)
    : State → State → Prop where
  | commit (st : State) (w : Writer) (cd' : ClusterData) (hcommit : Commit w st.cd cd')
    (hread : ∀ (inp : Sentinel.CheckInput) (s : Sentinel), w = .check inp s
      → getProxiesInfo inp.proxies ∈ st.snapshots)
    (hexpected : ∀ (inp : Sentinel.CheckInput) (s : Sentinel), w = .check inp s
      → expected inp s st)
    : Step expected st { st with cd := cd', snapshots := [st.infos] }
  | read (st : State) (uid : String) (a : CheckAnswers)
    (hread : a.getClusterData = .value (some st.cd)) (hidle : (st.process uid).rest = [])
    : Step expected st (st.setProcess uid ((st.process uid).read a st.cd))
  | publish (st : State) (uid infoUID : String) (generation : Int) (proxyTimeout : Duration)
    (required : Bool) (rest : List Action)
    (hrest : (st.process uid).rest = .setProxyInfo generation proxyTimeout required :: rest)
    : Step expected st ((st.setProcess uid
        { st.process uid with rest, published := generation }).setInfos
          (st.infos.insert uid { infoUID, uid, generation, proxyTimeout }))
  | act (st : State) (uid : String) (action : Action) (rest : List Action)
    (hrest : (st.process uid).rest = action :: rest)
    (hlocal : ∀ (generation : Int) (proxyTimeout : Duration) (required : Bool),
      action ≠ .setProxyInfo generation proxyTimeout required)
    (hroute : ∀ (d : Destination), action = .setWritableDestination (some d) → st.mayRoute uid)
    : Step expected st (st.setProcess uid
        { st.process uid with checker := action.apply (st.process uid).checker, rest })
  | fail (st : State) (uid : String) (err : GoError)
    : Step expected st (st.setProcess uid
        { st.process uid with checker := (st.process uid).checker.checkFailed err, rest := [] })
  | expire (st : State) (uid : String) (hclosed : (st.process uid).checker.destination = none)
    : Step expected st (st.setInfos (st.infos.erase uid))

def system (expected : Sentinel.CheckInput → Sentinel → State → Prop)
    : TransitionSystem State where
  init st :=
    commitSystem.init st.cd
      ∧
    st.infos = ∅
      ∧
    st.snapshots = [∅]
      ∧
    ∀ (uid : String),
      ∃ (checker : ClusterChecker),
        st.process uid = { checker } ∧ checker.uid = uid ∧ checker.destination = none
  step := Step expected

def DroppedClosed (inp : Sentinel.CheckInput) (s : Sentinel) (st : State) : Prop :=
  ∀ (uid : String), uid ∈ getProxiesInfo inp.proxies → uid ∉ inp.activeProxies s st.cd
    → (st.process uid).checker.destination = none

def InactiveClosed (inp : Sentinel.CheckInput) (s : Sentinel) (st : State) : Prop :=
  ∀ (uid : String), uid ∉ inp.activeProxies s st.cd
    → (st.process uid).checker.destination = none

section Refinement

def target (proxy : Proxy) : Option String :=
  if proxy.spec.masterDBUID = "" then none else some proxy.spec.masterDBUID

def Process.member (p : Process) : Handover.Member String where
  held := p.checker.destination.map Destination.dbuid
  read := p.seen.map fun proxy => (proxy.generation, target proxy)
  acknowledged := p.published

def State.abstract (st : State) : Handover.State String String where
  generation := st.cd.proxy.generation
  target := target st.cd.proxy
  member uid := (st.process uid).member

theorem abstract_setProcess (st : State) (uid : String) (p : Process)
    : (st.setProcess uid p).abstract = st.abstract.setMember uid p.member := by
  unfold State.setProcess State.abstract Handover.State.setMember
  congr
  funext uid'
  exact Function.apply_update (fun _ => Process.member) st.process uid p uid'

structure Process.Pending (p : Process) (proxy : Proxy) : Prop where
  seen : p.seen = some proxy
  publish : ∀ (generation : Int) (proxyTimeout : Duration) (required : Bool),
    .setProxyInfo generation proxyTimeout required ∈ p.rest → generation = proxy.generation
  route : ∀ (d : Destination), .setWritableDestination (some d) ∈ p.rest
    → target proxy = some d.dbuid
  closed : target proxy = none → p.checker.destination = none
    ∨ p.rest.head? = some (.setWritableDestination none)

def Process.Consistent (p : Process) : Prop :=
  p.rest = [] ∨ ∃ (proxy : Proxy), p.Pending proxy

theorem Process.Consistent.pending {action : Action} {rest : List Action} (h : p.Consistent)
    (hrest : p.rest = action :: rest)
    : ∃ (proxy : Proxy), p.Pending proxy := by
  refine h.resolve_left ?_
  rw [hrest]
  nofun

theorem target_eq_none_iff {proxy : Proxy} : target proxy = none ↔ proxy.spec.masterDBUID = "" := by
  unfold target
  split <;> simp_all

theorem consistent_read (a : CheckAnswers) (hcd : "" ∉ cd.dbs) (p : Process)
    : (p.read a cd).Consistent := by
  unfold Process.read
  split
  . next checker _ =>
    refine .inr ⟨cd.proxy, rfl, ?_, ?_, ?_⟩
    . intro generation proxyTimeout required hmem
      exact setProxyInfo_mem_plan hmem
    . intro d hmem
      obtain ⟨hd, hmaster⟩ := setWritableDestination_mem_plan hmem
      unfold target
      rw [hd, if_neg]
      intro hempty
      rw [hempty] at hmaster
      exact hcd hmaster
    . intro hnone
      right
      apply head?_plan
      rw [target_eq_none_iff.mp hnone]
      exact hcd
  . exact .inl rfl

theorem member_read (a : CheckAnswers) (cd : ClusterData) (p : Process)
    : (p.read a cd).member
        = { p.member with read := some (cd.proxy.generation, target cd.proxy) } := by
  have hstart := (p.checker.startListeners_spec a).1
  unfold Process.read
  split
  . next heq =>
    rw [heq] at hstart
    simp [Process.member, hstart]
  . next heq =>
    rw [heq] at hstart
    simp [Process.member, hstart]

structure Invariant (st : State) : Prop where
  committed : commitSystem.Reachable st.cd
  coherent : ∃ (last : Option String), Handover.Coherent last st.abstract
  published : ∀ infos ∈ st.infos :: st.snapshots, ∀ (uid : String) (pi : ProxyInfo),
    infos[uid]? = some pi → pi.generation ≤ (st.process uid).published
  consistent : ∀ (uid : String), (st.process uid).Consistent

variable {uid : String}

theorem Invariant.setInfos {infos : ProxiesInfo} (h : Invariant st)
    (hinfos : ∀ (uid : String) (pi : ProxyInfo), infos[uid]? = some pi
      → pi.generation ≤ (st.process uid).published)
    : Invariant (st.setInfos infos) where
  committed := h.committed
  coherent := h.coherent
  published := by
    intro infos' hmem
    rw [State.setInfos, List.mem_cons, List.mem_cons] at hmem
    obtain rfl | rfl | hmem := hmem
    . exact hinfos
    . exact hinfos
    . exact h.published infos' (List.mem_cons_of_mem _ hmem)
  consistent := h.consistent

theorem Invariant.setProcess (h : Invariant st)
    (hstep : Handover.Step st.abstract (st.abstract.setMember uid p.member)
      ∨ p.member = (st.process uid).member)
    (hpublished : (st.process uid).published ≤ p.published) (hconsistent : p.Consistent)
    : Invariant (st.setProcess uid p) where
  committed := h.committed
  coherent := by
    rw [abstract_setProcess]
    obtain hstep | hsame := hstep
    . obtain ⟨last, hcoherent⟩ := h.coherent
      exact Handover.coherent_step hcoherent hstep
    . rw [hsame]
      have hself : st.abstract.setMember uid (st.process uid).member = st.abstract := by
        unfold Handover.State.setMember
        congr
        exact Function.update_eq_self uid _
      rw [hself]
      exact h.coherent
  published := by
    intro infos hmem uid' pi hpi
    have hle := h.published infos hmem uid' pi hpi
    unfold State.setProcess
    dsimp only
    by_cases heq : uid' = uid
    . rw [heq] at hle ⊢
      rw [Function.update_self]
      exact hle.trans hpublished
    . rw [Function.update_of_ne heq]
      exact hle
  consistent := by
    intro uid'
    unfold State.setProcess
    dsimp only
    by_cases heq : uid' = uid
    . rw [heq, Function.update_self]
      exact hconsistent
    . rw [Function.update_of_ne heq]
      exact h.consistent uid'

theorem invariant_read (a : CheckAnswers) (h : Invariant st)
    : Invariant (st.setProcess uid ((st.process uid).read a st.cd)) := by
  have hread := member_read a st.cd (st.process uid)
  refine h.setProcess (.inl ?_) ?_ ?_
  . rw [hread]
    exact .read st.abstract uid
  . exact (congrArg Handover.Member.acknowledged hread).ge
  . exact consistent_read a (provisioned_of_commits h.committed).ne_empty _

theorem invariant_publish {generation : Int} {proxyTimeout : Duration} {required : Bool}
    {rest : List Action} (h : Invariant st)
    (hrest : (st.process uid).rest = .setProxyInfo generation proxyTimeout required :: rest)
    : Invariant (st.setProcess uid { st.process uid with rest, published := generation })
        ∧
      (st.process uid).published ≤ generation := by
  obtain ⟨proxy, hpending⟩ := (h.consistent uid).pending hrest
  obtain ⟨last, hcoherent⟩ := h.coherent
  have hgeneration : generation = proxy.generation :=
    hpending.publish generation proxyTimeout required (hrest ▸ List.mem_cons_self)
  have hread : (st.abstract.member uid).read = some (generation, target proxy) := by
    simp [State.abstract, Process.member, hpending.seen, hgeneration]
  have hclosed (hnone : target proxy = none) : (st.process uid).checker.destination = none := by
    refine (hpending.closed hnone).resolve_right ?_
    rw [hrest]
    simp
  have hle := ((hcoherent.member uid).read _ _ hread).1
  refine ⟨h.setProcess (.inl ?_) hle (.inr ⟨proxy, hpending.seen, ?_, ?_, ?_⟩), hle⟩
  . refine .acknowledge st.abstract uid generation (target proxy) hread ?_
    intro hnone
    simp [State.abstract, Process.member, hclosed hnone]
  . intro g timeout required' hmem
    exact hpending.publish g timeout required' (hrest ▸ List.mem_cons_of_mem _ hmem)
  . intro d hmem
    exact hpending.route d (hrest ▸ List.mem_cons_of_mem _ hmem)
  . intro hnone
    exact .inl (hclosed hnone)

theorem destination_apply (action : Action) (c : ClusterChecker)
    : (action.apply c).destination = none
        ∨
      (action.apply c).destination = c.destination
        ∨
      ∃ (d : Destination),
        action = .setWritableDestination (some d) ∧ (action.apply c).destination = some d := by
  cases action with
  | setWritableDestination destination =>
    obtain hnone | hsame := c.destination_setWritableDestination destination
    . exact .inl hnone
    . cases destination with
      | none => exact .inl hsame
      | some d => exact .inr (.inr ⟨d, rfl, hsame⟩)
  | setProxyInfo | updateRuntimeConfig | fail => exact .inr (.inl rfl)

theorem step_of_closed {checker : ClusterChecker} {rest : List Action}
    (h : checker.destination = none ∨ checker.destination = (st.process uid).checker.destination)
    : Handover.Step st.abstract
          (st.abstract.setMember uid { st.process uid with checker, rest }.member)
        ∨
      { st.process uid with checker, rest }.member = (st.process uid).member := by
  obtain hnone | hsame := h
  . left
    have hmember : { st.process uid with checker, rest }.member
        = { st.abstract.member uid with held := none } := by
      simp [Process.member, State.abstract, hnone]
    rw [hmember]
    exact .release st.abstract uid
  . right
    simp [Process.member, hsame]

theorem invariant_act {action : Action} {rest : List Action} (h : Invariant st)
    (hrest : (st.process uid).rest = action :: rest)
    (hroute : ∀ (d : Destination), action = .setWritableDestination (some d) → st.mayRoute uid)
    : Invariant (st.setProcess uid
        { st.process uid with checker := action.apply (st.process uid).checker, rest }) := by
  obtain ⟨proxy, hpending⟩ := (h.consistent uid).pending hrest
  refine h.setProcess ?_ le_rfl (.inr ⟨proxy, hpending.seen, ?_, ?_, ?_⟩)
  . obtain hnone | hsame | ⟨d, rfl, hd⟩ := destination_apply action (st.process uid).checker
    . exact step_of_closed (.inl hnone)
    . exact step_of_closed (.inr hsame)
    . left
      have hread : (st.abstract.member uid).read = some (proxy.generation, some d.dbuid) := by
        have := hpending.route d (hrest ▸ List.mem_cons_self)
        simp [State.abstract, Process.member, hpending.seen, this]
      have hmember : Process.member { st.process uid with
            checker := (Action.setWritableDestination (some d)).apply (st.process uid).checker
            rest }
          = { st.abstract.member uid with held := some d.dbuid } := by
        simp [Process.member, State.abstract, hd]
      rw [hmember]
      exact .take st.abstract uid proxy.generation d.dbuid hread
        ((hroute d rfl).2 proxy hpending.seen)
  . intro g timeout required hmem
    exact hpending.publish g timeout required (hrest ▸ List.mem_cons_of_mem _ hmem)
  . intro d hmem
    exact hpending.route d (hrest ▸ List.mem_cons_of_mem _ hmem)
  . intro hnone
    left
    obtain hclosed | hsame | ⟨d, rfl, -⟩ := destination_apply action (st.process uid).checker
    . exact hclosed
    . obtain hclosed | hhead := hpending.closed hnone
      . exact hsame.trans hclosed
      . rw [hrest] at hhead
        cases hhead
        exact destination_setWritableDestination_none
    . have := hpending.route d (hrest ▸ List.mem_cons_self)
      rw [hnone] at this
      contradiction

theorem step_of_announces (h : st.cd.proxy.Announces pis cd'.proxy)
    (hready : (∀ (uid : String) (pi : ProxyInfo), pis[uid]? = some pi
        → pi.generation = st.cd.proxy.generation)
      → ∀ (uid : String), (st.process uid).published = st.cd.proxy.generation
        ∨ (st.process uid).checker.destination = none)
    : Handover.Step st.abstract { st with cd := cd', snapshots := [st.infos] }.abstract
        ∨
      { st with cd := cd', snapshots := [st.infos] }.abstract = st.abstract := by
  have habstract : { st with cd := cd', snapshots := [st.infos] }.abstract
      = { st.abstract with generation := cd'.proxy.generation, target := target cd'.proxy } := rfl
  rw [habstract]
  have hsame (hmaster : cd'.proxy.spec.masterDBUID = st.cd.proxy.spec.masterDBUID)
      : target cd'.proxy = st.abstract.target := by
    simp only [target, State.abstract, hmaster]
  cases h with
  | same hgeneration hmaster =>
    right
    rw [hgeneration, hsame hmaster]
    rfl
  | keep hgeneration hmaster =>
    left
    rw [hgeneration, hsame hmaster]
    exact .keep st.abstract
  | withdraw hgeneration hmaster =>
    left
    rw [hgeneration, target_eq_none_iff.mpr hmaster]
    exact .withdraw st.abstract
  | offer hgeneration hnone hacknowledged =>
    left
    rw [hgeneration]
    cases htarget : target cd'.proxy with
    | none => exact .withdraw st.abstract
    | some d =>
      refine .offer st.abstract d (target_eq_none_iff.mpr hnone) ?_
      intro uid
      obtain heq | hclosed := hready hacknowledged uid
      . exact .inl heq
      . right
        simp [State.abstract, Process.member, hclosed]

theorem getElem?_activeProxies {inp : Sentinel.CheckInput} {s : Sentinel} {pi : ProxyInfo}
    (h : (inp.activeProxies s cd)[uid]? = some pi)
    : (getProxiesInfo inp.proxies)[uid]? = some pi :=
  ((FinMap.getElem?_filter_eq_some _ _ _ _).mp h).1

theorem invariant_commit {w : Writer} (h : Invariant st) (hcommit : Commit w st.cd cd')
    (hread : ∀ (inp : Sentinel.CheckInput) (s : Sentinel), w = .check inp s
      → getProxiesInfo inp.proxies ∈ st.snapshots)
    (hinactive : ∀ (inp : Sentinel.CheckInput) (s : Sentinel), w = .check inp s
      → InactiveClosed inp s st)
    : Invariant { st with cd := cd', snapshots := [st.infos] } where
  committed := h.committed.step ⟨w, hcommit⟩
  coherent := by
    have hsound := sound_of_commits h.committed
    obtain ⟨last, hcoherent⟩ := h.coherent
    have hstep : Handover.Step st.abstract { st with cd := cd', snapshots := [st.infos] }.abstract
        ∨ { st with cd := cd', snapshots := [st.infos] }.abstract = st.abstract := by
      cases hcommit with
      | command now c hrun =>
        right
        have hproxy := proxy_command hsound.assigned hrun
        simp [State.abstract, target, ClusterData.roundTrip, Proxy.roundTrip, hproxy]
      | check inp s hfresh hcheck =>
        apply step_of_announces (Sentinel.announces_check hsound.assigned.keyed hcheck).roundTrip
        intro hacknowledged uid
        cases hpi : (inp.activeProxies s st.cd)[uid]? with
        | none =>
          right
          apply hinactive inp s rfl uid
          simp [Std.ExtTreeMap.mem_iff_isSome_getElem?, hpi]
        | some pi =>
          -- The info was in the store since the cluster data was committed.
          left
          have hle := h.published _ (List.mem_cons_of_mem _ (hread inp s rfl)) uid pi
            (getElem?_activeProxies hpi)
          have hge : (st.process uid).published ≤ st.cd.proxy.generation :=
            (hcoherent.member uid).acknowledged
          have heq := hacknowledged uid pi hpi
          omega
    obtain hstep | hsame := hstep
    . exact Handover.coherent_step hcoherent hstep
    . rw [hsame]
      exact h.coherent
  published := by
    intro infos hmem
    apply h.published
    simp only [List.mem_cons, List.not_mem_nil, or_false, or_self] at hmem
    rw [hmem]
    exact List.mem_cons_self
  consistent := h.consistent

theorem invariant_inductive : (system InactiveClosed).Inductive Invariant where
  init := by
    rintro st ⟨hcd, hinfos, hsnapshots, hprocess⟩
    refine ⟨.init hcd, ?_, ?_, ?_⟩
    . apply Handover.coherent_inductive.init st.abstract
      obtain ⟨uid, spec, hcd⟩ := hcd
      refine ⟨?_, ?_⟩
      . simp only [State.abstract, hcd]
        rfl
      . intro uid
        obtain ⟨checker, heq, -, hclosed⟩ := hprocess uid
        simp only [State.abstract, Process.member, heq, hclosed, hcd]
        exact ⟨rfl, rfl, le_refl noGeneration⟩
    . intro infos hmem uid pi hpi
      simp only [hinfos, hsnapshots, List.mem_cons, List.not_mem_nil, or_false, or_self] at hmem
      simp [hmem] at hpi
    . intro uid
      obtain ⟨checker, heq, -⟩ := hprocess uid
      rw [heq]
      exact .inl rfl
  step := by
    intro st st' h hstep
    cases hstep with
    | commit w cd' hcommit hread hexpected => exact invariant_commit h hcommit hread hexpected
    | read uid a => exact invariant_read a h
    | publish uid infoUID generation proxyTimeout required rest hrest =>
      obtain ⟨hinvariant, hle⟩ := invariant_publish h hrest
      apply hinvariant.setInfos
      intro uid' pi hpi
      rw [Std.ExtTreeMap.getElem?_insert] at hpi
      split at hpi
      . next heq =>
        cases hpi
        rw [compare_eq_iff_eq] at heq
        simp [State.setProcess, ← heq]
      . exact hinvariant.published st.infos List.mem_cons_self uid' pi hpi
    | act uid action rest hrest _ hroute => exact invariant_act h hrest hroute
    | fail uid err =>
      refine h.setProcess (step_of_closed ?_) le_rfl (.inl rfl)
      exact destination_checkFailed err _
    | expire uid hclosed =>
      apply h.setInfos
      intro uid' pi hpi
      rw [Std.ExtTreeMap.getElem?_erase] at hpi
      split at hpi
      . cases hpi
      . exact h.published st.infos List.mem_cons_self uid' pi hpi

end Refinement

/--
While the proxy object names a database, every connection that a proxy routes goes to it. At no time
do two proxies route to two databases.
-/
theorem never_split (st : State) (h : (system InactiveClosed).Reachable st) (uid uid' : String)
    (d d' : Destination) (hd : (st.process uid).checker.destination = some d)
    (hd' : (st.process uid').checker.destination = some d')
    : (st.cd.proxy.spec.masterDBUID ≠ "" → d.dbuid = st.cd.proxy.spec.masterDBUID)
        ∧
      d.dbuid = d'.dbuid := by
  obtain ⟨last, hcoherent⟩ := (invariant_inductive.of_reachable h).coherent
  have hheld : (st.abstract.member uid).held = some d.dbuid := by
    simp [State.abstract, Process.member, hd]
  have hheld' : (st.abstract.member uid').held = some d'.dbuid := by
    simp [State.abstract, Process.member, hd']
  refine ⟨?_, hcoherent.held_eq_held hheld hheld'⟩
  intro hmaster
  refine hcoherent.held_eq_target ?_ hheld
  simp [State.abstract, target, hmaster]

section Sample

variable {expected : Sentinel.CheckInput → Sentinel → State → Prop}
variable {infos : ProxiesInfo} {snapshots : List ProxiesInfo}

def sampleAt (cd : ClusterData) (infos : ProxiesInfo) (snapshots : List ProxiesInfo) (p : Process)
    : State where
  cd
  infos
  snapshots
  process uid := if uid = "proxy" then p else { checker := { uid, backend := .kvBacked } }

theorem setProcess_sampleAt (p p' : Process)
    : (sampleAt cd infos snapshots p).setProcess "proxy" p' = sampleAt cd infos snapshots p' := by
  unfold State.setProcess sampleAt
  congr
  funext uid
  by_cases heq : uid = "proxy"
  . rw [heq, Function.update_self]
    rfl
  . rw [Function.update_of_ne heq]
    simp [heq]

theorem closed_sampleAt (hp : p.checker.destination = none) (uid : String)
    : ((sampleAt cd infos snapshots p).process uid).checker.destination = none := by
  unfold sampleAt
  dsimp only
  split
  . exact hp
  . rfl

def sampleInput (now : Time) (used : Nat) (keepers : List KeeperInfo) (proxies : List ProxyInfo)
    : Sentinel.CheckInput :=
  { sampleCheck now used keepers with proxies }

def sampleCheckedWith (now : Time) (used : Nat) (keepers : List KeeperInfo) (proxies : List ProxyInfo)
    (cd : ClusterData) : ClusterData :=
  checked (sampleInput now used keepers proxies) { lastLeadershipCount := 1 } cd

theorem reachable_sampleCheckedWith {now : Time} {used : Nat} {keepers : List KeeperInfo}
    {proxies : List ProxyInfo} (hlength : ∀ uid ∈ cd.dbs.keys, uid.length ≤ used)
    (hwrites : (Sentinel.clusterSentinelCheck (sampleInput now used keepers proxies)
      { lastLeadershipCount := 1 } cd).2.isSome)
    (hread : getProxiesInfo proxies ∈ snapshots)
    (hexpected : expected (sampleInput now used keepers proxies) { lastLeadershipCount := 1 }
      (sampleAt cd infos snapshots p))
    (h : (system expected).Reachable (sampleAt cd infos snapshots p))
    : (system expected).Reachable
        (sampleAt (sampleCheckedWith now used keepers proxies cd) infos [infos] p) := by
  refine h.step (.commit _ _ _ (commit_checked (Env.fresh_simplest hlength) hwrites) ?_ ?_)
  . rintro _ _ ⟨⟩
    exact hread
  . rintro _ _ ⟨⟩
    exact hexpected

def sampleRunning (destination : Option Destination) : ClusterChecker where
  uid := "proxy"
  backend := .kvBacked
  writable := some { tcpProxy := some destination }

def sampleRead (cd : ClusterData) (published : Int) (destination : Option Destination)
    : Process where
  checker := sampleRunning none
  seen := some cd.proxy
  rest := [.setProxyInfo cd.proxy.generation (15 * second) true,
    .updateRuntimeConfig (5 * second) (15 * second), .setWritableDestination destination]
  published

theorem reachable_sampleRead {checker : ClusterChecker} {seen : Option Proxy} {published : Int}
    (hstart : checker.startListeners
        { getClusterData := .value (some cd), resolve := fun _ _ => some "" }
      = (sampleRunning none, .ok ()))
    (hopens : Opens (fun _ _ => some "") cd "")
    (hconfig : cd.cluster.defSpec.proxyCheckInterval = 5 * second
      ∧ cd.cluster.defSpec.proxyTimeout = 15 * second)
    (h : (system expected).Reachable
      (sampleAt cd infos snapshots { checker, seen, rest := [], published }))
    : (system expected).Reachable (sampleAt cd infos snapshots
        (sampleRead cd published ((sampleRunning none).enabledDestination cd.proxy ""))) := by
  have hstep := h.step (.read _ "proxy"
    { getClusterData := .value (some cd), resolve := fun _ _ => some "" } rfl rfl)
  have hread : Process.read { getClusterData := .value (some cd), resolve := fun _ _ => some "" } cd
      { checker, seen, rest := [], published }
      = sampleRead cd published ((sampleRunning none).enabledDestination cd.proxy "") := by
    unfold Process.read
    rw [hstart]
    dsimp only
    rw [plan_of_opens hopens, hconfig.1, hconfig.2]
    rfl
  rw [← hread]
  rwa [setProcess_sampleAt] at hstep

def sampleProxy (generation : Int) : ProxyInfo where
  infoUID := "info"
  uid := "proxy"
  generation
  proxyTimeout := 15 * second

theorem reachable_sampleRoute {read : ClusterData} {published : Int}
    {destination : Option Destination}
    (hrecent : cd.proxy.generation ≤ read.proxy.generation + 1)
    (h : (system expected).Reachable
      (sampleAt cd infos snapshots (sampleRead read published destination)))
    : (system expected).Reachable (sampleAt cd
        (infos.insert "proxy" (sampleProxy read.proxy.generation))
        (infos.insert "proxy" (sampleProxy read.proxy.generation) :: snapshots)
        { checker := sampleRunning destination
          seen := some read.proxy
          rest := []
          published := read.proxy.generation }) := by
  have hpublish := h.step (.publish _ "proxy" "info" _ _ _ _ rfl)
  rw [setProcess_sampleAt] at hpublish
  have hconfig := hpublish.step (.act (sampleAt cd _ _ _) "proxy" _ _ rfl nofun nofun)
  rw [setProcess_sampleAt] at hconfig
  have hroute := hconfig.step (.act (sampleAt cd _ _ _) "proxy" _ _ rfl nofun ?_)
  . rwa [setProcess_sampleAt] at hroute
  . intro d _
    refine ⟨?_, ?_⟩
    . exact Std.ExtTreeMap.mem_insert_self
    . rintro _ ⟨⟩
      exact hrecent

def sampleChosen : ClusterData :=
  sampleCheckedWith 1 0 [sampleInfo 1 "k1" none, sampleInfo 1 "k2" none] [] sampleCreated

def sampleMasterReady : ClusterData :=
  sampleCheckedWith 2 1 [sampleInfo 2 "k1" (some (sampleState "d" 1)), sampleInfo 2 "k2" none] []
    sampleChosen

def sampleAnnounced : ClusterData :=
  sampleCheckedWith 3 1 [sampleInfo 3 "k1" (some (sampleState "d" 2)), sampleInfo 3 "k2" none] []
    sampleMasterReady

def sampleEnabled : ClusterData :=
  sampleCheckedWith 4 2
    [sampleInfo 4 "k1" (some (sampleState "d" 3)), sampleInfo 4 "k2" (some (sampleState "dd" 1))]
    [sampleProxy 1] sampleAnnounced

def sampleInfos : ProxiesInfo := (∅ : ProxiesInfo).insert "proxy" (sampleProxy 1)

theorem opens_of_known (hformat : cd.formatVersion = currentCDFormatVersion)
    (hvalid : cd.cluster.spec.validate = .ok ())
    (hknown : cd.dbs[cd.proxy.spec.masterDBUID]?.isSome)
    : Opens (fun _ _ => some "") cd "" := by
  obtain ⟨db, hdb⟩ := Option.isSome_iff_exists.mp hknown
  exact ⟨hformat, hvalid, db, hdb, rfl⟩

theorem reachable_sampleEnabled (expected : Sentinel.CheckInput → Sentinel → State → Prop)
    (hexpected : ∀ (inp : Sentinel.CheckInput) (s : Sentinel) (st : State),
      (∀ (uid : String), (st.process uid).checker.destination = none) → expected inp s st)
    : (system expected).Reachable (sampleAt sampleEnabled sampleInfos [sampleInfos]
        (sampleRead sampleEnabled 1 (some { dbuid := "d", addr := "" }))) := by
  have hclosed (cd : ClusterData) (infos : ProxiesInfo) (snapshots : List ProxiesInfo) {p : Process}
      (hp : p.checker.destination = none) (inp : Sentinel.CheckInput) (s : Sentinel)
      : expected inp s (sampleAt cd infos snapshots p) :=
    hexpected inp s _ (closed_sampleAt hp)
  have hcreated : (system expected).Reachable (sampleAt sampleCreated ∅ [∅]
      { checker := { uid := "proxy", backend := .kvBacked } }) := by
    refine .init ⟨⟨_, _, rfl⟩, rfl, rfl, ?_⟩
    intro uid
    refine ⟨{ uid, backend := .kvBacked }, ?_, rfl, rfl⟩
    by_cases heq : uid = "proxy" <;> simp [sampleAt, heq]
  have hannounced : (system expected).Reachable (sampleAt sampleAnnounced ∅ [∅]
      { checker := { uid := "proxy", backend := .kvBacked } }) := by
    apply reachable_sampleCheckedWith (by decide +kernel) (by decide +kernel) (.head _)
      (hclosed _ _ _ rfl _ _)
    apply reachable_sampleCheckedWith (by decide +kernel) (by decide +kernel) (.head _)
      (hclosed _ _ _ rfl _ _)
    exact reachable_sampleCheckedWith (by decide +kernel) (by decide +kernel) (.head _)
      (hclosed _ _ _ rfl _ _) hcreated
  have hpublished := reachable_sampleRoute (by omega) (reachable_sampleRead rfl
    (opens_of_known (by decide +kernel) (by decide +kernel) (by decide +kernel))
    (by decide +kernel) hannounced)
  have hgeneration : sampleAnnounced.proxy.generation = 1 := by decide +kernel
  have hdisabled : (sampleRunning none).enabledDestination sampleAnnounced.proxy "" = none := by
    decide +kernel
  rw [hgeneration, hdisabled] at hpublished
  have henabled : (system expected).Reachable (sampleAt sampleEnabled sampleInfos [sampleInfos]
      { checker := sampleRunning none
        seen := some sampleAnnounced.proxy
        rest := []
        published := 1 }) :=
    reachable_sampleCheckedWith (by decide +kernel) (by decide +kernel) (.head _) (hclosed _ _ _ rfl _ _)
      hpublished
  have hd : (sampleRunning none).enabledDestination sampleEnabled.proxy ""
      = some { dbuid := "d", addr := "" } := by
    decide +kernel
  rw [← hd]
  exact reachable_sampleRead rfl
    (opens_of_known (by decide +kernel) (by decide +kernel) (by decide +kernel))
    (by decide +kernel) henabled

theorem never_split_sample
    : ∃ (st : State) (d : Destination),
        (system InactiveClosed).Reachable st
          ∧
        (st.process "proxy").checker.destination = some d
          ∧
        st.cd.proxy.spec.masterDBUID ≠ ""
          ∧
        d.dbuid = st.cd.proxy.spec.masterDBUID := by
  have hreachable := reachable_sampleRoute (by omega) (reachable_sampleEnabled InactiveClosed
    (fun _ _ _ hclosed uid _ => hclosed uid))
  have hmaster : sampleEnabled.proxy.spec.masterDBUID ≠ "" := by decide +kernel
  exact ⟨_, _, hreachable, rfl, hmaster, (never_split _ hreachable "proxy" "proxy" _ _ rfl rfl).1 hmaster⟩

def sampleSwitching : ClusterData :=
  commanded 5 (.requestManualSwitch "k2" .switchover) sampleEnabled

def sampleElected : ClusterData :=
  sampleCheckedWith 6 2
    [sampleInfo 6 "k1" (some (sampleState "d" 3)), sampleInfo 6 "k2" (some (sampleState "dd" 2))]
    [] sampleSwitching

def sampleSwitched : ClusterData :=
  sampleCheckedWith 7 2
    [sampleInfo 7 "k1" (some (sampleState "d" 3)), sampleInfo 7 "k2" (some (sampleState "dd" 2))]
    [] sampleElected

/--
The info of a proxy expires while its check is under way. The sentinel reads no info. Then the proxy
publishes one and begins to route to the old master, before the sentinel commits the new one.
-/
theorem splits_without_info
    : ∃ (st : State) (d : Destination),
        (system DroppedClosed).Reachable st
          ∧
        (st.process "proxy").checker.destination = some d
          ∧
        st.cd.proxy.spec.masterDBUID ≠ ""
          ∧
        d.dbuid ≠ st.cd.proxy.spec.masterDBUID := by
  have hnone : sampleInfos.erase "proxy" = ∅ := by
    ext uid : 1
    simp [sampleInfos]
  have hexpired := (reachable_sampleEnabled DroppedClosed
    (fun _ _ _ hclosed uid _ _ => hclosed uid)).step (.expire _ "proxy" rfl)
  have hswitching : (system DroppedClosed).Reachable (sampleAt sampleSwitching ∅ [∅]
      (sampleRead sampleEnabled 1 (some { dbuid := "d", addr := "" }))) := by
    rw [← hnone]
    exact hexpired.step (.commit _ _ _ (commit_commanded (by decide +kernel)) nofun nofun)
  have helected : (system DroppedClosed).Reachable (sampleAt sampleElected ∅ [∅]
      (sampleRead sampleEnabled 1 (some { dbuid := "d", addr := "" }))) :=
    reachable_sampleCheckedWith (by decide +kernel) (by decide +kernel) (.head _)
      (fun uid _ _ => closed_sampleAt rfl uid) hswitching
  have hrouted := reachable_sampleRoute (by decide +kernel) helected
  have hswitched : (system DroppedClosed).Reachable (sampleAt sampleSwitched _ _ _) :=
    reachable_sampleCheckedWith (by decide +kernel) (by decide +kernel) (.tail _ (.head _))
      (fun uid hmem _ => absurd hmem Std.ExtTreeMap.not_mem_empty) hrouted
  exact ⟨_, { dbuid := "d", addr := "" }, hswitched, rfl, by decide +kernel, by decide +kernel⟩

end Sample

end ProxyHandover

end Hysteron
