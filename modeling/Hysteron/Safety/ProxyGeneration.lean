import Hysteron.Safety.SyncElection
import Hysteron.Safety.WellFormed

/-!
The generation of the proxy object. It is to change only with the writable database or the enabled
proxies. The list of the enabled proxies is compared after a round trip through the store, which drops
an empty list, so that without active proxies every update takes it for changed.
-/

namespace Hysteron
namespace Sentinel

variable {env : Env} {s s' : Sentinel} {cd newcd : ClusterData} {pis : ProxiesInfo}
variable {masterDBUID : String} {proxy : Proxy}

def activeProxyUIDs (pis : ProxiesInfo) : List String :=
  Slices.sortStrings ((FinMap.values pis).map ProxyInfo.uid)

def awaitsProxies (pis : ProxiesInfo) (proxy : Proxy) : Bool :=
  FinMap.anyValue pis (fun pi => pi.generation ≠ proxy.generation)

theorem activeProxyUIDs_eq_nil_iff : activeProxyUIDs pis = [] ↔ pis = ∅ := by
  constructor
  . intro h
    ext uid pi
    constructor
    . intro hpi
      have hmem : pi.uid ∈ activeProxyUIDs pis := by
        rw [activeProxyUIDs, Slices.mem_sortStrings]
        exact List.mem_map_of_mem ((FinMap.mem_values pis pi).mpr ⟨uid, hpi⟩)
      rw [h] at hmem
      cases hmem
    . intro hpi
      simp at hpi
  . rintro rfl
    rfl

section Update

theorem updateProxy_waiting (h : proxy.spec.masterDBUID = "") (hawaits : awaitsProxies pis proxy = true)
    : updateProxy masterDBUID pis proxy = proxy := by
  unfold updateProxy
  rw [if_pos h]
  exact if_pos hawaits

theorem updateProxy_offering (h : proxy.spec.masterDBUID = "")
    (hawaits : awaitsProxies pis proxy = false)
    : updateProxy masterDBUID pis proxy
        =
      { proxy with spec := { proxy.spec with masterDBUID }, generation := proxy.generation + 1 } := by
  unfold updateProxy
  rw [if_pos h]
  exact if_neg (Bool.not_eq_true _ ▸ hawaits)

theorem updateProxy_serving (h : proxy.spec.masterDBUID ≠ "")
    : updateProxy masterDBUID pis proxy
        =
      if proxy.spec.enabledProxies = some (activeProxyUIDs pis) then
        proxy
      else
        { proxy with
          spec := { proxy.spec with enabledProxies := some (activeProxyUIDs pis) }
          generation := proxy.generation + 1
        } := by
  unfold updateProxy
  rw [if_neg h]
  exact ite_not _ _ _

theorem updateProxy_generation_bounds
    : proxy.generation ≤ (updateProxy masterDBUID pis proxy).generation
        ∧
      (updateProxy masterDBUID pis proxy).generation ≤ proxy.generation + 1 := by
  unfold updateProxy
  dsimp only
  repeat' split
  all_goals simp

theorem withoutMaster_generation_bounds
    : proxy.generation ≤ (Proxy.withoutMaster proxy).generation
        ∧
      (Proxy.withoutMaster proxy).generation ≤ proxy.generation + 1 := by
  unfold Proxy.withoutMaster
  split <;> simp

theorem updateNormal_proxy (h : s.updateNormal env cd pis = .ok (s', newcd))
    : newcd.proxy = updateProxy cd.cluster.status.master pis cd.proxy
        ∨
      newcd.proxy = Proxy.withoutMaster cd.proxy ∧
        newcd.cluster.status.master ≠ cd.cluster.status.master := by
  obtain ⟨base, mid, wanted, -, hbase, hmid, hfollow⟩ := updateNormal_normalCase h
  have hcluster := updateFollowers_cluster hfollow
  obtain ⟨masterDB, followers, -, rfl⟩ := updateFollowers_cases hfollow
  rw [← hbase.proxy]
  cases hmid with
  | promoted _ _ _ _ _ _ hne hpromotion =>
    refine .inr ⟨hpromotion.proxy, ?_⟩
    rw [hcluster, hpromotion.cluster]
    exact hne
  | kept => exact .inl rfl
  | reconciled _ _ _ _ _ _ _ _ hreconcile =>
    obtain ⟨dbs, rfl⟩ := reconcileStandbys_frame hreconcile
    exact .inl rfl

theorem updateCluster_proxy_of_paused (hpaused : cd.cluster.status.phase = .normal →
      cd.cluster.status.pauseActive env.now = true)
    (h : s.updateCluster env cd pis = .ok (s', newcd)) : newcd.proxy = cd.proxy := by
  cases updateCluster_cases h with
  | paused _ heq => rw [heq]
  | initializing _ mid hmid hfinish =>
    rw [(finishUpdate_finished hfinish).proxy]
    cases hmid <;> rfl
  | normal hphase =>
    simp only [updateCluster, hphase, hpaused hphase, ↓reduceIte] at h
    cases h
    rfl

theorem updateCluster_proxy (hphase : cd.cluster.status.phase = .normal)
    (hpaused : cd.cluster.status.pauseActive env.now = false)
    (h : s.updateCluster env cd pis = .ok (s', newcd))
    : newcd.proxy = updateProxy cd.cluster.status.master pis cd.proxy
        ∨
      newcd.proxy = Proxy.withoutMaster cd.proxy ∧
        newcd.cluster.status.master ≠ cd.cluster.status.master := by
  simp only [updateCluster, hphase, hpaused, Bool.false_eq_true, ↓reduceIte, Except.bind_eq_ok_iff,
    Except.pure_eq_ok, Except.ok.injEq, Prod.mk.injEq] at h
  obtain ⟨⟨sm, followed⟩, hnormal, newcd', hfinish, -, rfl⟩ := h
  rw [(finishUpdate_finished hfinish).proxy, finishUpdate_cluster hfinish]
  exact updateNormal_proxy hnormal

end Update

section Step

theorem updateCluster_generation_bounds (h : s.updateCluster env cd pis = .ok (s', newcd))
    : cd.proxy.generation ≤ newcd.proxy.generation
        ∧
      newcd.proxy.generation ≤ cd.proxy.generation + 1 := by
  by_cases hphase : cd.cluster.status.phase = .normal
  . cases hpaused : cd.cluster.status.pauseActive env.now with
    | true =>
      rw [updateCluster_proxy_of_paused (fun _ => hpaused) h]
      omega
    | false =>
      obtain hproxy | ⟨hproxy, -⟩ := updateCluster_proxy hphase hpaused h
      . rw [hproxy]
        exact updateProxy_generation_bounds
      . rw [hproxy]
        exact withoutMaster_generation_bounds
  . rw [updateCluster_proxy_of_paused (fun h => absurd h hphase) h]
    omega

def EnabledProxiesKnown (now : Time) (cd : ClusterData) (pis : ProxiesInfo) : Prop :=
  cd.cluster.status.phase = .normal
    →
  cd.cluster.status.pauseActive now = false
    →
  cd.proxy.spec.masterDBUID ≠ ""
    →
  cd.proxy.spec.enabledProxies = some (activeProxyUIDs pis)

theorem updateCluster_generation_iff
    (hnamed : cd.cluster.status.phase = .normal → cd.cluster.status.master ≠ "")
    (h : s.updateCluster env cd pis = .ok (s', newcd))
    (hmaster : newcd.proxy.spec.masterDBUID = cd.proxy.spec.masterDBUID)
    : newcd.proxy.generation = cd.proxy.generation ↔ EnabledProxiesKnown env.now cd pis := by
  unfold EnabledProxiesKnown
  by_cases hphase : cd.cluster.status.phase = .normal
  . cases hpaused : cd.cluster.status.pauseActive env.now with
    | true =>
      rw [updateCluster_proxy_of_paused (fun _ => hpaused) h]
      simp
    | false =>
      simp only [hphase, forall_const]
      by_cases hserving : cd.proxy.spec.masterDBUID = ""
      . simp only [hserving, ne_eq, not_true_eq_false, false_implies, iff_true]
        obtain hproxy | ⟨hproxy, -⟩ := updateCluster_proxy hphase hpaused h
        . cases hawaits : awaitsProxies pis cd.proxy with
          | true => rw [hproxy, updateProxy_waiting hserving hawaits]
          | false =>
            rw [hproxy, updateProxy_offering hserving hawaits, hserving] at hmaster
            exact absurd hmaster (hnamed hphase)
        . rw [hproxy, Proxy.withoutMaster, if_neg (not_not.mpr hserving)]
      . simp only [ne_eq, hserving, not_false_eq_true, forall_const]
        obtain hproxy | ⟨hproxy, -⟩ := updateCluster_proxy hphase hpaused h
        . rw [hproxy, updateProxy_serving hserving]
          split
          . next heq => simp [heq]
          . next hne => simp [hne]
        . rw [hproxy, Proxy.withoutMaster, if_pos hserving] at hmaster
          exact absurd hmaster.symm hserving
  . rw [updateCluster_proxy_of_paused (fun h => absurd h hphase) h]
    simp [hphase]

end Step

section Run

def ProxySettled (pis : ProxiesInfo) (proxy : Proxy) : Prop :=
  proxy.spec.masterDBUID = "" ∧ awaitsProxies pis proxy = true
    ∨
  proxy.spec.masterDBUID ≠ "" ∧ proxy.spec.enabledProxies = some (activeProxyUIDs pis)

@[simp]
theorem awaitsProxies_roundTrip : awaitsProxies pis proxy.roundTrip = awaitsProxies pis proxy := rfl

theorem enabledProxies_roundTrip (hpis : pis ≠ ∅)
    (h : proxy.spec.enabledProxies = some (activeProxyUIDs pis))
    : proxy.roundTrip.spec.enabledProxies = some (activeProxyUIDs pis) := by
  have hne : activeProxyUIDs pis ≠ [] := fun hnil => hpis (activeProxyUIDs_eq_nil_iff.mp hnil)
  have hkept : Slice.omitEmpty (some (activeProxyUIDs pis)) = some (activeProxyUIDs pis) := by
    cases huids : activeProxyUIDs pis with
    | nil => exact absurd huids hne
    | cons => rfl
  rw [Proxy.roundTrip, h]
  exact hkept

theorem ProxySettled.step (hpis : pis ≠ ∅) (h : ProxySettled pis proxy)
    : updateProxy masterDBUID pis proxy.roundTrip = proxy.roundTrip := by
  obtain ⟨hnone, hawaits⟩ | ⟨hserving, henabled⟩ := h
  . exact updateProxy_waiting hnone hawaits
  . have hserving : proxy.roundTrip.spec.masterDBUID ≠ "" := hserving
    rw [updateProxy_serving hserving, if_pos (enabledProxies_roundTrip hpis henabled)]

theorem ProxySettled.roundTrip (hpis : pis ≠ ∅) (h : ProxySettled pis proxy)
    : ProxySettled pis proxy.roundTrip := by
  obtain ⟨hnone, hawaits⟩ | ⟨hserving, henabled⟩ := h
  . exact .inl ⟨hnone, hawaits⟩
  . exact .inr ⟨hserving, enabledProxies_roundTrip hpis henabled⟩

theorem proxySettled_of_serving (h : proxy.spec.masterDBUID ≠ "")
    : ProxySettled pis (updateProxy masterDBUID pis proxy.roundTrip) := by
  have h : proxy.roundTrip.spec.masterDBUID ≠ "" := h
  rw [updateProxy_serving h]
  split
  . next heq => exact .inr ⟨h, heq⟩
  . exact .inr ⟨h, rfl⟩

theorem proxySettled_of_steps (hpis : pis ≠ ∅) (hmaster : masterDBUID ≠ "")
    : ProxySettled pis (updateProxy masterDBUID pis
        (updateProxy masterDBUID pis proxy.roundTrip).roundTrip) := by
  by_cases hserving : proxy.spec.masterDBUID = ""
  . cases hawaits : awaitsProxies pis proxy with
    | true =>
      have hsettled : ProxySettled pis proxy := .inl ⟨hserving, hawaits⟩
      rw [hsettled.step hpis, (hsettled.roundTrip hpis).step hpis]
      exact (hsettled.roundTrip hpis).roundTrip hpis
    | false =>
      apply proxySettled_of_serving
      have hserving : proxy.roundTrip.spec.masterDBUID = "" := hserving
      rw [updateProxy_offering hserving hawaits]
      exact hmaster
  . have hsettled : ProxySettled pis (updateProxy masterDBUID pis proxy.roundTrip) :=
      proxySettled_of_serving hserving
    rw [hsettled.step hpis]
    exact hsettled.roundTrip hpis

theorem updateProxy_empty_generation
    : (updateProxy masterDBUID ∅ proxy.roundTrip).generation = proxy.generation + 1 := by
  by_cases hserving : proxy.roundTrip.spec.masterDBUID = ""
  . have hawaits : awaitsProxies ∅ proxy.roundTrip = false := by
      rw [awaitsProxies, FinMap.anyValue_eq_false_iff]
      simp
    rw [updateProxy_offering hserving hawaits]
    rfl
  . have hne : proxy.roundTrip.spec.enabledProxies ≠ some (activeProxyUIDs ∅) := by
      intro heq
      have hempty : Slice.omitEmpty proxy.spec.enabledProxies = some [] := heq
      cases henabled : proxy.spec.enabledProxies with
      | none =>
        rw [henabled] at hempty
        cases hempty
      | some uids =>
        rw [henabled] at hempty
        cases uids <;> cases hempty
    rw [updateProxy_serving hserving, if_neg hne]
    rfl

/--
Stored versions of which each is computed from the one before, with the same active proxies and
without a change of the master. What the reports change in between does not matter.
-/
def SteadyRun (pis : ProxiesInfo) (masterDBUID : String) (stored : Nat → ClusterData) : Prop :=
  ∀ (n : Nat), ∃ (env : Env) (s s' : Sentinel) (observed : ClusterData),
    observed.proxy = (stored n).roundTrip.proxy
      ∧
    observed.cluster.status.phase = .normal
      ∧
    observed.cluster.status.pauseActive env.now = false
      ∧
    observed.cluster.status.master = masterDBUID
      ∧
    s.updateCluster env observed pis = .ok (s', stored (n + 1))
      ∧
    (stored (n + 1)).cluster.status.master = masterDBUID

theorem SteadyRun.step {stored : Nat → ClusterData} (h : SteadyRun pis masterDBUID stored) (n : Nat)
    : (stored (n + 1)).proxy = updateProxy masterDBUID pis (stored n).proxy.roundTrip := by
  obtain ⟨env, s, s', observed, hread, hphase, hpaused, hmaster, hupdate, hkept⟩ := h n
  obtain hproxy | ⟨-, hchanged⟩ := updateCluster_proxy hphase hpaused hupdate
  . rw [hproxy, hmaster, hread]
    rfl
  . exact absurd (hkept.trans hmaster.symm) hchanged

theorem SteadyRun.settled {stored : Nat → ClusterData} (h : SteadyRun pis masterDBUID stored)
    (hpis : pis ≠ ∅) (hmaster : masterDBUID ≠ "") (n : Nat)
    : ProxySettled pis (stored (n + 2)).proxy
        ∧
      (stored (n + 2)).proxy.generation = (stored 2).proxy.generation := by
  induction n with
  | zero =>
    refine ⟨?_, rfl⟩
    rw [h.step 1, h.step 0]
    exact proxySettled_of_steps hpis hmaster
  | succ n ih =>
    rw [h.step (n + 2), ih.1.step hpis]
    exact ⟨ih.1.roundTrip hpis, ih.2⟩

theorem SteadyRun.stops_iff {stored : Nat → ClusterData} (h : SteadyRun pis masterDBUID stored)
    (hmaster : masterDBUID ≠ "")
    : (∀ n ≥ 2, (stored n).proxy.generation = (stored 2).proxy.generation) ↔ pis ≠ ∅ := by
  constructor
  . rintro hstops rfl
    have hnext := hstops 3 (by omega)
    rw [h.step 2, updateProxy_empty_generation] at hnext
    omega
  . intro hpis n hn
    obtain ⟨m, rfl⟩ := Nat.exists_eq_add_of_le' hn
    exact (h.settled hpis hmaster m).2

end Run

/--
An update never decreases the generation and increases it by at most one. If it leaves the writable
database and the set of the enabled proxies as they are, then it leaves the generation exactly if the
stored list of the enabled proxies is the one that it computes, which an empty list that comes from
the store never is. With an unchanged master and unchanged proxies, the generation stops changing
after two updates exactly if there is an active proxy.
-/
theorem proxy_generation_stable_iff (pis : ProxiesInfo)
    : (∀ {env : Env} {s s' : Sentinel} {cd newcd : ClusterData},
        (cd.cluster.status.phase = .normal → cd.cluster.status.master ≠ "")
          →
        s.updateCluster env cd pis = .ok (s', newcd)
          →
        (cd.proxy.generation ≤ newcd.proxy.generation
          ∧
        newcd.proxy.generation ≤ cd.proxy.generation + 1)
          ∧
        (newcd.proxy.spec.masterDBUID = cd.proxy.spec.masterDBUID
          →
        (∀ (uid : String), uid ∈ newcd.proxy.spec.enabledProxies.elems
          ↔ uid ∈ cd.proxy.spec.enabledProxies.elems)
          →
        (newcd.proxy.generation = cd.proxy.generation ↔ EnabledProxiesKnown env.now cd pis)))
        ∧
      ∀ {masterDBUID : String} {stored : Nat → ClusterData},
        masterDBUID ≠ ""
          →
        SteadyRun pis masterDBUID stored
          →
        ((∀ n ≥ 2, (stored n).proxy.generation = (stored 2).proxy.generation) ↔ pis ≠ ∅) := by
  constructor
  . intro env s s' cd newcd hnamed h
    refine ⟨updateCluster_generation_bounds h, ?_⟩
    intro hmaster _
    exact updateCluster_generation_iff hnamed h hmaster
  . intro masterDBUID stored hmaster hrun
    exact hrun.stops_iff hmaster

section Sample

def sampleServing (enabledProxies : Slice String) : ClusterData :=
  { sampleSwitch "k1" with proxy := { spec := { masterDBUID := "a", enabledProxies }, generation := 2 } }

theorem proxy_generation_stable_iff_sample
    : ∃ (s' : Sentinel) (newcd : ClusterData) (pis : ProxiesInfo),
        ({} : Sentinel).updateCluster (.simplest 0) (sampleServing (some ["p"])) pis = .ok (s', newcd)
          ∧
        pis ≠ ∅
          ∧
        newcd.proxy.generation = 2 := by
  let pis : ProxiesInfo := (∅ : ProxiesInfo).insert "p"
    { infoUID := "1", uid := "p", generation := 2, proxyTimeout := 15 * second }
  have hrun : (({} : Sentinel).updateCluster (.simplest 0) (sampleServing (some ["p"]))
      pis).toOption.map (fun r => (r.2.proxy.spec.masterDBUID, r.2.proxy.spec.enabledProxies.elems))
        = some ("a", ["p"]) := by
    decide +kernel
  obtain ⟨⟨s', newcd⟩, hrun, hproxy⟩ := Except.exists_ok_of_toOption_map hrun
  obtain ⟨hmaster, henabled⟩ := Prod.mk.inj hproxy
  have hknown : EnabledProxiesKnown 0 (sampleServing (some ["p"])) pis := by
    intro _ _ _
    decide +kernel
  refine ⟨s', newcd, pis, hrun, by decide +kernel, ?_⟩
  refine (((proxy_generation_stable_iff pis).1 (fun _ => by decide) hrun).2 hmaster ?_).mpr hknown
  intro uid
  exact iff_of_eq (congrArg (uid ∈ ·) henabled)

/--
Without proxies the generation increases although nothing has changed.
-/
theorem proxy_generation_unstable
    : ∃ (env : Env) (s s' : Sentinel) (cd newcd : ClusterData),
        cd.proxy.roundTrip = cd.proxy
          ∧
        s.updateCluster env cd ∅ = .ok (s', newcd)
          ∧
        newcd.proxy.spec.masterDBUID = cd.proxy.spec.masterDBUID
          ∧
        newcd.proxy.spec.enabledProxies.elems = cd.proxy.spec.enabledProxies.elems
          ∧
        newcd.proxy.generation ≠ cd.proxy.generation := by
  have hrun : (({} : Sentinel).updateCluster (.simplest 0) (sampleServing none) ∅).toOption.map
      (fun r => (r.2.proxy.spec.masterDBUID, r.2.proxy.spec.enabledProxies.elems,
        r.2.proxy.generation)) = some ("a", [], 3) := by
    decide +kernel
  obtain ⟨⟨s', newcd⟩, hrun, hproxy⟩ := Except.exists_ok_of_toOption_map hrun
  simp only [Prod.mk.injEq] at hproxy
  obtain ⟨hmaster, henabled, hgeneration⟩ := hproxy
  refine ⟨.simplest 0, {}, s', sampleServing none, newcd, rfl, hrun, hmaster, henabled, ?_⟩
  rw [hgeneration]
  decide

end Sample

end Sentinel
end Hysteron
