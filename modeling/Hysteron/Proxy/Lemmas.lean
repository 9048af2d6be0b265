import Hysteron.Proxy.Checker
import Mathlib

/-!
What the plan of a check contains, and what its actions and the listeners do to the destination.
-/

namespace Hysteron
namespace ClusterChecker

open Store

variable {c : ClusterChecker} {a : CheckAnswers}

def Opens (resolve : String → String → Option String) (cd : ClusterData) (addr : String) : Prop :=
  cd.formatVersion = currentCDFormatVersion
    ∧
  cd.cluster.spec.validate = .ok ()
    ∧
  ∃ (db : DB),
    cd.dbs[cd.proxy.spec.masterDBUID]? = some db
      ∧
    resolve db.status.listenAddress db.status.port = some addr

theorem plan_of_opens {resolve : String → String → Option String} {cd : ClusterData} {addr : String}
    (h : Opens resolve cd addr)
    : c.plan resolve (some cd)
        = c.publish cd.proxy.generation (max c.proxyTimeout cd.cluster.defSpec.proxyTimeout) true
          ++ [.updateRuntimeConfig cd.cluster.defSpec.proxyCheckInterval
              cd.cluster.defSpec.proxyTimeout,
            .setWritableDestination (c.enabledDestination cd.proxy addr)] := by
  obtain ⟨hformat, hvalid, db, hdb, haddr⟩ := h
  simp [plan, hformat, hvalid, hdb, haddr]

theorem plan_cases (c : ClusterChecker) (resolve : String → String → Option String)
    (cd : Option ClusterData)
    : (∃ (rest : List Action),
        c.plan resolve cd = .setWritableDestination none :: rest
          ∧
        ∀ (destination : Option Destination), .setWritableDestination destination ∉ rest)
        ∨
      ∃ (cd' : ClusterData) (addr : String), cd = some cd' ∧ Opens resolve cd' addr := by
  unfold plan
  split
  . exact .inl ⟨[], rfl, by simp⟩
  . next cd =>
    split
    . exact .inl ⟨_, rfl, by simp⟩
    . next hformat =>
      split
      . exact .inl ⟨_, rfl, by simp⟩
      . next hvalid =>
        dsimp only
        split
        . refine .inl ⟨_, rfl, ?_⟩
          intro destination
          unfold publish
          split <;> simp
        . next db hdb =>
          split
          . exact .inl ⟨_, rfl, by simp⟩
          . next addr haddr =>
            exact .inr ⟨cd, addr, rfl, by simpa using hformat, hvalid, db, hdb, haddr⟩

theorem destination_setWritableDestination (d : Option Destination) (c : ClusterChecker)
    : (c.setWritableDestination d).destination = none
        ∨
      (c.setWritableDestination d).destination = d := by
  unfold destination setWritableDestination
  cases c.writable with
  | none => exact .inl rfl
  | some l => cases h : l.tcpProxy <;> simp [ProxyListener.setDestination, h]

@[simp]
theorem destination_setWritableDestination_none
    : (c.setWritableDestination none).destination = none := by
  simpa using c.destination_setWritableDestination none

@[simp]
theorem destination_stopListeners : c.stopListeners.destination = none := by
  cases hw : c.writable <;> simp [destination, stopListeners, hw, ProxyListener.stop]

theorem destination_checkFailed_of_context {err : GoError} (h : err.isContextError = true)
    : (c.checkFailed err).destination = none := by
  unfold checkFailed
  rw [if_pos h]
  dsimp only
  split <;> simp

theorem checkFailed_of_not_context {err : GoError} (h : err.isContextError = false)
    : c.checkFailed err = c := by
  unfold checkFailed
  simp [h]

theorem destination_checkFailed (err : GoError) (c : ClusterChecker)
    : (c.checkFailed err).destination = none ∨ (c.checkFailed err).destination = c.destination := by
  cases h : err.isContextError with
  | true => exact .inl (destination_checkFailed_of_context h)
  | false => exact .inr (congrArg destination (checkFailed_of_not_context h))

theorem destination_runActions {setProxyInfo : Option GoError} {actions : List Action}
    (h : ∀ (destination : Option Destination), .setWritableDestination destination ∉ actions)
    : (runActions setProxyInfo actions c).1.destination = c.destination := by
  induction actions generalizing c with
  | nil => rfl
  | cons action rest ih =>
    have hrest : ∀ (destination : Option Destination),
        .setWritableDestination destination ∉ rest := by
      intro destination hmem
      exact h destination (List.mem_cons_of_mem _ hmem)
    cases action with
    | setWritableDestination destination => exact absurd List.mem_cons_self (h destination)
    | setProxyInfo generation proxyTimeout required =>
      unfold runActions
      split
      . exact ih hrest
      . rfl
    | updateRuntimeConfig proxyCheckInterval proxyTimeout => exact ih hrest
    | fail err => rfl

def Running (c : ClusterChecker) : Prop :=
  (∀ (l : ProxyListener (Option Destination)), c.writable = some l → l.tcpProxy.isSome)
    ∧
  ∀ (l : ProxyListener Unit), c.readOnly = some l → l.tcpProxy.isSome

theorem Running.setWritableDestination (h : c.Running) (destination : Option Destination)
    : (c.setWritableDestination destination).Running := by
  refine ⟨?_, h.2⟩
  intro l hl
  simp only [ClusterChecker.setWritableDestination, Option.map_eq_some_iff] at hl
  obtain ⟨l', hl', rfl⟩ := hl
  simpa [ProxyListener.setDestination] using h.1 l' hl'

theorem Running.runActions {setProxyInfo : Option GoError} {actions : List Action}
    (h : c.Running)
    : (ClusterChecker.runActions setProxyInfo actions c).1.Running := by
  induction actions generalizing c with
  | nil => exact h
  | cons action rest ih =>
    cases action with
    | setWritableDestination destination => exact ih (h.setWritableDestination destination)
    | setProxyInfo generation proxyTimeout required =>
      unfold ClusterChecker.runActions
      split
      . exact ih h
      . exact h
    | updateRuntimeConfig proxyCheckInterval proxyTimeout => exact ih h
    | fail err => exact h

theorem ProxyListener.tcpProxy_of_start {idle : δ} {answer : ListenAnswer}
    {l l' : ProxyListener δ} (h : l.start idle answer = .ok l')
    : l'.tcpProxy.isSome ∧ l'.tcpProxy.getD idle = l.tcpProxy.getD idle := by
  unfold ProxyListener.start at h
  split at h
  . next hsome =>
    cases h
    exact ⟨hsome, rfl⟩
  . next hnone =>
    split at h
    . cases h
      simp only [Bool.not_eq_true, Option.isSome_eq_false_iff, Option.isNone_iff_eq_none] at hnone
      simp [hnone]
    . contradiction
    . contradiction

theorem startListener_ok {text : String} {idle : δ} {answer : ListenAnswer}
    {o o' : Option (ProxyListener δ)} (h : startListener text idle answer o = .ok o')
    : (∀ (l : ProxyListener δ), o' = some l → l.tcpProxy.isSome)
        ∧
      o'.map (fun l => l.tcpProxy.getD idle) = o.map (fun l => l.tcpProxy.getD idle) := by
  unfold startListener at h
  split at h
  . cases h
    simp
  . split at h
    . next hstart =>
      cases h
      have := ProxyListener.tcpProxy_of_start hstart
      simpa using this
    . contradiction

theorem startListener_running {text : String} {idle : δ} {answer : ListenAnswer}
    {o : Option (ProxyListener δ)}
    (h : ∀ (l : ProxyListener δ), o = some l → l.tcpProxy.isSome)
    : startListener text idle answer o = .ok o := by
  unfold startListener
  split
  . rfl
  . next l =>
    simp [ProxyListener.start, h l rfl]

theorem startListeners_spec (a : CheckAnswers) (c : ClusterChecker)
    : (c.startListeners a).1.destination = c.destination
        ∧
      ((c.startListeners a).2 = .ok () → (c.startListeners a).1.Running) := by
  unfold startListeners
  split
  . simp
  . next writable hwritable =>
    have hdestination : ∀ (c' : ClusterChecker), c'.writable = writable
        → c'.destination = c.destination := by
      intro c' hc'
      have := congrArg (fun o => o.bind id) (startListener_ok hwritable).2
      simpa [destination, hc', Option.bind_map, Function.comp_def] using this
    split
    . exact ⟨hdestination _ rfl, nofun⟩
    . next readOnly hreadOnly =>
      refine ⟨hdestination _ rfl, fun _ => ⟨?_, ?_⟩⟩
      . exact (startListener_ok hwritable).1
      . exact (startListener_ok hreadOnly).1

theorem startListeners_running (h : c.Running) : c.startListeners a = (c, .ok ()) := by
  unfold startListeners
  rw [startListener_running h.1, startListener_running h.2]

theorem setProxyInfo_mem_plan {resolve : String → String → Option String} {cd : ClusterData}
    {generation : Int} {proxyTimeout : Duration} {required : Bool}
    (h : .setProxyInfo generation proxyTimeout required ∈ c.plan resolve (some cd))
    : generation = cd.proxy.generation := by
  have hpublish {g : Int} {timeout : Duration} {required' : Bool}
      (h : .setProxyInfo generation proxyTimeout required ∈ c.publish g timeout required')
      : generation = g := by
    unfold publish at h
    split at h
    . simp only [List.mem_singleton, Action.setProxyInfo.injEq] at h
      exact h.1
    . simp at h
  unfold plan at h
  dsimp only at h
  split at h
  . simp at h
  . split at h
    . simp at h
    . split at h
      . simp only [List.cons_append, List.mem_cons, List.mem_append, reduceCtorEq, false_or,
          List.not_mem_nil, or_false] at h
        exact hpublish h
      . split at h
        . simp at h
        . simp only [List.mem_append, List.mem_cons, reduceCtorEq, List.not_mem_nil, or_false] at h
          exact hpublish h

theorem setWritableDestination_mem_plan {resolve : String → String → Option String}
    {cd : ClusterData} {d : Destination}
    (h : .setWritableDestination (some d) ∈ c.plan resolve (some cd))
    : d.dbuid = cd.proxy.spec.masterDBUID ∧ cd.proxy.spec.masterDBUID ∈ cd.dbs := by
  obtain ⟨rest, hplan, hrest⟩ | ⟨cd', addr, heq, hopens⟩ := c.plan_cases resolve (some cd)
  . rw [hplan, List.mem_cons] at h
    exact absurd (h.resolve_left (by simp)) (hrest (some d))
  . cases heq
    have hnot : .setWritableDestination (some d) ∉ c.publish cd.proxy.generation
        (max c.proxyTimeout cd.cluster.defSpec.proxyTimeout) true := by
      unfold publish
      split <;> simp
    rw [plan_of_opens hopens, List.mem_append] at h
    have h := h.resolve_left hnot
    simp only [List.mem_cons, reduceCtorEq, Action.setWritableDestination.injEq, false_or,
      List.not_mem_nil, or_false] at h
    obtain ⟨-, -, db, hdb, -⟩ := hopens
    refine ⟨?_, Std.ExtTreeMap.mem_iff_isSome_getElem?.mpr (by simp [hdb])⟩
    unfold enabledDestination at h
    split at h
    . cases h
      rfl
    . cases h

theorem head?_plan {resolve : String → String → Option String} {cd : ClusterData}
    (h : cd.proxy.spec.masterDBUID ∉ cd.dbs)
    : (c.plan resolve (some cd)).head? = some (.setWritableDestination none) := by
  obtain ⟨rest, hplan, -⟩ | ⟨cd', addr, heq, -, -, db, hdb, -⟩ := c.plan_cases resolve (some cd)
  . rw [hplan]
    rfl
  . cases heq
    exact absurd (Std.ExtTreeMap.mem_iff_isSome_getElem?.mpr (by simp [hdb])) h

end ClusterChecker
end Hysteron
