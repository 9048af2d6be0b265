import Hysteron.Cluster.Validate
import Hysteron.Util.Except

/-!
What is known of the timings of a cluster spec that has been validated.
-/

namespace Hysteron
namespace ClusterSpec

theorem reject_eq_ok_iff {bad : Bool} {message : String} {u : Unit}
    : reject bad message = .ok u ↔ bad = false := by
  cases bad <;> simp [reject]

structure ValidTimings (s : DefSpec) : Prop where
  sleepInterval : 0 ≤ s.sleepInterval
  requestTimeout : 0 ≤ s.requestTimeout
  failInterval : 0 ≤ s.failInterval
  proxyCheckInterval : 0 ≤ s.proxyCheckInterval
  proxyTimeout : s.proxyCheckInterval < s.proxyTimeout
  haTiming : int64 (s.sleepInterval + 2 * s.requestTimeout) ≤ s.failInterval
  maxSynchronousStandbys : 1 ≤ s.maxSynchronousStandbys

theorem validTimings_of_validateTimings {s : DefSpec} (h : validateTimings s = .ok ())
    : ValidTimings s := by
  simp only [validateTimings, validateHATiming, Except.bind_eq_ok_iff, reject_eq_ok_iff,
    exists_const, decide_eq_false_iff_not, not_lt, not_le] at h
  obtain ⟨hsleep, hrequest, -, -, -, -, hfail, -, -, -, -, -, -, -, -, hcheck, -, hproxy, hha, -, -,
    hmax, -⟩ := h
  exact ⟨hsleep, hrequest, hfail, hcheck, hproxy, hha, UInt16.not_lt.mp hmax⟩

theorem validTimings_of_validate {spec : ClusterSpec} (h : spec.validate = .ok ())
    : ValidTimings spec.withDefaults := by
  simp only [validate, Except.bind_eq_ok_iff] at h
  obtain ⟨⟨⟩, htimings, -⟩ := h
  exact validTimings_of_validateTimings htimings

end ClusterSpec
end Hysteron
