import Hysteron.Cluster.Validated

/-!
The margins between the timings of a cluster spec. Validation computes them with 64-bit integers, and so
does the sentinel.
-/

namespace Hysteron

/--
A check with its retries fits in the fail interval, and a proxy that polls in time and then still
answers for its timeout is not yet taken for silent. The sentinel computes the double of the timeout.
-/
def TimingFits (s : DefSpec) : Prop :=
  s.sleepInterval + 2 * s.requestTimeout ≤ s.failInterval
    ∧
  s.proxyCheckInterval + s.proxyTimeout < int64 (2 * s.proxyTimeout)

def timingsOf (s : DefSpec) : List Duration :=
  [s.sleepInterval, s.requestTimeout, s.failInterval, s.proxyCheckInterval, s.proxyTimeout]

theorem int64_eq_self_iff {n : Int} : int64 n = n ↔ -2 ^ 63 ≤ n ∧ n < 2 ^ 63 := by
  rw [int64]
  constructor
  . intro h
    have hle := Int.le_bmod (x := n) (m := 2 ^ 64) (by decide)
    have hlt := Int.bmod_lt (x := n) (m := 2 ^ 64) (by decide)
    omega
  . rintro ⟨hle, hlt⟩
    exact Int.bmod_eq_of_le (by omega) (by omega)

theorem int64_of_le {n : Int} (hle : 2 ^ 63 ≤ n) (hlt : n < 2 ^ 64) : int64 n = n - 2 ^ 64 := by
  rw [int64, Int.bmod_def, Int.emod_eq_of_lt (by omega) (by omega), if_neg (by omega)]
  rfl

theorem checkFits_iff {s : DefSpec} (h : ClusterSpec.ValidTimings s)
    (hfail : int64 s.failInterval = s.failInterval)
    : s.sleepInterval + 2 * s.requestTimeout ≤ s.failInterval
        ↔
      s.sleepInterval + 2 * s.requestTimeout < 2 ^ 63 := by
  obtain ⟨-, hlt⟩ := int64_eq_self_iff.mp hfail
  constructor
  . intro hle
    exact Int.lt_of_le_of_lt hle hlt
  . intro hsum
    have hsleep := h.sleepInterval
    have hrequest := h.requestTimeout
    have hexact : int64 (s.sleepInterval + 2 * s.requestTimeout)
        = s.sleepInterval + 2 * s.requestTimeout :=
      int64_eq_self_iff.mpr ⟨by linarith, hsum⟩
    rw [← hexact]
    exact h.haTiming

theorem proxyFits_iff {s : DefSpec} (h : ClusterSpec.ValidTimings s)
    (htimeout : int64 s.proxyTimeout = s.proxyTimeout)
    : s.proxyCheckInterval + s.proxyTimeout < int64 (2 * s.proxyTimeout)
        ↔
      s.proxyTimeout < 2 ^ 62 := by
  obtain ⟨-, hlt⟩ := int64_eq_self_iff.mp htimeout
  have hcheck := h.proxyCheckInterval
  have hproxy := h.proxyTimeout
  constructor
  . intro hfits
    by_contra hle
    have hle : 2 ^ 62 ≤ s.proxyTimeout := not_lt.mp hle
    rw [int64_of_le (by linarith) (by linarith)] at hfits
    linarith
  . intro hlt
    have hexact : int64 (2 * s.proxyTimeout) = 2 * s.proxyTimeout :=
      int64_eq_self_iff.mpr ⟨by linarith, by linarith⟩
    rw [hexact]
    linarith

/--
The timings of a valid spec fit exactly if the sum of the check fits in 64 bits and so does the double
of the timeout of proxies. A sum that does not fit passes the validation as a negative number.
-/
theorem timingFits_iff (spec : ClusterSpec) (hvalid : spec.validate = .ok ())
    (hint64 : ∀ d ∈ timingsOf spec.withDefaults, int64 d = d)
    : TimingFits spec.withDefaults
        ↔
      spec.withDefaults.sleepInterval + 2 * spec.withDefaults.requestTimeout < 2 ^ 63
        ∧
      spec.withDefaults.proxyTimeout < 2 ^ 62 := by
  have htimings := ClusterSpec.validTimings_of_validate hvalid
  have hfail := hint64 spec.withDefaults.failInterval (by simp [timingsOf])
  have htimeout := hint64 spec.withDefaults.proxyTimeout (by simp [timingsOf])
  rw [TimingFits, checkFits_iff htimings hfail, proxyFits_iff htimings htimeout]

theorem timingFits_iff_sample
    : ({ initMode := some .new } : ClusterSpec).validate = .ok ()
        ∧
      TimingFits ({ initMode := some .new } : ClusterSpec).withDefaults := by
  have hvalid : ({ initMode := some .new } : ClusterSpec).validate = .ok () := by decide +kernel
  refine ⟨hvalid, (timingFits_iff _ hvalid ?_).mpr ?_⟩
  . decide +kernel
  . decide +kernel

/--
A request timeout of 2^62 nanoseconds passes, because its double is read as a negative number.
-/
theorem timing_wraps_around
    : ({ initMode := some .new, requestTimeout := some (2 ^ 62) } : ClusterSpec).validate = .ok ()
        ∧
      ¬TimingFits ({ initMode := some .new, requestTimeout := some (2 ^ 62) }
        : ClusterSpec).withDefaults := by
  constructor
  . decide +kernel
  . rintro ⟨hfits, -⟩
    exact absurd hfits (by decide +kernel)

end Hysteron
