import Hysteron.Cluster.Timeline
import Hysteron.Util.Hex
import Hysteron.Util.Text

/-!
A WAL position and the name of a WAL file are compared as texts. On names that PostgreSQL gives to
segments of 16 MiB this is the comparison of segment numbers.
-/

namespace Hysteron

/--
The number of a segment by the name of its file. A name has eight digits each for the timeline and for
the high and the low part of the number.
-/
def walHigh (name : String) : Nat := Hex.value ((name.toList.drop 8).take 8)

@[inherit_doc walHigh]
def walLow (name : String) : Nat := Hex.value (name.toList.drop 16)

@[inherit_doc walHigh]
def walSegment (name : String) : Nat := walHigh name * 256 + walLow name

theorem isWalFileName_iff {name : String}
    : isWalFileName name = true ↔ name.toList.length = 24 ∧ ∀ c ∈ name.toList, c ∈ Hex.upperDigits := by
  have hsize : ∀ c ∈ Hex.upperDigits, c.utf8Size = 1 := by
    have hall : Hex.upperDigits.all (fun c => c.utf8Size == 1) = true := by decide +kernel
    intro c hc
    simpa using List.all_eq_true.mp hall c hc
  have hdigits : (∀ c ∈ name.toList, "0123456789ABCDEF".toList.contains c = true)
      ↔ ∀ c ∈ name.toList, c ∈ Hex.upperDigits :=
    forall₂_congr fun c _ => List.contains_iff_mem
  rw [isWalFileName, Bool.and_eq_true, List.all_eq_true, hdigits, decide_eq_true_eq]
  refine and_congr_left fun h => ?_
  rw [Text.utf8ByteSize_eq_length fun c hc => hsize c (h c hc)]

theorem toList_hex8 (n : Nat)
    : (hex8 n).toList = List.replicate (8 - (Hex.format n).length) '0' ++ Hex.format n := by
  rw [hex8, String.toList_ofList]
  rfl

theorem hex8_spec {n : Nat} (h : n < 2 ^ 32)
    : (hex8 n).toList.length = 8
        ∧
      (∀ c ∈ (hex8 n).toList, c ∈ Hex.upperDigits)
        ∧
      Hex.value (hex8 n).toList = n := by
  obtain ⟨hdigits, hvalue⟩ := Hex.format_spec n
  have hlength := Hex.length_format_le (by decide : 0 < 8) (by omega : n < 16 ^ 8)
  have hzero : '0' ∈ Hex.upperDigits := by decide
  rw [toList_hex8]
  refine ⟨?_, ?_, ?_⟩
  . rw [List.length_append, List.length_replicate]
    omega
  . refine List.forall_mem_append.mpr ⟨fun c hc => ?_, hdigits⟩
    rw [List.eq_of_mem_replicate hc]
    exact hzero
  . rw [Hex.value_replicate_append, hvalue]

theorem xlogPosToWalFileNameNoTimeline_spec {xLogPos : Nat} (h : xLogPos < 2 ^ 64)
    : (xlogPosToWalFileNameNoTimeline xLogPos walSegSize).toList.length = 16
        ∧
      (∀ c ∈ (xlogPosToWalFileNameNoTimeline xLogPos walSegSize).toList, c ∈ Hex.upperDigits)
        ∧
      Hex.value (xlogPosToWalFileNameNoTimeline xLogPos walSegSize).toList
        =
      xLogPos / 2 ^ 32 * 2 ^ 32 + xLogPos % 2 ^ 32 / walSegSize := by
  have hoffset : xLogPos % 2 ^ 32 / walSegSize < 2 ^ 32 :=
    Nat.lt_of_le_of_lt (Nat.div_le_self _ _) (Nat.mod_lt _ (by decide))
  obtain ⟨hlength, hdigits, hvalue⟩ := hex8_spec (Nat.mod_lt (xLogPos / 2 ^ 32) (by decide : 0 < 2 ^ 32))
  obtain ⟨hlength', hdigits', hvalue'⟩ := hex8_spec hoffset
  rw [xlogPosToWalFileNameNoTimeline, String.toList_append]
  refine ⟨?_, List.forall_mem_append.mpr ⟨hdigits, hdigits'⟩, ?_⟩
  . rw [List.length_append, hlength, hlength']
  . rw [Hex.value_append, hvalue, hvalue', hlength', Nat.mod_eq_of_lt (by omega),
      show 16 ^ 8 = 2 ^ 32 by norm_num]

theorem walFileNameNoTimeLine_eq {name : String} (h : isWalFileName name = true)
    : walFileNameNoTimeLine name = .ok (String.ofList (name.toList.drop 8)) := by
  obtain ⟨hlength, -⟩ := isWalFileName_iff.mp h
  rw [walFileNameNoTimeLine, if_pos h, List.take_of_length_le (by omega)]

theorem value_drop_eight {name : String} (h : isWalFileName name = true)
    : Hex.value (name.toList.drop 8) = walHigh name * 2 ^ 32 + walLow name := by
  obtain ⟨hlength, -⟩ := isWalFileName_iff.mp h
  rw [← List.take_append_drop 8 (name.toList.drop 8), Hex.value_append, List.drop_drop]
  rw [List.length_drop, hlength]
  rfl

/--
The comparison of texts is the comparison of segment numbers.
-/
theorem isRequiredWalAvailable_eq (requiredXLogPos : Nat) (hpos : requiredXLogPos < 2 ^ 64)
    (oldestWalFile : String) (hname : isWalFileName oldestWalFile = true)
    (hlow : walLow oldestWalFile < 256)
    : isRequiredWalAvailable requiredXLogPos oldestWalFile walSegSize
        =
      .ok (decide (walSegment oldestWalFile ≤ requiredXLogPos / walSegSize)) := by
  obtain ⟨hlength, hdigits⟩ := isWalFileName_iff.mp hname
  obtain ⟨hlength', hdigits', hvalue'⟩ := xlogPosToWalFileNameNoTimeline_spec hpos
  have hne : oldestWalFile ≠ "" := by
    rintro rfl
    simp at hlength
  have hvalue := value_drop_eight hname
  have horder : String.ofList (oldestWalFile.toList.drop 8)
        ≤ xlogPosToWalFileNameNoTimeline requiredXLogPos walSegSize
      ↔ walSegment oldestWalFile ≤ requiredXLogPos / walSegSize := by
    rw [String.le_iff_toList_le, String.toList_ofList, ← not_lt,
      Hex.lt_iff_value_lt hdigits' (fun c hc => hdigits c (List.mem_of_mem_drop hc))
        (by rw [hlength', List.length_drop, hlength]),
      hvalue, hvalue', not_lt, walSegment, walSegSize]
    omega
  rw [isRequiredWalAvailable, if_neg hne, walFileNameNoTimeLine_eq hname]
  exact congrArg Except.ok (decide_eq_decide.mpr horder)

theorem isRequiredWalAvailable_eq_sample
    : isWalFileName "000000020000000100000000" = true
        ∧
      isRequiredWalAvailable (2 ^ 32) "000000020000000100000000" walSegSize
        =
      .ok (decide (256 ≤ 2 ^ 32 / walSegSize)) := by
  have hfacts : isWalFileName "000000020000000100000000" = true
      ∧ walLow "000000020000000100000000" < 256 ∧ walSegment "000000020000000100000000" = 256 := by
    decide +kernel
  obtain ⟨hname, hlow, hsegment⟩ := hfacts
  rw [← hsegment]
  exact ⟨hname, isRequiredWalAvailable_eq (2 ^ 32) (by norm_num) _ hname hlow⟩

end Hysteron
