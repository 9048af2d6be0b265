import Hysteron.Keeper.Settings
import Hysteron.Sentinel.Election
import Hysteron.Util.SyncStandbyNames

/-!
What the `synchronous_standby_names` that a keeper writes require of a commit.
-/

namespace Hysteron
namespace Keeper

open SyncStandbyNames

variable {db : DB} {uid : String}

theorem isIdentifier_of_start {name : String} (rest : List Char) (hname : name.toList = 'h' :: rest)
    (hrest : ∀ c ∈ rest, identCont c = true) : IsIdentifier name := by
  refine ⟨⟨'h', rest, hname, rfl, hrest⟩, ?_⟩
  rw [hname, keyword, if_neg (by simp), if_neg (by simp)]

theorem isIdentifier_hysteronName (h : ∀ c ∈ uid.toList, identCont c = true)
    : IsIdentifier (hysteronName uid) := by
  have hprefix : "ysteron_".toList.all identCont = true := by decide
  apply isIdentifier_of_start ("ysteron_".toList ++ uid.toList)
  . rw [hysteronName, String.toList_append]
    rfl
  . intro c hc
    exact (List.mem_append.mp hc).elim (List.all_eq_true.mp hprefix c) (h c)

theorem isIdentifier_fakeStandbyName : IsIdentifier fakeStandbyName :=
  isIdentifier_of_start fakeStandbyName.toList.tail rfl (List.all_eq_true.mp (by decide))

theorem read_synchronousStandbyNamesParameter (hsync : db.spec.synchronousReplication = true)
    (hnames : ∀ name ∈ synchronousStandbyNames db, IsIdentifier name)
    : read (synchronousStandbyNamesParameter db)
        =
      some { count := (synchronousStandbyNames db).length, names := synchronousStandbyNames db } := by
  unfold synchronousStandbyNamesParameter
  dsimp only
  rw [if_pos hsync]
  generalize synchronousStandbyNames db = names at hnames
  split
  . next hmany =>
    have hpos : 0 < names.length := by omega
    exact read_numbered (List.ne_nil_of_length_pos hpos) hnames hpos
  . next hfew =>
    cases names with
    | nil => rfl
    | cons name rest =>
      obtain rfl : rest = [] := List.eq_nil_of_length_eq_zero (by simpa using hfew)
      exact read_single (hnames name (by simp))

/--
The keeper has the instance require a confirmation by every synchronous standby that the spec lists,
so that no commit is acknowledged without them.
-/
def WaitsForAll (db : DB) : Prop :=
  ∀ (cfg : Config) (readings : Readings) (initPGParameters : Option PGParameters),
    ∃ (value : String) (r : Requirement),
      (createPGParameters cfg readings initPGParameters db)["synchronous_standby_names"]? = some value
        ∧
      read value = some r
        ∧
      r.names = synchronousStandbyNames db
        ∧
      ∀ (confirmed : String → Bool), r.Acknowledges confirmed →
        ∀ name ∈ synchronousStandbyNames db, confirmed name = true

theorem waitsForAll_of_plain (hsync : db.spec.synchronousReplication = true)
    (hplain : ∀ uid ∈ db.spec.synchronousStandbys.elems, ∀ c ∈ uid.toList, identCont c = true)
    (hexternal : ∀ name ∈ db.spec.externalSynchronousStandbys.elems, name = fakeStandbyName)
    : WaitsForAll db := by
  intro cfg readings initPGParameters
  have hnames : ∀ name ∈ synchronousStandbyNames db, IsIdentifier name := by
    intro name hname
    obtain hname | hname := List.mem_append.mp hname
    . obtain ⟨uid, huid, rfl⟩ := List.mem_map.mp hname
      exact isIdentifier_hysteronName (hplain uid huid)
    . rw [hexternal name hname]
      exact isIdentifier_fakeStandbyName
  refine ⟨synchronousStandbyNamesParameter db, _, by simp [createPGParameters],
    read_synchronousStandbyNamesParameter hsync hnames, rfl, ?_⟩
  intro confirmed hacknowledged
  exact Requirement.confirmed_of_acknowledges rfl hacknowledged

end Keeper
end Hysteron
