import Hysteron.Safety.ConnRoundTrip

/-!
What the log reveals of the replication password: the summary of the recovery parameters is compared
for two passwords.
-/

namespace Hysteron
namespace Postgres

open ClusterSpec (isSpace)
open Keeper (connString)

section Summary

variable {order : VisitOrder String} {parameters : PGParameters}

theorem addRecoverySummary_getElem? (out : FinMap String RecoverySummary) (key key' : String)
    : (addRecoverySummary parameters out key')[key]?
        =
      if key' = key then (parameters[key]?.bind (summarizeRecoveryParameter key)).or out[key]? else
        out[key]? := by
  unfold addRecoverySummary
  by_cases hkey : key' = key
  . subst hkey
    rw [if_pos rfl]
    cases parameters[key']?.bind (summarizeRecoveryParameter key') with
    | none => rfl
    | some summary => simp
  . rw [if_neg hkey]
    cases parameters[key']?.bind (summarizeRecoveryParameter key') with
    | none => rfl
    | some summary => simp [Std.ExtTreeMap.getElem?_insert, hkey]

theorem foldl_addRecoverySummary_getElem? (key : String) (keys : List String)
    (out : FinMap String RecoverySummary)
    : (keys.foldl (addRecoverySummary parameters) out)[key]?
        =
      if key ∈ keys then (parameters[key]?.bind (summarizeRecoveryParameter key)).or out[key]? else
        out[key]? := by
  induction keys generalizing out with
  | nil => simp
  | cons first keys ih =>
    rw [List.foldl_cons, ih, addRecoverySummary_getElem?]
    by_cases hfirst : first = key
    . subst hfirst
      cases parameters[first]?.bind (summarizeRecoveryParameter first) <;> simp
    . simp [hfirst, Ne.symm hfirst]

theorem logSummaryRecoveryParameters_getElem? (key : String)
    : (logSummaryRecoveryParameters order parameters)[key]?
        =
      parameters[key]?.bind (summarizeRecoveryParameter key) := by
  rw [logSummaryRecoveryParameters, foldl_addRecoverySummary_getElem?]
  simp only [VisitOrder.mem_visit, Std.ExtTreeMap.mem_keys, Std.ExtTreeMap.getElem?_empty,
    Option.or_none]
  split
  . rfl
  . next hkey =>
    rw [Std.ExtTreeMap.getElem?_eq_none hkey]
    rfl

variable {params : List (String × String)} {password password' : String}

def withPassword (params : List (String × String)) (password : String) : List (String × String) :=
  ("password", password) :: params

structure EscapedParams (params : List (String × String)) : Prop where
  keys : ∀ kv ∈ params, ∀ c ∈ kv.1.toList, isKeyChar c = true
  values : ∀ kv ∈ params, OnlyBlanks kv.2.toList

theorem getConnParam_eq_some_iff (hnodup : (params.map Prod.fst).Nodup) {key : String}
    {value : List Char}
    : getConnParam (connEntries params) key.toList = some value
        ↔
      ∃ kv ∈ params, kv.2 ≠ "" ∧ key = kv.1 ∧ value = kv.2.toList := by
  have hfound : getConnParam (connEntries params) key.toList = some value
      ↔ (key.toList, value) ∈ connEntries params :=
    LibPQ.valueOf_eq_some_iff (nodup_connEntries hnodup)
  rw [hfound, mem_connEntries]
  simp only [Prod.mk.injEq, String.toList_inj]

theorem nodup_withPassword (hnodup : ("password" :: params.map Prod.fst).Nodup)
    : ((withPassword params password).map Prod.fst).Nodup := by
  rwa [withPassword, List.map_cons]

theorem getConnParam_withPassword (hnodup : ("password" :: params.map Prod.fst).Nodup)
    {key : String} (hkey : key ≠ "password")
    : getConnParam (connEntries (withPassword params password)) key.toList
        =
      getConnParam (connEntries (withPassword params password')) key.toList := by
  apply Option.ext
  intro value
  rw [getConnParam_eq_some_iff (nodup_withPassword hnodup),
    getConnParam_eq_some_iff (nodup_withPassword hnodup)]
  simp [withPassword, hkey]

theorem getConnParam_password (hnodup : ("password" :: params.map Prod.fst).Nodup)
    (hne : password ≠ "")
    : getConnParam (connEntries (withPassword params password)) "password".toList
        =
      some password.toList :=
  (getConnParam_eq_some_iff (nodup_withPassword hnodup)).mpr ⟨_, List.mem_cons_self, hne, rfl, rfl⟩

theorem connEntries_withPassword_ne_nil (hne : password ≠ "")
    : connEntries (withPassword params password) ≠ [] :=
  List.ne_nil_of_mem (mem_connEntries.mpr ⟨_, List.mem_cons_self, hne, rfl⟩)

theorem logSummaryConnParams_withPassword (hnodup : ("password" :: params.map Prod.fst).Nodup)
    (hne : password ≠ "") (hne' : password' ≠ "")
    : logSummaryConnParams (connEntries (withPassword params password))
        =
      logSummaryConnParams (connEntries (withPassword params password')) := by
  have hfields : ∀ key ∈ allowedConnParams,
      getConnParam (connEntries (withPassword params password)) key.toList
        = getConnParam (connEntries (withPassword params password')) key.toList := by
    intro key hkey
    refine getConnParam_withPassword hnodup ?_
    rintro rfl
    exact absurd hkey (by decide)
  rw [logSummaryConnParams, logSummaryConnParams, if_neg (connEntries_withPassword_ne_nil hne),
    if_neg (connEntries_withPassword_ne_nil hne'), getConnParam_password hnodup hne,
    getConnParam_password hnodup hne']
  congr 2
  exact List.filterMap_congr fun key hkey => by rw [hfields key hkey]

theorem summarizeRecoveryParameter_conninfo {key value : String} (hkey : key = "primary_conninfo")
    (hvalue : value ≠ "") {entries : List (List Char × List Char)}
    (hparse : parseConnString value.toList = .ok entries)
    : summarizeRecoveryParameter key value
        =
      some (.connParams (logSummaryConnParams entries)) := by
  have hname : ¬("password".toList <:+: (ClusterSpec.toLower key).toList
      ∨ ClusterSpec.toLower key = "passfile") := by
    rw [hkey]
    decide +kernel
  unfold summarizeRecoveryParameter
  dsimp only
  split
  . next h => exact absurd h hname
  . split
    . next herror =>
      rw [hparse] at herror
      cases herror
    . next params hok =>
      rw [hparse] at hok
      rw [Except.ok.inj hok]

theorem summarizeRecoveryParameter_connString (h : EscapedParams (withPassword params password))
    (hne : password ≠ "")
    : summarizeRecoveryParameter "primary_conninfo" (connString (withPassword params password))
        =
      some (.connParams (logSummaryConnParams (connEntries (withPassword params password)))) := by
  have hparse := parseConnString_connString h.keys h.values
  have hnonempty : connString (withPassword params password) ≠ "" := by
    intro hempty
    rw [hempty] at hparse
    exact connEntries_withPassword_ne_nil hne (Except.ok.inj hparse).symm
  exact summarizeRecoveryParameter_conninfo rfl hnonempty hparse

/--
The log does not depend on the password if the only white space in keys and values are the blanks of
values. The connection string does not escape a tab or a newline, at which the parser ends a value:
the text behind it is taken for a key, which an error names, or for the value of another parameter.
-/
theorem logSummary_eq_of_escapedParams (order order' : VisitOrder String)
    (parameters parameters' : PGParameters) (params : List (String × String))
    (password password' : String) (hne : password ≠ "") (hne' : password' ≠ "")
    (hnodup : ("password" :: params.map Prod.fst).Nodup)
    (hconninfo : parameters["primary_conninfo"]? = some (connString (withPassword params password)))
    (hconninfo' : parameters'["primary_conninfo"]?
      = some (connString (withPassword params password')))
    (hothers : ∀ (key : String), key ≠ "primary_conninfo" → parameters[key]? = parameters'[key]?)
    (h : EscapedParams (withPassword params password))
    (h' : EscapedParams (withPassword params password'))
    : logSummaryRecoveryParameters order parameters
        =
      logSummaryRecoveryParameters order' parameters' := by
  apply Std.ExtTreeMap.ext_getElem?
  intro key
  rw [logSummaryRecoveryParameters_getElem?, logSummaryRecoveryParameters_getElem?]
  by_cases hkey : key = "primary_conninfo"
  . subst hkey
    rw [hconninfo, hconninfo', Option.bind_some, Option.bind_some,
      summarizeRecoveryParameter_connString h hne, summarizeRecoveryParameter_connString h' hne',
      logSummaryConnParams_withPassword hnodup hne hne']
  . rw [hothers key hkey]

def loggedParams (password : String) : List (String × String) :=
  withPassword [("user", "repl"), ("host", "10.0.0.1"), ("port", "5432")] password

def loggedRecovery (password : String) : PGParameters :=
  (Keeper.createRecoveryOptions .standby
    (some { primaryConninfo := connString (loggedParams password), primarySlotName := "hysteron_db1" })
    none none).recoveryParameters

theorem loggedRecovery_eq (h : connString (loggedParams password) ≠ "")
    : loggedRecovery password
        =
      (((∅ : PGParameters).insert "primary_conninfo" (connString (loggedParams password))).insert
        "primary_slot_name" "hysteron_db1").insert "recovery_target_timeline" "latest" := by
  simp [loggedRecovery, Keeper.createRecoveryOptions, Keeper.insertSet, h]

theorem loggedRecovery_conninfo (h : connString (loggedParams password) ≠ "")
    : (loggedRecovery password)["primary_conninfo"]? = some (connString (loggedParams password)) := by
  rw [loggedRecovery_eq h]
  simp only [Std.ExtTreeMap.getElem?_insert, compare_eq_iff_eq, String.reduceEq, ↓reduceIte]

theorem logSummary_eq_of_escapedParams_sample
    : logSummaryRecoveryParameters .stored (loggedRecovery "it's a \\ secret")
        =
      logSummaryRecoveryParameters .stored (loggedRecovery "plain") := by
  have hne : connString (loggedParams "it's a \\ secret") ≠ "" := by decide +kernel
  have hne' : connString (loggedParams "plain") ≠ "" := by decide +kernel
  have hescaped : (["it's a \\ secret", "plain"].all (fun password =>
      (loggedParams password).all (fun kv => kv.1.toList.all isKeyChar
        && kv.2.toList.all (fun c => !isSpace c || c == ' ')))) = true := by
    decide +kernel
  have hparams (password : String) (hpassword : password ∈ ["it's a \\ secret", "plain"])
      : EscapedParams (loggedParams password) := by
    have hall := List.all_eq_true.mp (List.all_eq_true.mp hescaped password hpassword)
    simp only [Bool.and_eq_true, List.all_eq_true, Bool.or_eq_true, Bool.not_eq_true',
      beq_iff_eq] at hall
    refine ⟨fun kv hkv => (hall kv hkv).1, fun kv hkv c hc hspace => ?_⟩
    exact ((hall kv hkv).2 c hc).resolve_left (by simp [hspace])
  refine logSummary_eq_of_escapedParams _ _ _ _ [("user", "repl"), ("host", "10.0.0.1"),
    ("port", "5432")] _ _ (by decide) (by decide) (by decide) (loggedRecovery_conninfo hne)
    (loggedRecovery_conninfo hne') ?_ (hparams _ (by simp)) (hparams _ (by simp))
  intro key hkey
  rw [loggedRecovery_eq hne, loggedRecovery_eq hne']
  simp [Std.ExtTreeMap.getElem?_insert, Ne.symm hkey]

/--
The log names the part of a password behind a tab.
-/
theorem password_behind_tab_logged
    : (logSummaryRecoveryParameters .stored (loggedRecovery "x\tsecret"))["primary_conninfo"]?
          = some (.parseError (.missingEquals "secret".toList))
        ∧
      (logSummaryRecoveryParameters .stored (loggedRecovery "plain"))["primary_conninfo"]?
          = some (.connParams (some {
              fields := [("host", "10.0.0.1".toList), ("port", "5432".toList), ("user", "repl".toList)]
              passwordSet := true
            })) := by
  have hfacts : connString (loggedParams "x\tsecret") ≠ ""
      ∧ connString (loggedParams "plain") ≠ ""
      ∧ summarizeRecoveryParameter "primary_conninfo" (connString (loggedParams "x\tsecret"))
          = some (.parseError (.missingEquals "secret".toList))
      ∧ summarizeRecoveryParameter "primary_conninfo" (connString (loggedParams "plain"))
          = some (.connParams (some {
              fields := [("host", "10.0.0.1".toList), ("port", "5432".toList), ("user", "repl".toList)]
              passwordSet := true
            })) := by
    decide +kernel
  obtain ⟨hne, hne', hsummary, hsummary'⟩ := hfacts
  rw [logSummaryRecoveryParameters_getElem?, logSummaryRecoveryParameters_getElem?,
    loggedRecovery_conninfo hne, loggedRecovery_conninfo hne']
  exact ⟨hsummary, hsummary'⟩

end Summary

end Postgres
end Hysteron
