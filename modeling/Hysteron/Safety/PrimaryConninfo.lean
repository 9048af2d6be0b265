import Hysteron.Safety.ConfRoundTrip
import Hysteron.Util.LibPQ

/-!
The connection string of a standby on its way to libpq: the keeper writes it as a recovery parameter,
PostgreSQL reads it from the file, and libpq parses it. The keeper escapes it once, for libpq, and
PostgreSQL takes these escapes away.
-/

namespace Hysteron
namespace Postgres

open Keeper (connString escapeConnValue)

def nonEmptyParams (params : List (String × String)) : List (List Char × List Char) :=
  (params.filter (fun kv => kv.2 ≠ "")).map (fun kv => (kv.1.toList, kv.2.toList))

section Chunks

variable {entries : List (List Char × List Char)}

def isEscaped (c : Char) : Bool := c == ' ' || c == '\'' || c == '\\'

def valueChunks (value : List Char) : List (Bool × Char) := value.map (fun c => (isEscaped c, c))

def plainChunks (text : List Char) : List (Bool × Char) := text.map (fun c => (false, c))

def connChunks : List (List Char × List Char) → List (Bool × Char)
  | [] => []
  | [entry] => plainChunks (entry.1 ++ ['=']) ++ valueChunks entry.2
  | entry :: entries =>
    plainChunks (entry.1 ++ ['=']) ++ valueChunks entry.2 ++ (false, ' ') :: connChunks entries

theorem snd_connChunks (entries : List (List Char × List Char))
    : (connChunks entries).map Prod.snd = LibPQ.render entries := by
  fun_induction connChunks entries with
  | case1 => rfl
  | case2 entry => simp [plainChunks, valueChunks, Function.comp_def]
  | case3 entry entries hne ih =>
    obtain ⟨entry', entries, rfl⟩ := List.exists_cons_of_ne_nil (by simpa using hne)
    rw [LibPQ.render_cons_cons, ← ih]
    simp [plainChunks, valueChunks, Function.comp_def]

def escapeChars (value : List Char) : List Char :=
  value.flatMap (fun c => if isEscaped c then ['\\', c] else [c])

theorem toList_escapeConnValue (value : String)
    : (escapeConnValue value).toList = escapeChars value.toList := by
  simp only [escapeConnValue, String.toList_ofList, escapeChars]
  congr 1
  funext c
  simp only [isEscaped, Bool.or_eq_true, beq_iff_eq, or_assoc]

theorem escapedText_append (a b : List (Bool × Char))
    : ConfFile.escapedText (a ++ b) = ConfFile.escapedText a ++ ConfFile.escapedText b :=
  List.flatMap_append

theorem escapedText_plainChunks (text : List Char)
    : ConfFile.escapedText (plainChunks text) = text := by
  induction text with
  | nil => rfl
  | cons c text ih => exact congrArg (c :: ·) ih

theorem escapedText_valueChunks (value : List Char)
    : ConfFile.escapedText (valueChunks value) = escapeChars value := by
  rw [ConfFile.escapedText, valueChunks, List.flatMap_map]
  rfl

theorem escapedText_connChunks (entries : List (List Char × List Char))
    : ConfFile.escapedText (connChunks entries)
        =
      [' '].intercalate (entries.map (fun entry => entry.1 ++ '=' :: escapeChars entry.2)) := by
  fun_induction connChunks entries with
  | case1 => rfl
  | case2 entry =>
    rw [escapedText_append, escapedText_plainChunks, escapedText_valueChunks]
    simp
  | case3 entry entries hne ih =>
    obtain ⟨entry', entries, rfl⟩ := List.exists_cons_of_ne_nil (by simpa using hne)
    have hspace (chunks : List (Bool × Char))
        : ConfFile.escapedText ((false, ' ') :: chunks) = ' ' :: ConfFile.escapedText chunks := rfl
    rw [escapedText_append, escapedText_append, escapedText_plainChunks, escapedText_valueChunks,
      hspace, ih]
    simp [List.intercalate_cons_cons]

theorem wellEscaped_connChunks
    (h : ∀ entry ∈ entries, ∀ c ∈ entry.1, c ≠ '\\' ∧ c ≠ '\'')
    : ConfFile.WellEscaped (connChunks entries) := by
  have hvalue (value : List Char) : ConfFile.WellEscaped (valueChunks value) := by
    intro chunk hchunk
    obtain ⟨c, -, rfl⟩ := List.mem_map.mp hchunk
    cases hc : isEscaped c with
    | true => exact hc
    | false =>
      simp only [isEscaped, Bool.or_eq_false_iff, beq_eq_false_iff_ne] at hc
      simpa using ⟨hc.2, hc.1.2⟩
  have hkey (entry : List Char × List Char) (hentry : ∀ c ∈ entry.1, c ≠ '\\' ∧ c ≠ '\'')
      : ConfFile.WellEscaped (plainChunks (entry.1 ++ ['='])) := by
    intro chunk hchunk
    obtain ⟨c, hc, rfl⟩ := List.mem_map.mp hchunk
    obtain hc | hc := List.mem_append.mp hc
    . simpa using hentry c hc
    . rw [List.mem_singleton.mp hc]
      simp
  fun_induction connChunks entries with
  | case1 => simp [ConfFile.WellEscaped]
  | case2 entry =>
    have hentry := h entry List.mem_cons_self
    exact List.forall_mem_append.mpr ⟨hkey entry hentry, hvalue entry.2⟩
  | case3 entry entries hne ih =>
    obtain ⟨hentry, htail⟩ := List.forall_mem_cons.mp h
    refine List.forall_mem_append.mpr ⟨?_, List.forall_mem_cons.mpr ⟨by simp, ih htail⟩⟩
    exact List.forall_mem_append.mpr ⟨hkey entry hentry, hvalue entry.2⟩

end Chunks

section Sorted

variable {params : List (String × String)}

def kvText (kv : String × String) : String := kv.1 ++ "=" ++ escapeConnValue kv.2

def connEntries (params : List (String × String)) : List (List Char × List Char) :=
  ((params.filter (fun kv => kv.2 ≠ "")).insertionSort
    (fun kv kv' => kvText kv ≤ kvText kv')).map (fun kv => (kv.1.toList, kv.2.toList))

theorem perm_connEntries : (connEntries params).Perm (nonEmptyParams params) :=
  (List.perm_insertionSort _ _).map _

theorem toList_connString (params : List (String × String))
    : (connString params).toList = ConfFile.escapedText (connChunks (connEntries params)) := by
  have hsort : Slices.sortStrings ((params.filter (fun kv => kv.2 ≠ "")).map kvText)
      = ((params.filter (fun kv => kv.2 ≠ "")).insertionSort
          (fun kv kv' => kvText kv ≤ kvText kv')).map kvText :=
    (List.map_insertionSort _ _ kvText _ (fun _ _ _ _ => Iff.rfl)).symm
  have hspace : " ".toList = [' '] := rfl
  have hequals : "=".toList = ['='] := rfl
  rw [escapedText_connChunks, connEntries, List.map_map, connString,
    show (fun kv : String × String => kv.1 ++ "=" ++ escapeConnValue kv.2) = kvText from rfl,
    hsort, String.toList_intercalate, hspace, List.map_map]
  congr 2
  funext kv
  simp [kvText, toList_escapeConnValue, hequals]

end Sorted

section File

variable {known : List Char → Bool} {order recoveryOrder : VisitOrder String}
  {parameters recoveryParameters : PGParameters} {recoveryOptions : Keeper.RecoveryOptions}
  {params : List (String × String)}

def ConnParamsSurvive (known : List Char → Bool) (file : List Char)
    (params : List (String × String)) : Prop :=
  ∃ (settings found : List (List Char × List Char)) (conninfo : List Char),
    ConfFile.read file = .ok settings
      ∧
    ConfFile.valueOf settings "primary_conninfo".toList = some conninfo
      ∧
    LibPQ.connInfo known conninfo = some found
      ∧
    ∀ (keyword value : List Char),
      LibPQ.valueOf found keyword = some value ↔ (keyword, value) ∈ nonEmptyParams params

def replConnKeys : List String :=
  ["user", "host", "port", "application_name", "sslmode", "password"]

structure OtherSetting (name value : String) : Prop where
  isName : ConfFile.isName name.toList = true
  other : ConfFile.sameName name.toList "primary_conninfo".toList = false
  isClean : ∀ c ∈ value.toList, ConfFile.isClean c = true

/--
All other lines of the file are. The quotes of recovery parameters are not doubled, so they have none.
-/
structure OtherSettings (parameters recoveryParameters : PGParameters) : Prop where
  parameters : ∀ (name value : String), parameters[name]? = some value → OtherSetting name value
  recovery : ∀ (name value : String), recoveryParameters[name]? = some value →
    name ≠ "primary_conninfo" → OtherSetting name value ∧ '\'' ∉ value.toList

theorem isName_primary_conninfo : ConfFile.isName "primary_conninfo".toList = true := by
  decide +kernel

def isPlainKeyChar (c : Char) : Bool :=
  LibPQ.isKeywordChar c && c != '\\' && c != '\'' && c != '\n' && c != '\x00'

theorem isPlainKeyChar_of_mem {key : String} (hkey : key ∈ replConnKeys) {c : Char}
    (hc : c ∈ key.toList) : isPlainKeyChar c = true := by
  have hall : (replConnKeys.all (fun key => key.toList.all isPlainKeyChar)) = true := by
    decide +kernel
  exact List.all_eq_true.mp (List.all_eq_true.mp hall key hkey) c hc

theorem isKeyword_of_mem {key : String} (hkey : key ∈ replConnKeys)
    (hknown : ∀ key ∈ replConnKeys, known key.toList = true)
    : LibPQ.IsKeyword known key.toList := by
  have hne : (replConnKeys.all (fun key => !key.toList.isEmpty)) = true := by
    decide +kernel
  refine ⟨hknown key hkey, ?_, fun c hc => ?_⟩
  . simpa using List.all_eq_true.mp hne key hkey
  . have hplain := isPlainKeyChar_of_mem hkey hc
    simp only [isPlainKeyChar, Bool.and_eq_true] at hplain
    exact hplain.1.1.1.1

theorem mem_nonEmptyParams {entry : List Char × List Char}
    : entry ∈ nonEmptyParams params
        ↔
      ∃ kv ∈ params, kv.2 ≠ "" ∧ entry = (kv.1.toList, kv.2.toList) := by
  simp only [nonEmptyParams, List.mem_map, List.mem_filter, decide_eq_true_eq, and_assoc,
    eq_comm (a := entry)]

theorem mem_connEntries {entry : List Char × List Char}
    : entry ∈ connEntries params
        ↔
      ∃ kv ∈ params, kv.2 ≠ "" ∧ entry = (kv.1.toList, kv.2.toList) := by
  rw [perm_connEntries.mem_iff, mem_nonEmptyParams]

theorem exists_of_mem_render (hkeys : ∀ kv ∈ params, kv.1 ∈ replConnKeys) {c : Char}
    (hc : isPlainKeyChar c = false) (hspace : c ≠ ' ') (hequals : c ≠ '=')
    (h : c ∈ LibPQ.render (connEntries params))
    : ∃ kv ∈ params, c ∈ kv.2.toList := by
  obtain h | h | ⟨entry, hentry, h⟩ := LibPQ.mem_render h
  . exact absurd h hequals
  . exact absurd h hspace
  . obtain ⟨kv, hkv, -, rfl⟩ := mem_connEntries.mp hentry
    obtain h | h := h
    . rw [isPlainKeyChar_of_mem (hkeys kv hkv) h] at hc
      cases hc
    . exact ⟨kv, hkv, h⟩

theorem wellEscaped_connEntries (hkeys : ∀ kv ∈ params, kv.1 ∈ replConnKeys)
    : ConfFile.WellEscaped (connChunks (connEntries params)) := by
  refine wellEscaped_connChunks fun entry hentry c hc => ?_
  obtain ⟨kv, hkv, -, rfl⟩ := mem_connEntries.mp hentry
  have hplain := isPlainKeyChar_of_mem (hkeys kv hkv) hc
  simp only [isPlainKeyChar, Bool.and_eq_true, bne_iff_ne] at hplain
  exact ⟨hplain.1.1.1.2, hplain.1.1.2⟩

def readRecovery (params : List (String × String)) (entry : List Char × List Char)
    : List Char × List Char :=
  if entry.1 = "primary_conninfo".toList then (entry.1, LibPQ.render (connEntries params)) else entry

theorem readRecovery_conninfo {name : String} {value : List Char} (h : name = "primary_conninfo")
    : readRecovery params (name.toList, value)
        =
      (name.toList, LibPQ.render (connEntries params)) :=
  if_pos (congrArg String.toList h)

theorem readRecovery_other {name : String} {value : List Char} (h : name ≠ "primary_conninfo")
    : readRecovery params (name.toList, value) = (name.toList, value) :=
  if_neg (fun heq => h (String.toList_inj.mp heq))

theorem newline_not_mem_connString (h : '\n' ∉ LibPQ.render (connEntries params))
    : '\n' ∉ (connString params).toList := by
  rwa [toList_connString, ConfFile.newline_mem_escapedText, snd_connChunks]

theorem readLine_connString (hkeys : ∀ kv ∈ params, kv.1 ∈ replConnKeys)
    (hnul : '\x00' ∉ LibPQ.render (connEntries params))
    : ConfFile.readLine (ConfFile.setting "primary_conninfo".toList (connString params).toList)
        =
      .ok (some ("primary_conninfo".toList, LibPQ.render (connEntries params))) := by
  rw [toList_connString, ConfFile.readLine_escapedText isName_primary_conninfo
    (wellEscaped_connEntries hkeys), snd_connChunks, ConfFile.cString_eq_self hnul]

theorem read_recovery
    (hothers : ∀ (name value : String), recoveryParameters[name]? = some value →
      name ≠ "primary_conninfo" → OtherSetting name value ∧ '\'' ∉ value.toList)
    (hconninfo : recoveryParameters["primary_conninfo"]? = some (connString params))
    (hkeys : ∀ kv ∈ params, kv.1 ∈ replConnKeys)
    (hnul : '\x00' ∉ LibPQ.render (connEntries params))
    (hnewline : '\n' ∉ LibPQ.render (connEntries params))
    : ConfFile.read (parameterLines recoveryOrder id recoveryParameters)
        =
      .ok ((settingsIn recoveryOrder recoveryParameters).map (readRecovery params)) := by
  rw [parameterLines_eq, ← List.append_nil (List.flatMap _ _),
    ConfFile.read_flatMap (readRecovery params)]
  . simp [ConfFile.read_nil, Except.map]
  . intro entry hentry
    obtain ⟨name, value, hvalue, rfl⟩ := mem_settingsIn.mp hentry
    by_cases hname : name = "primary_conninfo"
    . subst hname
      obtain rfl : connString params = value := Option.some.inj (hconninfo.symm.trans hvalue)
      exact ConfFile.newline_not_mem_setting isName_primary_conninfo
        (newline_not_mem_connString hnewline)
    . obtain ⟨hother, -⟩ := hothers name value hvalue hname
      exact ConfFile.newline_not_mem_setting hother.isName
        (ConfFile.newline_not_mem hother.isClean)
  . intro entry hentry
    obtain ⟨name, value, hvalue, rfl⟩ := mem_settingsIn.mp hentry
    by_cases hname : name = "primary_conninfo"
    . subst hname
      obtain rfl : connString params = value := Option.some.inj (hconninfo.symm.trans hvalue)
      rw [readRecovery_conninfo rfl]
      exact readLine_connString hkeys hnul
    . obtain ⟨hother, hquote⟩ := hothers name value hvalue hname
      rw [readRecovery_other hname]
      have hread := ConfFile.readLine_setting hother.isName hother.isClean
      rwa [ConfFile.doubleQuotes_eq_self hquote] at hread

theorem read_conf (hothers : OtherSettings parameters recoveryOptions.recoveryParameters)
    (hmode : recoveryOptions.recoveryMode ≠ .none)
    (hconninfo : recoveryOptions.recoveryParameters["primary_conninfo"]? = some (connString params))
    (hkeys : ∀ kv ∈ params, kv.1 ∈ replConnKeys)
    (hnul : '\x00' ∉ LibPQ.render (connEntries params))
    (hnewline : '\n' ∉ LibPQ.render (connEntries params))
    : ∃ (settings : List (List Char × List Char)),
        ConfFile.read (writeConf order recoveryOrder parameters recoveryOptions) = .ok settings
          ∧
        ConfFile.valueOf settings "primary_conninfo".toList
          = some (LibPQ.render (connEntries params)) := by
  have hrecovery : ConfFile.read
      (parameterLines recoveryOrder id recoveryOptions.recoveryParameters) = _ :=
    read_recovery hothers.recovery hconninfo hkeys hnul hnewline
  refine ⟨settingsIn order parameters
    ++ (settingsIn recoveryOrder recoveryOptions.recoveryParameters).map (readRecovery params),
    ?_, ConfFile.valueOf_eq_some ?_ ?_⟩
  . rw [writeConf, if_neg hmode, parameterLines_eq, read_settings, hrecovery]
    . rfl
    . intro entry hentry
      obtain ⟨name, value, hvalue, rfl⟩ := mem_settingsIn.mp hentry
      exact (hothers.parameters name value hvalue).isName
    . intro entry hentry
      obtain ⟨name, value, hvalue, rfl⟩ := mem_settingsIn.mp hentry
      exact (hothers.parameters name value hvalue).isClean
  . exact List.mem_append_right _ (List.mem_map.mpr
      ⟨_, mem_settingsIn.mpr ⟨_, _, hconninfo, rfl⟩, readRecovery_conninfo rfl⟩)
  . -- No other line names the parameter, in whatever case.
    intro n v hmem hsame
    obtain hmem | hmem := List.mem_append.mp hmem
    . obtain ⟨name, value, hvalue, heq⟩ := mem_settingsIn.mp hmem
      cases heq
      rw [(hothers.parameters name value hvalue).other] at hsame
      cases hsame
    . obtain ⟨entry, hentry, heq⟩ := List.mem_map.mp hmem
      obtain ⟨name, value, hvalue, rfl⟩ := mem_settingsIn.mp hentry
      by_cases hname : name = "primary_conninfo"
      . subst hname
        rw [readRecovery_conninfo rfl] at heq
        cases heq
        rfl
      . rw [readRecovery_other hname] at heq
        cases heq
        rw [(hothers.recovery name value hvalue hname).1.other] at hsame
        cases hsame

theorem newline_not_mem_of_read
    (hmode : recoveryOptions.recoveryMode ≠ .none)
    (hconninfo : recoveryOptions.recoveryParameters["primary_conninfo"]? = some (connString params))
    (hkeys : ∀ kv ∈ params, kv.1 ∈ replConnKeys)
    {settings : List (List Char × List Char)}
    (hread : ConfFile.read (writeConf order recoveryOrder parameters recoveryOptions)
      = .ok settings)
    : '\n' ∉ LibPQ.render (connEntries params) := by
  intro hnewline
  rw [← snd_connChunks] at hnewline
  obtain ⟨line, hline, herror⟩ := ConfFile.exists_readLine_error isName_primary_conninfo
    (wellEscaped_connEntries hkeys) hnewline
  rw [← toList_connString] at hline
  have hfile : line ∈ (writeConf order recoveryOrder parameters recoveryOptions).splitOn '\n' := by
    have hentry : ("primary_conninfo".toList, (connString params).toList)
        ∈ settingsIn recoveryOrder recoveryOptions.recoveryParameters :=
      mem_settingsIn.mpr ⟨_, _, hconninfo, rfl⟩
    rw [writeConf, if_neg hmode, parameterLines_eq, ConfFile.splitOn_flatMap, parameterLines_eq,
      ← List.append_nil (List.flatMap (fun _ => _ ++ ['\n']) (settingsIn recoveryOrder _)),
      ConfFile.splitOn_flatMap]
    exact List.mem_append_right _ (List.mem_append_left _ (List.mem_flatMap.mpr ⟨_, hentry, hline⟩))
  obtain ⟨entry, hentry⟩ := ConfFile.readLine_of_read hread hfile
  rw [herror] at hentry
  cases hentry

theorem nodup_connEntries (h : (params.map Prod.fst).Nodup)
    : ((connEntries params).map Prod.fst).Nodup := by
  rw [(perm_connEntries.map Prod.fst).nodup_iff, nonEmptyParams, List.map_map,
    show Prod.fst ∘ (fun kv : String × String => (kv.1.toList, kv.2.toList))
      = String.toList ∘ Prod.fst from rfl, ← List.map_map]
  exact (h.sublist (List.filter_sublist.map Prod.fst)).map (fun _ _ => String.toList_inj.mp)

/--
The parameters survive exactly if no value has a space or a backslash or starts with a quote: the
file takes the escapes away that libpq would need.
-/
theorem connParamsSurvive_iff (known : List Char → Bool) (order recoveryOrder : VisitOrder String)
    (parameters : PGParameters) (recoveryOptions : Keeper.RecoveryOptions)
    (params : List (String × String))
    (hothers : OtherSettings parameters recoveryOptions.recoveryParameters)
    (hmode : recoveryOptions.recoveryMode ≠ .none)
    (hconninfo : recoveryOptions.recoveryParameters["primary_conninfo"]? = some (connString params))
    (hnodup : (params.map Prod.fst).Nodup)
    (hkeys : ∀ kv ∈ params, kv.1 ∈ replConnKeys)
    (hknown : ∀ key ∈ replConnKeys, known key.toList = true)
    (hnul : ∀ kv ∈ params, '\x00' ∉ kv.2.toList)
    : ConnParamsSurvive known (writeConf order recoveryOrder parameters recoveryOptions) params
        ↔
      ∀ kv ∈ params, LibPQ.IsPlainValue kv.2.toList := by
  have hnul : '\x00' ∉ LibPQ.render (connEntries params) := by
    intro hmem
    obtain ⟨kv, hkv, hmem⟩ := exists_of_mem_render hkeys (by decide) (by decide) (by decide) hmem
    exact hnul kv hkv hmem
  have hkeywords : ∀ entry ∈ connEntries params, LibPQ.IsKeyword known entry.1 := by
    intro entry hentry
    obtain ⟨kv, hkv, -, rfl⟩ := mem_connEntries.mp hentry
    exact isKeyword_of_mem (hkeys kv hkv) hknown
  have hvalues : ∀ entry ∈ connEntries params, entry.2 ≠ [] := by
    intro entry hentry
    obtain ⟨kv, -, hne, rfl⟩ := mem_connEntries.mp hentry
    simpa using hne
  have hlibpq := LibPQ.connInfo_render_iff (nodup_connEntries hnodup) hkeywords hvalues
  have hplain : (∀ entry ∈ connEntries params, LibPQ.IsPlainValue entry.2)
      ↔ ∀ kv ∈ params, LibPQ.IsPlainValue kv.2.toList := by
    constructor
    . intro h kv hkv
      by_cases hempty : kv.2 = ""
      . rw [hempty]
        exact ⟨fun c hc => absurd hc (by simp), by simp⟩
      . exact h _ (mem_connEntries.mpr ⟨kv, hkv, hempty, rfl⟩)
    . intro h entry hentry
      obtain ⟨kv, hkv, -, rfl⟩ := mem_connEntries.mp hentry
      exact h kv hkv
  rw [← hplain]
  constructor
  . rintro ⟨settings, found, conninfo, hread, hvalue, hconn, hfound⟩
    have hnewline := newline_not_mem_of_read hmode hconninfo hkeys hread
    obtain ⟨settings', hread', hvalue'⟩ := read_conf hothers hmode hconninfo hkeys hnul hnewline
    cases Except.ok.inj (hread.symm.trans hread')
    cases Option.some.inj (hvalue.symm.trans hvalue')
    refine hlibpq.mp ⟨found, hconn, fun keyword value => ?_⟩
    rw [hfound, perm_connEntries.mem_iff]
  . intro h
    have hnewline : '\n' ∉ LibPQ.render (connEntries params) := by
      intro hmem
      obtain ⟨kv, hkv, hmem⟩ :=
        exists_of_mem_render hkeys (by decide) (by decide) (by decide) hmem
      have hspace := ((hplain.mp h) kv hkv).1 '\n' hmem
      exact absurd hspace.1 (by decide)
    obtain ⟨settings, hread, hvalue⟩ := read_conf hothers hmode hconninfo hkeys hnul hnewline
    obtain ⟨found, hconn, hfound⟩ := hlibpq.mpr h
    refine ⟨settings, found, _, hread, hvalue, hconn, fun keyword value => ?_⟩
    rw [hfound, perm_connEntries.mem_iff]

def sampleParams (password : String) : List (String × String) := [
  ("user", "repl"),
  ("host", "10.0.0.1"),
  ("port", "5432"),
  ("application_name", "hysteron_db1"),
  ("sslmode", "prefer"),
  ("password", password)
]

def standbyOptions (password : String) : Keeper.RecoveryOptions :=
  Keeper.createRecoveryOptions .standby
    (some { primaryConninfo := connString (sampleParams password), primarySlotName := "hysteron_db1" })
    none none

def libpqKeyword (keyword : List Char) : Bool := (replConnKeys.map String.toList).contains keyword

theorem recoveryParameters_standbyOptions {password : String}
    (h : connString (sampleParams password) ≠ "")
    : (standbyOptions password).recoveryParameters
        =
      (((∅ : PGParameters).insert "primary_conninfo" (connString (sampleParams password))).insert
        "primary_slot_name" "hysteron_db1").insert "recovery_target_timeline" "latest" := by
  simp [standbyOptions, Keeper.createRecoveryOptions, Keeper.insertSet, h]

theorem otherSettings_standbyOptions {password : String}
    (h : connString (sampleParams password) ≠ "")
    : OtherSettings ∅ (standbyOptions password).recoveryParameters := by
  refine ⟨fun name value hvalue => absurd hvalue (by simp), fun name value hvalue hname => ?_⟩
  rw [recoveryParameters_standbyOptions h] at hvalue
  simp only [Std.ExtTreeMap.getElem?_insert, compare_eq_iff_eq] at hvalue
  split at hvalue
  . next htimeline =>
    cases hvalue
    subst htimeline
    exact ⟨⟨by decide +kernel, by decide +kernel,
      List.all_eq_true.mp (by decide +kernel : ("latest".toList.all ConfFile.isClean) = true)⟩,
      by decide +kernel⟩
  split at hvalue
  . next hslot =>
    cases hvalue
    subst hslot
    exact ⟨⟨by decide +kernel, by decide +kernel,
      List.all_eq_true.mp (by decide +kernel : ("hysteron_db1".toList.all ConfFile.isClean) = true)⟩,
      by decide +kernel⟩
  split at hvalue
  . next hconninfo => exact absurd hconninfo.symm hname
  . simp at hvalue

theorem connParamsSurvive_iff_sample
    : OtherSettings ∅ (standbyOptions "it's=me").recoveryParameters
        ∧
      ConnParamsSurvive libpqKeyword (writeConf .stored .stored ∅ (standbyOptions "it's=me"))
        (sampleParams "it's=me") := by
  have hne : connString (sampleParams "it's=me") ≠ "" := by decide +kernel
  have hplain : ((sampleParams "it's=me").all (fun kv =>
      kv.2.toList.all (fun c => !LibPQ.isSpace c && c != '\\' && c != '\x00')
        && kv.2.toList.head? != some '\'')) = true := by
    decide +kernel
  have hvalues (kv : String × String) (hkv : kv ∈ sampleParams "it's=me")
      : LibPQ.IsPlainValue kv.2.toList ∧ '\x00' ∉ kv.2.toList := by
    have h := List.all_eq_true.mp hplain kv hkv
    simp only [Bool.and_eq_true, List.all_eq_true, Bool.not_eq_true', bne_iff_ne] at h
    exact ⟨⟨fun c hc => (h.1 c hc).1, h.2⟩, fun hc => (h.1 _ hc).2 rfl⟩
  have hothers := otherSettings_standbyOptions hne
  refine ⟨hothers, (connParamsSurvive_iff libpqKeyword .stored .stored ∅ _ _ hothers ?_ ?_ ?_ ?_ ?_
    (fun kv hkv => (hvalues kv hkv).2)).mpr (fun kv hkv => (hvalues kv hkv).1)⟩
  . exact nofun
  . rw [recoveryParameters_standbyOptions hne]
    simp only [Std.ExtTreeMap.getElem?_insert, compare_eq_iff_eq, String.reduceEq, ↓reduceIte]
  . decide +kernel
  . decide +kernel
  . decide +kernel

/--
libpq reads the rest of a password behind a space as a keyword, and refuses it.
-/
theorem password_with_space_refused
    : (ConfFile.read (writeConf .stored .stored ∅ (standbyOptions "pass word"))).toOption.bind
          (ConfFile.valueOf · "primary_conninfo".toList)
        = some ("application_name=hysteron_db1 host=10.0.0.1 password=pass word port=5432"
            ++ " sslmode=prefer user=repl").toList
        ∧
      ¬ConnParamsSurvive libpqKeyword (writeConf .stored .stored ∅ (standbyOptions "pass word"))
        (sampleParams "pass word") := by
  have hread : (ConfFile.read (writeConf .stored .stored ∅ (standbyOptions "pass word"))).toOption.bind
      (ConfFile.valueOf · "primary_conninfo".toList)
      = some ("application_name=hysteron_db1 host=10.0.0.1 password=pass word port=5432"
          ++ " sslmode=prefer user=repl").toList := by
    decide +kernel
  refine ⟨hread, ?_⟩
  rintro ⟨settings, found, conninfo, hsettings, hvalue, hconn, -⟩
  rw [hsettings] at hread
  obtain rfl := Option.some.inj (hvalue.symm.trans hread)
  have hrefused : LibPQ.connInfo libpqKeyword
      ("application_name=hysteron_db1 host=10.0.0.1 password=pass word port=5432"
        ++ " sslmode=prefer user=repl").toList = none := by
    decide +kernel
  rw [hrefused] at hconn
  cases hconn

end File

end Postgres
end Hysteron
