import Hysteron.Postgres.ConfFiles

/-!
What PostgreSQL reads from the configuration file that the keeper writes.
-/

namespace Hysteron
namespace Postgres

section Parameters

variable {order recoveryOrder : VisitOrder String} {parameters : PGParameters}
  {recoveryOptions : Keeper.RecoveryOptions}

def ReadsBack (file : List Char) (parameters : PGParameters) : Prop :=
  ∃ (entries : List (List Char × List Char)),
    ConfFile.read file = .ok entries
      ∧
    (∀ (name value : String), parameters[name]? = some value →
      ConfFile.valueOf entries name.toList = some value.toList)
      ∧
    ∀ entry ∈ entries, ∃ (name : String),
      name ∈ parameters ∧ ConfFile.sameName entry.1 name.toList = true

def Writable (parameters : PGParameters) : Prop :=
  (∀ (name value : String), parameters[name]? = some value →
    ∀ c ∈ value.toList, c ≠ '\\' ∧ c ≠ '\n' ∧ c ≠ '\x00')
    ∧
  ∀ (name name' value value' : String),
    parameters[name]? = some value →
    parameters[name']? = some value' →
    ConfFile.sameName name.toList name'.toList = true →
    value = value'

theorem isClean_iff {c : Char}
    : ConfFile.isClean c = true ↔ c ≠ '\\' ∧ c ≠ '\n' ∧ c ≠ '\x00' := by
  simp [ConfFile.isClean, and_assoc]

theorem read_settings {settings : List (List Char × List Char)} {rest : List Char}
    (hnames : ∀ entry ∈ settings, ConfFile.isName entry.1 = true)
    (hclean : ∀ entry ∈ settings, ∀ c ∈ entry.2, ConfFile.isClean c = true)
    : ConfFile.read (settings.flatMap (fun entry =>
        ConfFile.setting entry.1 (ConfFile.doubleQuotes entry.2) ++ ['\n']) ++ rest)
        =
      (ConfFile.read rest).map (settings ++ ·) := by
  rw [ConfFile.read_flatMap id, List.map_id]
  . intro entry hentry
    refine ConfFile.newline_not_mem_setting (hnames entry hentry) ?_
    rw [ConfFile.newline_mem_doubleQuotes]
    exact ConfFile.newline_not_mem (hclean entry hentry)
  . intro entry hentry
    exact ConfFile.readLine_setting (hnames entry hentry) (hclean entry hentry)

def settingsIn (order : VisitOrder String) (parameters : PGParameters)
    : List (List Char × List Char) :=
  (order.visit parameters.keys).map (fun key => (key.toList, (parameters[key]?.getD "").toList))

theorem mem_settingsIn {entry : List Char × List Char}
    : entry ∈ settingsIn order parameters
        ↔
      ∃ (name value : String),
        parameters[name]? = some value ∧ entry = (name.toList, value.toList) := by
  simp only [settingsIn, List.mem_map, VisitOrder.mem_visit, Std.ExtTreeMap.mem_keys,
    Std.ExtTreeMap.mem_iff_isSome_getElem?]
  constructor
  . rintro ⟨name, hname, rfl⟩
    obtain ⟨value, hvalue⟩ := Option.isSome_iff_exists.mp hname
    exact ⟨name, value, hvalue, by simp [hvalue]⟩
  . rintro ⟨name, value, hvalue, rfl⟩
    exact ⟨name, by simp [hvalue], by simp [hvalue]⟩

theorem parameterLines_eq (text : List Char → List Char)
    : parameterLines order text parameters
        =
      (settingsIn order parameters).flatMap (fun entry =>
        ConfFile.setting entry.1 (text entry.2) ++ ['\n']) := by
  rw [parameterLines, settingsIn, List.flatMap_map]

theorem mem_splitOn_settings {settings : List (List Char × List Char)} {line : List Char}
    (text : List Char → List Char)
    (h : line ∈ (settings.flatMap (fun entry =>
      ConfFile.setting entry.1 (text entry.2) ++ ['\n'])).splitOn '\n')
    : line = []
        ∨
      ∃ entry ∈ settings, line ∈ (ConfFile.setting entry.1 (text entry.2)).splitOn '\n' := by
  rw [← List.append_nil (List.flatMap _ _), ConfFile.splitOn_flatMap, List.mem_append,
    List.mem_flatMap] at h
  obtain h | h := h
  . exact .inr h
  . exact .inl (by simpa using h)

theorem isName_of_isParameterName {name : List Char} (h : ConfFile.isParameterName name = true)
    : ConfFile.isName name = true :=
  (Bool.and_eq_true_iff.mp h).1

theorem readsBack_of_writable
    (hnames : ∀ (name value : String), parameters[name]? = some value →
      ConfFile.isName name.toList = true)
    (h : Writable parameters)
    : ReadsBack (parameterLines order ConfFile.doubleQuotes parameters) parameters := by
  obtain ⟨hclean, hsame⟩ := h
  have hread : ConfFile.read (parameterLines order ConfFile.doubleQuotes parameters)
      = .ok (settingsIn order parameters) := by
    rw [parameterLines_eq, ← List.append_nil (List.flatMap _ _), read_settings]
    . simp [ConfFile.read_nil, Except.map]
    . intro entry hentry
      obtain ⟨name, value, hvalue, rfl⟩ := mem_settingsIn.mp hentry
      exact hnames name value hvalue
    . intro entry hentry c hc
      obtain ⟨name, value, hvalue, rfl⟩ := mem_settingsIn.mp hentry
      exact isClean_iff.mpr (hclean name value hvalue c hc)
  refine ⟨_, hread, fun name value hvalue => ?_, fun entry hentry => ?_⟩
  . refine ConfFile.valueOf_eq_some (mem_settingsIn.mpr ⟨name, value, hvalue, rfl⟩) ?_
    intro n v hmem hn
    obtain ⟨name', value', hvalue', heq⟩ := mem_settingsIn.mp hmem
    cases heq
    rw [hsame name' name value' value hvalue' hvalue hn]
  . obtain ⟨name, value, hvalue, rfl⟩ := mem_settingsIn.mp hentry
    exact ⟨name, by simp [Std.ExtTreeMap.mem_iff_isSome_getElem?, hvalue],
      ConfFile.sameName_refl name.toList⟩

theorem writable_of_readsBack
    (hnames : ∀ (name value : String), parameters[name]? = some value →
      ConfFile.isName name.toList = true)
    (h : ReadsBack (parameterLines order ConfFile.doubleQuotes parameters) parameters)
    : Writable parameters := by
  obtain ⟨entries, hread, hvalues, -⟩ := h
  have hsame : ∀ (name name' value value' : String),
      parameters[name]? = some value →
      parameters[name']? = some value' →
      ConfFile.sameName name.toList name'.toList = true →
      value = value' := by
    intro name name' value value' hvalue hvalue' hname
    have heq := hvalues name value hvalue
    rw [ConfFile.valueOf_congr hname, hvalues name' value' hvalue'] at heq
    exact (String.toList_inj.mp (Option.some.inj heq)).symm
  refine ⟨fun name value hvalue c hc => isClean_iff.mp ?_, hsame⟩
  -- The value has been read from some line, and that line belongs to some setting.
  obtain ⟨n, hentry, hn⟩ := ConfFile.exists_of_valueOf_eq_some (hvalues name value hvalue)
  obtain ⟨line, hline, hreadLine⟩ := (ConfFile.mem_read hread).mp hentry
  rw [parameterLines_eq] at hline
  obtain rfl | ⟨entry, hmem, hline⟩ := mem_splitOn_settings _ hline
  . cases hreadLine
  . obtain ⟨name', value', hvalue', rfl⟩ := mem_settingsIn.mp hmem
    obtain hclean | ⟨rfl, hne⟩ :=
      ConfFile.isClean_or_ne_of_readLine (hnames name' value' hvalue') hline hreadLine
    . exact hclean c hc
    . have heq := hsame name' name value' value hvalue' hvalue hn
      exact absurd (congrArg String.toList heq).symm hne

/--
The file that is written for a running master is read back exactly if all values can be written.
-/
theorem readsBack_iff_writable (order recoveryOrder : VisitOrder String) (parameters : PGParameters)
    (recoveryOptions : Keeper.RecoveryOptions)
    (hmode : recoveryOptions.recoveryMode = .none)
    (hnames : ∀ (name : String), name ∈ parameters →
      ConfFile.isParameterName name.toList = true)
    : ReadsBack (writeConf order recoveryOrder parameters recoveryOptions) parameters
        ↔
      Writable parameters := by
  have hfile : writeConf order recoveryOrder parameters recoveryOptions
      = parameterLines order ConfFile.doubleQuotes parameters := by
    rw [writeConf, if_pos hmode, List.append_nil]
  have hnames : ∀ (name value : String), parameters[name]? = some value →
      ConfFile.isName name.toList = true := by
    intro name value hvalue
    exact isName_of_isParameterName
      (hnames name (by simp [Std.ExtTreeMap.mem_iff_isSome_getElem?, hvalue]))
  rw [hfile]
  exact ⟨writable_of_readsBack hnames, readsBack_of_writable hnames⟩

def quotedParameters : PGParameters :=
  (∅ : PGParameters).insert "log_line_prefix" "it's %m"

theorem readsBack_iff_writable_sample
    : (∀ (name : String), name ∈ quotedParameters → ConfFile.isParameterName name.toList = true)
        ∧
      ReadsBack (writeConf .stored .stored quotedParameters {}) quotedParameters := by
  have hname : ∀ (name : String), name ∈ quotedParameters → name = "log_line_prefix" := by
    intro name hmem
    simp only [quotedParameters, Std.ExtTreeMap.mem_insert, compare_eq_iff_eq,
      Std.ExtTreeMap.not_mem_empty, or_false] at hmem
    exact hmem.symm
  have hvalid : ∀ (name : String), name ∈ quotedParameters →
      ConfFile.isParameterName name.toList = true := by
    intro name hmem
    rw [hname name hmem]
    decide +kernel
  have hvalue : ∀ (name value : String), quotedParameters[name]? = some value →
      name = "log_line_prefix" ∧ value = "it's %m" := by
    intro name value hget
    have hmem := hname name (by simp [Std.ExtTreeMap.mem_iff_isSome_getElem?, hget])
    subst hmem
    exact ⟨rfl, by simpa [quotedParameters, eq_comm] using hget⟩
  refine ⟨hvalid, (readsBack_iff_writable _ _ _ _ rfl hvalid).mpr ⟨?_, ?_⟩⟩
  . intro name value hget c hc
    have hclean : ("it's %m".toList.all ConfFile.isClean) = true := by decide +kernel
    rw [(hvalue name value hget).2] at hc
    exact isClean_iff.mp (List.all_eq_true.mp hclean c hc)
  . intro name name' value value' hget hget' _
    rw [(hvalue name value hget).2, (hvalue name' value' hget').2]

def injectingParameters : PGParameters :=
  (∅ : PGParameters).insert "log_line_prefix" "\\' #\nfsync = off #"

/--
PostgreSQL accepts the file, with another value and with a parameter that nobody has set.
-/
theorem value_injects_setting
    : (ConfFile.read (writeConf .stored .stored injectingParameters {})).toOption
        =
      some [("log_line_prefix".toList, ['\'']), ("fsync".toList, "off".toList)] := by
  decide +kernel

end Parameters

end Postgres
end Hysteron
