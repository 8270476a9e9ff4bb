import PatchTriage.Proofs.Risk.Json
import PatchTriage.Proofs.Schema.Checked
import PatchTriage.Settings.Sources
import Mathlib.Data.List.Basic
import Mathlib.Tactic.FinCases

/-!
# Settings from their sources

Each setting has the value that the first source naming it gives (`Sources.Chosen`), converted, or
its default (`Sources.Gives`). There are settings if all these values convert and the thresholds are
in order; else each value that does not convert is told of, in the order of the settings, and the
order of the thresholds only if there is none (`Sources.resolve_iff`). Nothing else in the sources
has an effect.
-/

namespace PatchTriage

namespace Sources

/-! ## Values that are chosen -/

/-- The value of a setting is that of the first source which names it. -/
inductive Chosen (s : Sources) (name : String) : Json → Prop
  | value {v : Json} : Table.get? s.values name = some v → Chosen s name v
  | environment {text : String} : Table.get? s.values name = none →
      Table.get? s.environment name = some text → Chosen s name (.text text)
  | file {text : String} : Table.get? s.values name = none →
      Table.get? s.environment name = none → Table.get? s.file name = some text →
      Chosen s name (.text text)

variable {s : Sources}

/-- The value that is chosen for a name is the one that is looked up. -/
theorem chosen_iff {name : String} {v : Json} : s.Chosen name v ↔ s.raw? name = some v := by
  rw [raw?]
  constructor
  · intro h
    cases h with
    | value hv => rw [hv]; rfl
    | environment hv he => rw [hv, he]; rfl
    | file hv he hf => rw [hv, he, hf]; rfl
  · intro h
    cases hv : Table.get? s.values name with
    | some w =>
      rw [hv] at h
      exact Option.some.inj h ▸ .value hv
    | none =>
      rw [hv] at h
      cases he : Table.get? s.environment name with
      | some text =>
        rw [he] at h
        exact Option.some.inj h ▸ .environment hv he
      | none =>
        rw [he] at h
        obtain ⟨text, hf, rfl⟩ := Option.map_eq_some_iff.1 h
        exact .file hv he hf

/-- No value is chosen for a name just if none is found. -/
theorem not_chosen_iff {name : String} : (∀ v, ¬s.Chosen name v) ↔ s.raw? name = none := by
  rw [Option.eq_none_iff_forall_ne_some]
  exact forall_congr' fun v => not_congr chosen_iff

/-- A setting is read from the value that is chosen for it, or has its default. -/
inductive Reads (s : Sources) (name : String) {α : Type} (convert : Json → Checked α)
    (default : α) : α → Prop
  | chosen {v : Json} {a : α} :
      s.Chosen name v → convert v = .valid a → Reads s name convert default a
  | default : (∀ v, ¬s.Chosen name v) → Reads s name convert default default

/-- What holds of all values that a conversion gives, and of the default, holds of what is read. -/
theorem Reads.of_forall {name : String} {α : Type} {convert : Json → Checked α} {default a : α}
    {P : α → Prop} (h : s.Reads name convert default a)
    (hconvert : ∀ v b, convert v = .valid b → P b) (hdefault : P default) : P a := by
  cases h with
  | chosen _ ha => exact hconvert _ _ ha
  | default _ => exact hdefault

/-- The settings that the sources give, each on its own. -/
structure Gives (s : Sources) (t : Settings) : Prop where
  environment : s.Reads "ENVIRONMENT" Convert.text "development" t.environment
  maxDiffBytes : s.Reads "MAX_DIFF_SIZE_BYTES" (Convert.above 0) 1048576 t.maxDiffBytes
  languageStrategies :
    s.Reads "ENABLE_LANGUAGE_STRATEGIES" Convert.boolean true t.languageStrategies
  highThreshold : s.Reads "RISK_HIGH_THRESHOLD" Convert.score 0.7 t.highThreshold
  mediumThreshold : s.Reads "RISK_MEDIUM_THRESHOLD" Convert.score 0.4 t.mediumThreshold
  largeDiffFiles : s.Reads "LARGE_DIFF_FILE_COUNT" (Convert.atLeast 1) 5 t.largeDiffFiles
  logLevel : s.Reads "LOG_LEVEL" (Settings.named Settings.logLevel? Settings.logLevelReason) .info
    t.logLevel
  logFormat : s.Reads "LOG_FORMAT" (Settings.named Settings.logFormat? Settings.logFormatReason)
    .text t.logFormat
  metrics : s.Reads "ENABLE_METRICS" Convert.boolean true t.metrics
  errorTracking : s.Reads "ERROR_TRACKING_ENABLED" Convert.boolean true t.errorTracking

end Sources

namespace Settings

/-- What is wrong with a value of each setting, in the order of the settings. -/
def checks : Table String (Json → Option Problem) :=
  [("ENVIRONMENT", fun v => (Convert.text v).problem?),
    ("MAX_DIFF_SIZE_BYTES", fun v => (Convert.above 0 v).problem?),
    ("ENABLE_LANGUAGE_STRATEGIES", fun v => (Convert.boolean v).problem?),
    ("RISK_HIGH_THRESHOLD", fun v => (Convert.score v).problem?),
    ("RISK_MEDIUM_THRESHOLD", fun v => (Convert.score v).problem?),
    ("LARGE_DIFF_FILE_COUNT", fun v => (Convert.atLeast 1 v).problem?),
    ("LOG_LEVEL", fun v => (named logLevel? logLevelReason v).problem?),
    ("LOG_FORMAT", fun v => (named logFormat? logFormatReason v).problem?),
    ("ENABLE_METRICS", fun v => (Convert.boolean v).problem?),
    ("ERROR_TRACKING_ENABLED", fun v => (Convert.boolean v).problem?)]

/-- The settings that fields give, before the order of the thresholds is checked. -/
def parts (fields : Fields) : Checked Settings :=
  Settings.mk
    <$> Convert.fieldOr fields "ENVIRONMENT" "development" Convert.text
    <*> Convert.fieldOr fields "MAX_DIFF_SIZE_BYTES" 1048576 (Convert.above 0)
    <*> Convert.fieldOr fields "ENABLE_LANGUAGE_STRATEGIES" true Convert.boolean
    <*> Convert.fieldOr fields "RISK_HIGH_THRESHOLD" 0.7 Convert.score
    <*> Convert.fieldOr fields "RISK_MEDIUM_THRESHOLD" 0.4 Convert.score
    <*> Convert.fieldOr fields "LARGE_DIFF_FILE_COUNT" 5 (Convert.atLeast 1)
    <*> Convert.fieldOr fields "LOG_LEVEL" .info (named logLevel? logLevelReason)
    <*> Convert.fieldOr fields "LOG_FORMAT" .text (named logFormat? logFormatReason)
    <*> Convert.fieldOr fields "ENABLE_METRICS" true Convert.boolean
    <*> Convert.fieldOr fields "ERROR_TRACKING_ENABLED" true Convert.boolean

/-- Settings are made of their parts, and then their order is checked. -/
theorem ofFields_eq (fields : Fields) : ofFields fields = (parts fields).andThen ordered := rfl

/-- A name that stands for a value is refused for one reason. -/
theorem single_named {α : Type} (read? : String → Option α) (reason : String) (v : Json) :
    (named read? reason v).Single := by
  refine (Convert.single_text v).andThen fun s => ?_
  split
  · exact .valid _
  · exact .refuse _

end Settings

namespace Sources

variable {s : Sources}

/-- One violation for each setting whose value does not convert, in the order of the settings. -/
def violations (s : Sources) : List Violation :=
  Settings.checks.filterMap fun e =>
    ((s.raw? e.1).bind e.2).map fun p => ⟨[e.1], p⟩

/-- The raw values are found under their names. -/
theorem get?_raw {name : String} (h : name ∈ Settings.names) :
    Table.get? s.raw name = s.raw? name := by
  have hfound (names : List String) :
      Table.get? (names.filterMap fun n => (s.raw? n).map fun v => (n, v)) name =
        if name ∈ names then s.raw? name else none := by
    induction names with
    | nil => rfl
    | cons n names ih =>
      rw [List.filterMap_cons]
      by_cases hn : n = name
      · subst hn
        cases hraw : s.raw? n with
        | none => simp [hraw, ih]
        | some v => simp
      · have hmem : name ∈ n :: names ↔ name ∈ names := by simp [Ne.symm hn]
        cases s.raw? n with
        | none => simp [hmem, ih]
        | some v => simp [hn, hmem, ih]
  rw [raw, hfound, if_pos h]

section
variable {name : String} {α : Type} {default a : α} {convert : Json → Checked α}

/-- What is read of a field in the raw values is the setting. -/
theorem reads_of_fieldOr (hfield : Convert.fieldOr s.raw name default convert = .valid a)
    (h : name ∈ Settings.names := by decide) : s.Reads name convert default a := by
  rw [Convert.fieldOr_eq_valid_iff, get?_raw h] at hfield
  rcases hfield with ⟨v, hv, ha⟩ | ⟨hnone, rfl⟩
  · exact .chosen (chosen_iff.2 hv) ha
  · exact .default (not_chosen_iff.2 hnone)

/-- A setting is read of its field in the raw values. -/
theorem Reads.fieldOr_eq (hreads : s.Reads name convert default a)
    (h : name ∈ Settings.names := by decide) :
    Convert.fieldOr s.raw name default convert = .valid a := by
  rw [Convert.fieldOr_eq_valid_iff, get?_raw h]
  cases hreads with
  | chosen hv ha => exact .inl ⟨_, chosen_iff.1 hv, ha⟩
  | default hnone => exact .inr ⟨not_chosen_iff.1 hnone, rfl⟩

/-- What is wrong with a field is what is wrong with the value that is chosen for it. -/
theorem violations_fieldOr_raw (hsingle : ∀ v, (convert v).Single)
    (h : name ∈ Settings.names := by decide) :
    (Convert.fieldOr s.raw name default convert).violations =
      (((s.raw? name).bind fun v => (convert v).problem?).map fun p =>
        (⟨[name], p⟩ : Violation)).toList := by
  rw [Convert.violations_fieldOr hsingle, get?_raw h]

end

/-- The settings are valid if each of them is read. -/
theorem parts_eq_valid_iff {t : Settings} : Settings.parts s.raw = .valid t ↔ s.Gives t := by
  simp only [Settings.parts, Checked.apply_eq_valid_iff, Checked.map_eq_valid_iff]
  constructor
  · rintro ⟨_, errorTracking, ⟨_, metrics, ⟨_, logFormat, ⟨_, logLevel, ⟨_, largeDiffFiles,
      ⟨_, mediumThreshold, ⟨_, highThreshold, ⟨_, languageStrategies, ⟨_, maxDiffBytes,
      ⟨environment, h₁, rfl⟩, h₂, rfl⟩, h₃, rfl⟩, h₄, rfl⟩, h₅, rfl⟩, h₆, rfl⟩, h₇, rfl⟩,
      h₈, rfl⟩, h₉, rfl⟩, h₁₀, rfl⟩
    exact ⟨reads_of_fieldOr h₁, reads_of_fieldOr h₂, reads_of_fieldOr h₃, reads_of_fieldOr h₄,
      reads_of_fieldOr h₅, reads_of_fieldOr h₆, reads_of_fieldOr h₇, reads_of_fieldOr h₈,
      reads_of_fieldOr h₉, reads_of_fieldOr h₁₀⟩
  · intro h
    exact ⟨_, _, ⟨_, _, ⟨_, _, ⟨_, _, ⟨_, _, ⟨_, _, ⟨_, _, ⟨_, _, ⟨_, _,
      ⟨_, h.environment.fieldOr_eq, rfl⟩, h.maxDiffBytes.fieldOr_eq, rfl⟩,
      h.languageStrategies.fieldOr_eq, rfl⟩, h.highThreshold.fieldOr_eq, rfl⟩,
      h.mediumThreshold.fieldOr_eq, rfl⟩, h.largeDiffFiles.fieldOr_eq, rfl⟩,
      h.logLevel.fieldOr_eq, rfl⟩, h.logFormat.fieldOr_eq, rfl⟩, h.metrics.fieldOr_eq, rfl⟩,
      h.errorTracking.fieldOr_eq, rfl⟩

/-- The parts of settings are refused for reasons. -/
theorem reasoned_parts (fields : Fields) : (Settings.parts fields).Reasoned :=
  (Convert.reasoned_fieldOr Convert.single_text).map
    |>.apply (Convert.reasoned_fieldOr (Convert.single_above 0))
    |>.apply (Convert.reasoned_fieldOr Convert.single_boolean)
    |>.apply (Convert.reasoned_fieldOr Convert.single_score)
    |>.apply (Convert.reasoned_fieldOr Convert.single_score)
    |>.apply (Convert.reasoned_fieldOr (Convert.single_atLeast 1))
    |>.apply (Convert.reasoned_fieldOr (Settings.single_named _ _))
    |>.apply (Convert.reasoned_fieldOr (Settings.single_named _ _))
    |>.apply (Convert.reasoned_fieldOr Convert.single_boolean)
    |>.apply (Convert.reasoned_fieldOr Convert.single_boolean)

/-- What is wrong with the settings is what is wrong with each of them. -/
theorem violations_parts (s : Sources) : (Settings.parts s.raw).violations = s.violations := by
  simp only [Settings.parts, Checked.violations_apply, Checked.violations_map]
  rw [violations_fieldOr_raw Convert.single_text, violations_fieldOr_raw (Convert.single_above 0),
    violations_fieldOr_raw Convert.single_boolean, violations_fieldOr_raw Convert.single_score,
    violations_fieldOr_raw Convert.single_score, violations_fieldOr_raw (Convert.single_atLeast 1),
    violations_fieldOr_raw (Settings.single_named _ _),
    violations_fieldOr_raw (Settings.single_named _ _),
    violations_fieldOr_raw Convert.single_boolean, violations_fieldOr_raw Convert.single_boolean,
    violations, Settings.checks, List.filterMap_eq_flatMap_toList]
  simp only [List.flatMap_cons, List.flatMap_nil, List.append_assoc, List.append_nil]

end Sources

/-! ## Valid settings -/

/-- What holds of all settings that are obtained. -/
structure Settings.Valid (t : Settings) : Prop where
  maxDiffBytes : 0 < t.maxDiffBytes
  largeDiffFiles : 1 ≤ t.largeDiffFiles
  mediumThreshold : 0 ≤ t.mediumThreshold
  ordered : t.mediumThreshold ≤ t.highThreshold
  highThreshold : t.highThreshold ≤ 1
  logLevel : t.logLevel.name ∈ ["DEBUG", "INFO", "WARNING", "ERROR", "CRITICAL"]
  logFormat : t.logFormat.name ∈ ["json", "text"]

/-- The lower threshold of valid settings is a score. -/
theorem Settings.Valid.isScore_mediumThreshold {t : Settings} (h : t.Valid) :
    t.mediumThreshold.IsScore :=
  ⟨h.mediumThreshold, Binary64.le_trans h.ordered h.highThreshold⟩

/-- So is the upper one. -/
theorem Settings.Valid.isScore_highThreshold {t : Settings} (h : t.Valid) :
    t.highThreshold.IsScore :=
  ⟨Binary64.le_trans h.mediumThreshold h.ordered, h.highThreshold⟩

/-- A value that is accepted as a score is one. -/
theorem Convert.isScore_of_score {v : Json} {x : Binary64} (h : score v = .valid x) : x.IsScore :=
  scoreProblem?_eq_none_iff.1 (Checked.require_eq_valid_iff.1 h).2

namespace Sources

variable {s : Sources} {t : Settings}

/-- Settings with thresholds in order are valid. -/
theorem Gives.valid (h : s.Gives t) (hordered : t.mediumThreshold ≤ t.highThreshold) : t.Valid where
  maxDiffBytes := h.maxDiffBytes.of_forall
    (fun _ _ hn => (Convert.above_eq_valid_iff.1 hn).2) (by decide)
  largeDiffFiles := h.largeDiffFiles.of_forall
    (fun _ _ hn => (Convert.atLeast_eq_valid_iff.1 hn).2) (by decide)
  mediumThreshold := (h.mediumThreshold.of_forall (P := Binary64.IsScore)
    (fun _ _ => Convert.isScore_of_score) (by decide +kernel)).1
  ordered := hordered
  highThreshold := (h.highThreshold.of_forall (P := Binary64.IsScore)
    (fun _ _ => Convert.isScore_of_score) (by decide +kernel)).2
  logLevel := by cases t.logLevel <;> decide
  logFormat := by cases t.logFormat <;> decide

/-- Valid settings are given by their own fields, whatever the other sources say. -/
theorem gives_toFields (h : t.Valid) (environment file : Table String String) :
    ({ values := t.toFields, environment, file } : Sources).Gives t where
  environment := .chosen (.value rfl) rfl
  maxDiffBytes := .chosen (.value rfl) (Convert.above_eq_valid_iff.2 ⟨rfl, h.maxDiffBytes⟩)
  languageStrategies := .chosen (.value rfl) rfl
  highThreshold := .chosen (.value rfl) (Convert.score_real h.isScore_highThreshold)
  mediumThreshold := .chosen (.value rfl) (Convert.score_real h.isScore_mediumThreshold)
  largeDiffFiles := .chosen (.value rfl) (Convert.atLeast_eq_valid_iff.2 ⟨rfl, h.largeDiffFiles⟩)
  logLevel := .chosen (.value rfl) (by cases t.logLevel <;> rfl)
  logFormat := .chosen (.value rfl) (by cases t.logFormat <;> rfl)
  metrics := .chosen (.value rfl) rfl
  errorTracking := .chosen (.value rfl) rfl

/-! ## The outcome -/

/-- There are settings if each of them is read and the thresholds are in order. -/
theorem resolve_eq_ok_iff :
    s.resolve = .ok t ↔ s.Gives t ∧ t.mediumThreshold ≤ t.highThreshold := by
  rw [resolve, Checked.toExcept_eq_ok_iff, Settings.ofFields_eq, ← parts_eq_valid_iff]
  cases Settings.parts s.raw with
  | invalid l => exact ⟨nofun, fun h => nomatch h.1⟩
  | valid u =>
    rw [Checked.andThen, Settings.ordered]
    split
    · next hlt =>
      refine ⟨nofun, ?_⟩
      rintro ⟨⟨⟩, hle⟩
      exact absurd hlt (Binary64.not_lt.2 hle)
    · next hnot =>
      constructor
      · rintro ⟨⟩
        exact ⟨rfl, Binary64.not_lt.1 hnot⟩
      · exact And.left

/-- There are none if a value does not convert, or else if the thresholds are not in order. -/
theorem resolve_eq_error_iff {l : List Violation} :
    s.resolve = .error l ↔ (l = s.violations ∧ l ≠ []) ∨
      (l = [⟨[], .refused Settings.thresholdReason⟩] ∧
        ∃ t, s.Gives t ∧ t.highThreshold < t.mediumThreshold) := by
  rw [resolve, Settings.ofFields_eq, ← violations_parts]
  simp only [← parts_eq_valid_iff]
  have hreasoned := reasoned_parts s.raw
  cases hparts : Settings.parts s.raw with
  | invalid l' =>
    have hne : l' ≠ [] := by
      intro hnone
      rw [hparts] at hreasoned
      obtain ⟨t, ht⟩ := hreasoned hnone
      cases ht
    constructor
    · rintro ⟨⟩
      exact .inl ⟨rfl, hne⟩
    · rintro (⟨rfl, -⟩ | ⟨-, t, ht, -⟩)
      · rfl
      · cases ht
  | valid u =>
    rw [Checked.andThen, Settings.ordered]
    split
    · next hlt =>
      constructor
      · rintro ⟨⟩
        exact .inr ⟨rfl, u, rfl, hlt⟩
      · rintro (⟨rfl, hne⟩ | ⟨rfl, -⟩)
        · exact absurd rfl hne
        · rfl
    · next hnot =>
      refine ⟨nofun, ?_⟩
      rintro (⟨rfl, hne⟩ | ⟨-, t, ⟨⟩, hlt⟩)
      · exact absurd rfl hne
      · exact absurd hlt hnot

/-- The outcome depends on the values that are chosen for the settings, and on nothing else. -/
theorem resolve_congr {s' : Sources}
    (h : ∀ name ∈ Settings.names, ∀ v, s.Chosen name v ↔ s'.Chosen name v) :
    s.resolve = s'.resolve := by
  have hraw : s.raw = s'.raw := by
    refine List.filterMap_congr fun name hname => congrArg (Option.map _) (Option.ext fun v => ?_)
    rw [← chosen_iff, ← chosen_iff]
    exact h name hname v
  rw [resolve, resolve, hraw]

end Sources

/-! ## Files whose values refer to no names -/

namespace SettingsFile

/-- The name that a piece refers to. -/
def Piece.name? : Piece → Option String
  | char _ => none
  | valueOf name _ => some name

/-- A file refers to no names just if no piece of a value does. -/
theorem references_eq_nil_iff {content : String} :
    references content = [] ↔
      ∀ e ∈ read content, ∀ p ∈ pieces (e.2.getD "").toList, p.name? = none := by
  have hnames : references content =
      (read content).flatMap fun e => (pieces (e.2.getD "").toList).filterMap Piece.name? := by
    refine congrArg (fun name? => (read content).flatMap fun e =>
      (pieces (e.2.getD "").toList).filterMap name?) (funext fun p => ?_)
    cases p <;> rfl
  rw [hnames, List.flatMap_eq_nil_iff]
  exact forall₂_congr fun e _ => List.filterMap_eq_nil_iff

/-- The text of a piece that refers to no name is the same whatever the names stand for. -/
theorem Piece.text_congr {p : Piece} (h : p.name? = none)
    (known known' : Table String (Option String)) : p.text known = p.text known' := by
  cases p with
  | char c => rfl
  | valueOf name default => cases h

/-- The entries of a file whose values refer to no names do not depend on the environment. -/
theorem entries_congr {content : String} (h : references content = [])
    (environment environment' : Table String String) :
    entries environment content = entries environment' content := by
  rw [references_eq_nil_iff] at h
  rw [entries, entries]
  congr 1
  refine List.foldl_ext _ _ [] fun earlier e he => ?_
  cases hv : e.2 with
  | none => rfl
  | some v =>
    have hpieces : ∀ p ∈ pieces v.toList, p.name? = none := by
      have hentry := h e he
      rwa [hv] at hentry
    have htext (known known' : Table String (Option String)) :
        (pieces v.toList).flatMap (Piece.text known) =
          (pieces v.toList).flatMap (Piece.text known') := by
      rw [List.flatMap_def, List.flatMap_def,
        List.map_congr_left fun p hp => Piece.text_congr (hpieces p hp) known known']
    exact congrArg (fun l => Table.put earlier e.1 (some (String.ofList l))) (htext _ _)

end SettingsFile

namespace Sources

/-- **Settings are resolved from their sources.** Each one has the value that the first source
naming it gives, converted, or its default. There are settings exactly if all these values convert
and the thresholds are in order. Else each value that does not convert is told of, in the order of
the settings; the order of the thresholds is told of only if there is no such value. What is not
chosen has no effect: neither what a later source says of a setting nor a name that is none. The
entries of a file whose values refer to no names do not bring such names back in. Settings that are
obtained are valid, and their own fields give them again over any other sources. -/
theorem resolve_iff (s : Sources) :
    (∀ name v, s.raw? name = some v ↔ s.Chosen name v) ∧
      (∀ t, s.resolve = .ok t ↔ s.Gives t ∧ t.mediumThreshold ≤ t.highThreshold) ∧
      (∀ l, s.resolve = .error l ↔ (l = s.violations ∧ l ≠ []) ∨
        (l = [⟨[], .refused Settings.thresholdReason⟩] ∧
          ∃ t, s.Gives t ∧ t.highThreshold < t.mediumThreshold)) ∧
      (∀ s' : Sources, (∀ name ∈ Settings.names, ∀ v, s.Chosen name v ↔ s'.Chosen name v) →
        s.resolve = s'.resolve) ∧
      (∀ (environment : Table String String) (content : String),
        SettingsFile.references content = [] →
        s.file = SettingsFile.entries s.environment content →
        (∀ name ∈ Settings.names,
          Table.get? s.environment name = Table.get? environment name) →
        s.resolve = resolve
          { s with environment, file := SettingsFile.entries environment content }) ∧
      ∀ t, s.resolve = .ok t → t.Valid ∧ ∀ environment file : Table String String,
        resolve { values := t.toFields, environment, file } = .ok t := by
  refine ⟨fun _ _ => chosen_iff.symm, fun _ => resolve_eq_ok_iff, fun _ => resolve_eq_error_iff,
    fun _ => resolve_congr, fun environment content hnone hfile hsame => ?_, fun t ht => ?_⟩
  · refine resolve_congr fun name hname v => ?_
    rw [chosen_iff, chosen_iff, raw?, raw?, hsame name hname, hfile,
      SettingsFile.entries_congr hnone s.environment environment]
  · obtain ⟨hgives, hordered⟩ := resolve_eq_ok_iff.1 ht
    have hvalid := hgives.valid hordered
    exact ⟨hvalid, fun environment file =>
      resolve_eq_ok_iff.2 ⟨gives_toFields hvalid environment file, hordered⟩⟩

/-- A level in small letters is taken from the values, whatever the environment and the file say. -/
theorem resolve_iff_level :
    let s : Sources :=
      { values := [("LOG_LEVEL", .text "debug")]
        environment := [("LOG_LEVEL", "loud"), ("HOME", "/")]
        file := [("LOG_LEVEL", "1")] }
    let t : Settings := { logLevel := .debug }
    s.resolve = .ok t ∧ s.resolve = resolve { values := [("LOG_LEVEL", .text "debug")] } ∧
      s.resolve = resolve { s with
        environment := [("LOG_LEVEL", "loud")]
        file := SettingsFile.entries [("LOG_LEVEL", "loud")] "LOG_LEVEL=1\n" } ∧
      t.Valid ∧
      resolve { values := t.toFields, file := [("LARGE_DIFF_FILE_COUNT", "none")] } = .ok t := by
  intro s t
  obtain ⟨-, -, -, hchosen, hfile, hagain⟩ := resolve_iff s
  have hok : s.resolve = .ok t := by decide +kernel
  have hsame : ∀ name ∈ Settings.names,
      s.raw? name = raw? { values := [("LOG_LEVEL", .text "debug")] } name := by
    intro name hname
    fin_cases hname <;> rfl
  refine ⟨hok, hchosen _ fun name hname v => ?_,
    hfile _ _ (by decide +kernel) (by decide +kernel) (by decide), (hagain t hok).1,
    (hagain t hok).2 [] _⟩
  rw [chosen_iff, chosen_iff, hsame name hname]

end Sources

end PatchTriage
