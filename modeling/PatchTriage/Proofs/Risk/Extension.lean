import PatchTriage.Change.Classifier
import PatchTriage.Proofs.Path
import PatchTriage.Risk.Rules

/-!
# Extensions in two tables

The extension of a file decides its language and its risk. Both follow from the name of the path
alone, but each reads the extension in its own way. No key of the two tables holds a sigma, so both
ways find the same key (`RiskRules.extension_eq_iff`). What the languages of the one table say about
the risks of the other can then be read off their keys (`RiskRules.path_counts_by_name`).
-/

namespace PatchTriage

variable {path : String}

namespace Language

/-- The extension by which the language of a path is looked up, in small letters. -/
def extensionOf (path : String) : String :=
  String.ofList (Text.lower (Path.afterLastDot (Path.name path.toList)))

/-- The language of a file whose name has a dot is that of its extension. -/
theorem ofPath_of_dot (h : '.' ∈ Path.name path.toList) :
    ofPath path = ofExtension (extensionOf path) := by
  rw [ofPath, ofName, if_pos (List.contains_iff_mem.2 h)]
  rfl

/-- A language that is known has the extension that it is found by. -/
theorem mem_extensions {extension : String} (h : ofExtension extension ≠ unknown) :
    extension ∈ (ofExtension extension).extensions := by
  rw [ofExtension] at h ⊢
  cases hfind : known.find? fun language => language.extensions.contains extension with
  | none =>
    rw [hfind] at h
    exact absurd rfl h
  | some language =>
    have hcontains := List.find?_some
      (p := fun language : Language => language.extensions.contains extension) hfind
    exact List.contains_iff_mem.1 hcontains

/-- No extension of a language has a small sigma. -/
theorem sigma_not_mem_extensions (language : Language) :
    ∀ e ∈ language.extensions, 'σ' ∉ e.toList ∧ 'ς' ∉ e.toList := by
  cases language <;> decide +kernel

end Language

namespace RiskRules

/-- **Both readers find the same key.** -/
theorem extension_eq_iff (h : '.' ∈ Path.name path.toList) {key : String}
    (hkey : 'σ' ∉ key.toList ∧ 'ς' ∉ key.toList) :
    Language.extensionOf path = key ↔ extension path = key := by
  rw [Language.extensionOf, extension, ← String.toList_inj, ← String.toList_inj,
    String.toList_ofList, String.toList_ofList]
  exact Path.lower_afterLastDot_iff h hkey.1 hkey.2

/-- A path with a name other than that of the missing one is looked up by its extension. -/
theorem fileTypeRisk_of_name (r : RiskRules) (h : Path.name path.toList ≠ [])
    (hname : String.ofList (Path.name path.toList) ≠ unknownPath) :
    r.fileTypeRisk path = r.extensionRisk (extension path) := by
  rw [fileTypeRisk, if_neg]
  rintro (rfl | rfl)
  · exact h rfl
  · exact hname (by decide +kernel)

/-- The risk of a file whose name has a dot is that of its extension. -/
theorem fileTypeRisk_of_dot (r : RiskRules) (h : '.' ∈ Path.name path.toList) :
    r.fileTypeRisk path = r.extensionRisk (extension path) := by
  refine r.fileTypeRisk_of_name (List.ne_nil_of_mem h) fun hname => ?_
  have hdot : '.' ∈ unknownPath.toList := by rwa [← hname, String.toList_ofList]
  exact absurd hdot (by decide)

/-! ## Risks by language -/

/-- The risk of a file in a known language is that of an extension of the language. -/
theorem exists_fileTypeRisk (r : RiskRules) (h : '.' ∈ Path.name path.toList)
    (hknown : Language.ofPath path ≠ .unknown) :
    ∃ e ∈ (Language.ofPath path).extensions, r.fileTypeRisk path = r.extensionRisk e := by
  rw [Language.ofPath_of_dot h] at hknown ⊢
  have hmem := Language.mem_extensions hknown
  have hsame := (extension_eq_iff h (Language.sigma_not_mem_extensions _ _ hmem)).1 rfl
  exact ⟨_, hmem, by rw [r.fileTypeRisk_of_dot h, hsame]⟩

/-- If all extensions of some languages have one risk, so have the files in these languages. -/
theorem fileTypeRisk_of_language {r : RiskRules} {languages : List Language} {risk : Binary64}
    (hknown : Language.unknown ∉ languages)
    (hrisk : ∀ language ∈ languages, ∀ e ∈ language.extensions, r.extensionRisk e = risk)
    (h : '.' ∈ Path.name path.toList) (hlanguage : Language.ofPath path ∈ languages) :
    r.fileTypeRisk path = risk := by
  obtain ⟨e, he, hpath⟩ := r.exists_fileTypeRisk h fun heq => hknown (heq ▸ hlanguage)
  rw [hpath]
  exact hrisk _ hlanguage e he

/-- Of the standard extensions just the high ones have the high risk. -/
theorem mem_highExtensions {extension : String}
    (h : ({} : RiskRules).extensionRisk extension = 0.8) :
    extension ∈ ({} : RiskRules).highExtensions := by
  rw [extensionRisk] at h
  split at h
  · next hhigh => exact List.contains_iff_mem.1 hhigh
  · split at h
    · exact absurd h (by decide +kernel)
    · split at h
      · exact absurd h (by decide +kernel)
      · exact absurd h (by decide +kernel)

/-- A file with the high risk is in one of the languages of the high extensions, or in the one that
has no language. -/
theorem ofPath_of_fileTypeRisk (h : '.' ∈ Path.name path.toList)
    (hrisk : ({} : RiskRules).fileTypeRisk path = 0.8) :
    Language.ofPath path ∈ [.javascript, .typescript, .python, .java, .go] ∨
      Language.extensionOf path = "rs" := by
  have hkeys : ∀ e ∈ ({} : RiskRules).highExtensions, ('σ' ∉ e.toList ∧ 'ς' ∉ e.toList) ∧
      (Language.ofExtension e ∈ [Language.javascript, .typescript, .python, .java, .go] ∨
        e = "rs") := by decide +kernel
  rw [fileTypeRisk_of_dot _ h] at hrisk
  obtain ⟨hsigma, hhigh⟩ := hkeys _ (mem_highExtensions hrisk)
  have hsame := (extension_eq_iff h hsigma).2 rfl
  rw [Language.ofPath_of_dot h, hsame]
  exact hhigh

/-- **Just the name of a path counts, and its language agrees with its risk.** -/
theorem path_counts_by_name (h : Path.name path.toList ≠ []) :
    let name := String.ofList (Path.name path.toList)
    Language.ofPath path = Language.ofPath name ∧
      (∀ (c : Classifier) (f g : FileChange), f.path = path → g.path = name →
        c.strategy f = c.strategy g) ∧
      (name ≠ unknownPath → ∀ r : RiskRules, r.fileTypeRisk path = r.fileTypeRisk name) ∧
      ('.' ∈ name.toList →
        (Language.ofPath path ∈ [.typescript, .python, .java, .go] →
          ({} : RiskRules).fileTypeRisk path = 0.8) ∧
        (Language.ofPath path ∈ [.json, .yaml] → ({} : RiskRules).fileTypeRisk path = 0.5) ∧
        (Language.ofPath path ∈ [.toml, .kotlin] → ({} : RiskRules).fileTypeRisk path = 0.3) ∧
        (({} : RiskRules).fileTypeRisk path = 0.8 →
          Language.ofPath path ∈ [.javascript, .typescript, .python, .java, .go] ∨
            Language.extensionOf path = "rs")) := by
  intro name
  have htext : name.toList = Path.name path.toList := String.toList_ofList
  have hname : Path.name name.toList = Path.name path.toList := by rw [htext, Path.name_name]
  have hlanguage : Language.ofPath path = Language.ofPath name := by
    rw [Language.ofPath, Language.ofPath, hname]
  refine ⟨hlanguage, fun c f g hf hg => ?_, fun hother r => ?_, fun hdot => ?_⟩
  · rw [Classifier.strategy, Classifier.strategy, hf, hg, hlanguage]
  · rw [r.fileTypeRisk_of_name h hother, r.fileTypeRisk_of_name (by rwa [hname]) (by rwa [hname]),
      extension, extension, hname]
  · rw [htext] at hdot
    refine ⟨fileTypeRisk_of_language ?_ ?_ hdot, fileTypeRisk_of_language ?_ ?_ hdot,
      fileTypeRisk_of_language ?_ ?_ hdot, ofPath_of_fileTypeRisk hdot⟩
    all_goals decide +kernel

/-- A path in which only the last component counts, its extension in capitals. -/
theorem path_counts_by_name_python :
    Path.name "./src//.test/Main.PY/".toList ≠ [] ∧
      Language.ofPath "./src//.test/Main.PY/" = Language.ofPath "Main.PY" ∧
      Language.ofPath "./src//.test/Main.PY/" = .python ∧
      ({} : RiskRules).fileTypeRisk "./src//.test/Main.PY/" =
        ({} : RiskRules).fileTypeRisk "Main.PY" ∧
      ({} : RiskRules).fileTypeRisk "./src//.test/Main.PY/" = 0.8 := by
  have hne : Path.name "./src//.test/Main.PY/".toList ≠ [] := by decide +kernel
  have hname : String.ofList (Path.name "./src//.test/Main.PY/".toList) = "Main.PY" := by
    decide +kernel
  obtain ⟨hlanguage, -, hrisk, hdot⟩ := path_counts_by_name hne
  rw [hname] at hlanguage hrisk hdot
  have hpython : Language.ofPath "./src//.test/Main.PY/" = .python := by decide +kernel
  refine ⟨hne, hlanguage, hpython, hrisk (by decide +kernel) {}, (hdot (by decide +kernel)).1 ?_⟩
  rw [hpython]
  decide

end RiskRules

end PatchTriage
