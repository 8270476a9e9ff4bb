import PatchTriage.Proofs.Risk.Scores
import PatchTriage.Risk.Json

/-!
# Risks that pass their checks

Every record of an assessment is checked when it is made: each score has to lie between zero and
one. An assessment whose scores do (`RiskAssessment.InBounds`) passes all of these checks, and they
change nothing about it: read back from its JSON form it is the same assessment
(`RiskAssessment.ofJson_toJson`).
-/

namespace PatchTriage

open Binary64 (IsScore)

/-! ## Conversions -/

namespace Convert

/-- A score is read as it is. -/
theorem score_real {x : Binary64} (h : x.IsScore) : score (.real x) = .valid x := by
  rw [score, number, Checked.require, scoreProblem?_eq_none_iff.2 h]

/-- A natural number is read as it is. -/
theorem count_nat (n : Nat) : count (.nat n) = .valid n := by
  have hnot : ¬(n : Int) < 0 := by omega
  rw [count, Json.nat, atLeast, integer, Checked.require, if_neg hnot]
  rfl

/-- A list is read if every item is. -/
theorem list_array {α : Type} {convert : Json → Checked α} {toJson : α → Json} {l : List α}
    (h : ∀ a ∈ l, convert (toJson a) = .valid a) :
    list convert (.array (l.map toJson)) = .valid l := by
  have hall : ∀ k, Checked.all (((l.map toJson).zipIdx k).map fun e =>
      (convert e.1).within (toString e.2)) = .valid l := by
    induction l with
    | nil => exact fun k => rfl
    | cons a l ih =>
      intro k
      have hrest := ih (fun b hb => h b (List.mem_cons_of_mem a hb)) (k + 1)
      rw [List.map_cons, List.zipIdx_cons, List.map_cons, Checked.all, List.foldr_cons,
        ← Checked.all, hrest]
      dsimp only
      rw [h a List.mem_cons_self]
      rfl
  exact hall 0

/-- A value of a type with names is read from its name. -/
theorem member_text {α : Type} {options : List α} {name : α → String} {a : α}
    (h : options.find? (fun option => name option == name a) = some a) :
    member options name (.text (name a)) = .valid a := by
  rw [member, h]

section
variable {α : Type} {fields : Fields} {name : String} {convert : Json → Checked α} {v : Json}
  {a : α}

/-- A field whose value is read is read. -/
theorem field_valid (hv : Table.get? fields name = some v) (ha : convert v = .valid a) :
    field fields name convert = .valid a := by
  rw [field, hv]
  dsimp only
  rw [ha]
  rfl

/-- A field that may be left out is read if it is there and its value is read. -/
theorem fieldOr_valid {default : α} (hv : Table.get? fields name = some v)
    (ha : convert v = .valid a) : fieldOr fields name default convert = .valid a := by
  rw [fieldOr, hv]
  dsimp only
  rw [ha]
  rfl

end

end Convert

/-! ## Records of risk -/

/-- Factors between zero and one are read as they are. -/
theorem RiskFactors.ofJson_toJson {f : RiskFactors} (h : f.Sound) :
    ofJson f.toJson = .valid f := by
  rw [ofJson, toJson, Convert.record, Convert.field_valid rfl (Convert.score_real h.fileType),
    Convert.field_valid rfl (Convert.score_real h.changeType),
    Convert.field_valid rfl (Convert.score_real h.size)]
  rfl

/-- Whether the scores of a file's risk lie between zero and one, with its factors or without. -/
structure FileRisk.InBounds (f : FileRisk) : Prop where
  score : f.score.IsScore
  factors : ∀ factors, f.factors = some factors → factors.Sound

/-- The risk of a file is read as it is if its scores are in bounds. -/
theorem FileRisk.ofJson_toJson {f : FileRisk} (h : f.InBounds) : ofJson f.toJson = .valid f := by
  obtain ⟨path, score, factors⟩ := f
  have hfactors : Convert.orNull RiskFactors.ofJson (factors.elim .null RiskFactors.toJson) =
      .valid factors := by
    cases factors with
    | none => rfl
    | some factors =>
      have hread := RiskFactors.ofJson_toJson (h.factors factors rfl)
      rw [Option.elim_some, RiskFactors.toJson, Convert.orNull, ← RiskFactors.toJson, hread]
      · rfl
      · exact nofun
  have hpath : Convert.text (.text path) = .valid path := rfl
  rw [ofJson, toJson, Convert.record, Convert.field_valid rfl hpath,
    Convert.field_valid rfl (Convert.score_real h.score), Convert.fieldOr_valid rfl hfactors]
  rfl

/-- Whether all scores of an assessment lie between zero and one. -/
structure RiskAssessment.InBounds (a : RiskAssessment) : Prop where
  score : a.score.IsScore
  files : ∀ f ∈ a.details.files, f.InBounds

/-- Details that are written as JSON are read back. -/
theorem RiskDetails.ofJson_toJson {d : RiskDetails} (h : ∀ f ∈ d.files, f.InBounds) :
    ofJson d.toJson = .valid d := by
  have hfiles : Convert.list FileRisk.ofJson (.array (d.files.map FileRisk.toJson)) =
      .valid d.files := Convert.list_array fun f hf => FileRisk.ofJson_toJson (h f hf)
  rw [ofJson, toJson, Convert.record, Convert.fieldOr_valid rfl hfiles,
    Convert.fieldOr_valid rfl (Convert.count_nat d.total)]
  rfl

/-- **An assessment in bounds passes its own checks**, and they leave it as it is. -/
theorem RiskAssessment.ofJson_toJson {a : RiskAssessment} (h : a.InBounds) :
    ofJson a.toJson = .valid a := by
  have hlevel : RiskLevel.all.find? (fun level => level.name == a.level.name) = some a.level := by
    cases a.level <;> decide
  rw [ofJson, toJson, Convert.record, Convert.field_valid rfl (Convert.score_real h.score),
    Convert.field_valid rfl (Convert.member_text hlevel),
    Convert.fieldOr_valid rfl (RiskDetails.ofJson_toJson h.files)]
  rfl

end PatchTriage
