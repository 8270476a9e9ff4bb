import PatchTriage.Binary64.Text
import PatchTriage.Proofs.Text.Decimal

/-!
# Texts of numbers lie within a line

A number with a set number of places is made up of digits, a point and a sign. So the texts by which
reports show risks and confidences hold no line feed (`feed_not_mem_twoPlaces`,
`feed_not_mem_percentText`).
-/

namespace PatchTriage

/-- The digits of a number are its decimal text. -/
theorem digitsOf_eq (n : Nat) : digitsOf n = Text.decimal n := by
  rw [digitsOf, Nat.repr, String.toList_ofList]
  rfl

namespace Binary64

/-- Digits that are filled up with zeros hold no line feed. -/
theorem feed_not_mem_padded (n k : Nat) : '\n' ∉ List.replicate k '0' ++ digitsOf n := by
  rw [List.mem_append, List.mem_replicate, digitsOf_eq]
  rintro (⟨-, h⟩ | h)
  · exact absurd h (by decide)
  · exact absurd (Text.isDigit_of_mem_decimal h) (by decide +kernel)

/-- A number with a fixed number of places is written within a line. -/
theorem feed_not_mem_fixed (x : Binary64) (places : Nat) : '\n' ∉ x.fixed places := by
  have htake (n k m : Nat) : '\n' ∉ (List.replicate k '0' ++ digitsOf n).take m :=
    fun h => feed_not_mem_padded n k (List.mem_of_mem_take h)
  have hdrop (n k m : Nat) : '\n' ∉ (List.replicate k '0' ++ digitsOf n).drop m :=
    fun h => feed_not_mem_padded n k (List.mem_of_mem_drop h)
  simp only [fixed]
  split <;> split <;> simp [htake, hdrop]

/-- So is one with two places. -/
theorem feed_not_mem_twoPlaces (x : Binary64) : '\n' ∉ x.twoPlaces.toList := by
  rw [twoPlaces, String.toList_ofList]
  exact x.feed_not_mem_fixed 2

/-- So is a percentage. -/
theorem feed_not_mem_percentText (x : Binary64) : '\n' ∉ x.percentText.toList := by
  rw [percentText, String.toList_ofList, percent, List.mem_append]
  exact not_or.2 ⟨feed_not_mem_fixed _ 0, by decide⟩

end Binary64

end PatchTriage
