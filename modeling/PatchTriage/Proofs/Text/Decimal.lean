import PatchTriage.Text.Digit

/-!
# Decimal numerals

The numeral that writes a natural number in ASCII digits is read back as that number
(`numeralValue_decimal`).
-/

namespace PatchTriage.Text

/-- The decimal numeral of a natural number. -/
def decimal (n : Nat) : List Char := Nat.toDigits 10 n

/-- The digits of the numeral of a number below ten. -/
theorem decimal_of_lt {n : Nat} (h : n < 10) : decimal n = [n.digitChar] :=
  Nat.toDigits_of_lt_base h

/-- The last digit of a numeral stands behind the numeral of the other digits. -/
theorem decimal_of_le {n : Nat} (h : 10 ≤ n) :
    decimal n = decimal (n / 10) ++ [(n % 10).digitChar] :=
  Nat.toDigits_of_base_le (by decide) h

/-- The character of a digit has the value of the digit. -/
theorem digitValue?_digitChar {d : Nat} (h : d < 10) : digitValue? d.digitChar = some d := by
  have all : ∀ d : Fin 10, digitValue? d.val.digitChar = some d.val := by decide
  exact all ⟨d, h⟩

/-- The character of a digit is one. -/
theorem isDigit_digitChar {d : Nat} (h : d < 10) : isDigit d.digitChar = true := by
  rw [isDigit, digitValue?_digitChar h]
  rfl

/-- The decimal text of a number is not empty. -/
theorem decimal_ne_nil (n : Nat) : decimal n ≠ [] := Nat.toDigits_ne_nil

/-- Every character of a numeral is a digit. -/
theorem isDigit_of_mem_decimal {n : Nat} {c : Char} (hc : c ∈ decimal n) : isDigit c = true := by
  induction n using Nat.strongRecOn with
  | ind n ih =>
    rcases Nat.lt_or_ge n 10 with hn | hn
    · rw [decimal_of_lt hn, List.mem_singleton] at hc
      rw [hc]
      exact isDigit_digitChar hn
    · rw [decimal_of_le hn, List.mem_append, List.mem_singleton] at hc
      rcases hc with hc | hc
      · exact ih (n / 10) (by omega) hc
      · rw [hc]
        exact isDigit_digitChar (by omega)

/-- A numeral stands for the number it was written for. -/
theorem numeralValue_decimal (n : Nat) : numeralValue (decimal n) = n := by
  induction n using Nat.strongRecOn with
  | ind n ih =>
    rcases Nat.lt_or_ge n 10 with hn | hn
    · rw [decimal_of_lt hn]
      simp [numeralValue, digitValue?_digitChar hn]
    · rw [decimal_of_le hn, numeralValue_append_singleton, ih (n / 10) (by omega),
        digitValue?_digitChar (by omega)]
      simp only [Option.getD_some]
      omega

end PatchTriage.Text
