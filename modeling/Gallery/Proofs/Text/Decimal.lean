import Gallery.Text.Numeral

namespace Gallery
namespace Text
namespace Numeral

/-!
# Decimal digits read back

The digits of a natural number are read back as that number, and there is no zero in
front of them.  A machine integer lies in its own range, so it is read back from its
value.
-/

/-! ## Digits -/

theorem digit?_of_isDigit {c : Char} (isDigit : c.isDigit = true) :
    digit? c = some (c.toNat - '0'.toNat) := by
  have bounds := Char.isDigit_iff_toNat.mp isDigit
  unfold digit?
  rw [if_pos]
  simpa [Char.le_def, UInt32.le_iff_toNat_le] using bounds

theorem valueFrom_of_digits {text : List Char} (digits : ∀ c ∈ text, c.isDigit = true)
    (value : Nat) : valueFrom value text = some (Nat.ofDigitChars 10 text value) := by
  induction text generalizing value with
  | nil => rfl
  | cons c rest inductionHypothesis =>
      unfold valueFrom
      rw [digit?_of_isDigit (digits c List.mem_cons_self)]
      exact inductionHypothesis (fun other member => digits other (List.mem_cons_of_mem c member)) _

theorem isDigit_of_mem_toDigits {n : Nat} {c : Char} (member : c ∈ Nat.toDigits 10 n) :
    c.isDigit = true :=
  Nat.isDigit_of_mem_toDigits (by decide) (by decide) member

theorem natural?_toDigits (n : Nat) : natural? (Nat.toDigits 10 n) = some n := by
  have read := valueFrom_of_digits (fun c member => isDigit_of_mem_toDigits (n := n) member) 0
  rw [Nat.ofDigitChars_ten_toDigits] at read
  unfold natural?
  split
  · rename_i noDigits
    exact absurd noDigits Nat.toDigits_ne_nil
  · exact read

/-- Only zero begins with the digit zero. -/
theorem head?_toDigits {n : Nat} (positive : 0 < n) : (Nat.toDigits 10 n).head? ≠ some '0' := by
  induction n using Nat.strongRecOn with
  | ind n inductionHypothesis =>
      by_cases small : n < 10
      · rw [Nat.toDigits_of_lt_base small]
        have digits : ∀ digit < 10, 0 < digit → [digit.digitChar].head? ≠ some '0' := by decide
        exact digits n small positive
      · have before := inductionHypothesis (n / 10) (by omega) (by omega)
        rw [Nat.toDigits_of_base_le (by decide) (by omega), List.head?_append]
        cases first : (Nat.toDigits 10 (n / 10)).head? with
        | none => exact absurd (List.head?_eq_none_iff.mp first) Nat.toDigits_ne_nil
        | some digit =>
            rw [first] at before
            exact before

/-! ## Machine integers -/

theorem int64?_toInt (n : Int64) : int64? n.toInt = some n := by
  have above : Int64.minValue.toInt ≤ n.toInt := Int64.toInt_minValue ▸ n.le_toInt
  have below : n.toInt ≤ Int64.maxValue.toInt :=
    Int64.toInt_maxValue ▸ Int.le_sub_one_of_lt n.toInt_lt
  unfold int64?
  rw [if_pos (by rw [decide_eq_true above, decide_eq_true below]; rfl), Int64.ofInt_toInt]

/-- A natural number in range is neither negative nor too large. -/
private theorem inRange {n size : Nat} (bound : n < size) :
    (decide (0 ≤ (n : Int)) && decide ((n : Int) < size)) = true := by
  simpa using bound

theorem uint64?_toNat (n : UInt64) : uint64? n.toNat = some n := by
  unfold uint64?
  rw [if_pos (inRange n.toNat_lt), Int.toNat_natCast, UInt64.ofNat_toNat]

theorem uint32?_toNat (n : UInt32) : uint32? n.toNat = some n := by
  unfold uint32?
  rw [if_pos (inRange n.toNat_lt), Int.toNat_natCast, UInt32.ofNat_toNat]

theorem uint16?_toNat (n : UInt16) : uint16? n.toNat = some n := by
  unfold uint16?
  rw [if_pos (inRange n.toNat_lt), Int.toNat_natCast, UInt16.ofNat_toNat]

end Numeral
end Text
end Gallery
