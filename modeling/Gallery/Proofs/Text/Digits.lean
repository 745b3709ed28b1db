import Gallery.Proofs.Text.Decimal
import Gallery.Text.Blank
import Gallery.Text.Letter

namespace Gallery
namespace Text

/-!
# Numbers in the digits of any script

Every script has its own ten decimal digits, and each of them has a value.  A number is
read only when all its digits are those of ASCII.  Then reading gives the number that
the digits denote, as long as it fits, and in all other digits nothing is read.
-/

/-! ## What digits denote -/

/-- How far a code point lies behind the start of the interval that holds it. -/
def CodeSet.offset : List Nat → Nat → Nat
  | [], _ => 0
  | [start], code => code - start
  | start :: stop :: rest, code => if code < stop then code - start else offset rest code

/-- The value of a decimal digit.  The digits of a script stand side by side from zero to
nine, and some scripts have several sets of ten, one behind the other. -/
def digitValue (c : Char) : Nat :=
  CodeSet.offset Letter.decimalDigit.edges c.toNat % 10

/-- The number that a run of decimal digits denotes, in whatever script. -/
def denoted (digits : List Char) : Nat :=
  digits.foldl (fun value c => 10 * value + digitValue c) 0

example : denoted ['4', '2'] = 42 ∧ denoted ['๔', '๒'] = 42 ∧ denoted ['４', '２'] = 42 := by decide

theorem digitValue_of_isDigit {c : Char} (isDigit : c.isDigit = true) :
    digitValue c = c.toNat - '0'.toNat := by
  have bounds := Char.isDigit_iff_toNat.mp isDigit
  have first : ∃ rest, Letter.decimalDigit.edges = 0x30 :: 0x3A :: rest := ⟨_, rfl⟩
  rcases first with ⟨rest, edges⟩
  have zero : '0'.toNat = 48 := rfl
  have nine : '9'.toNat = 57 := rfl
  rw [zero, nine] at bounds
  rw [digitValue, edges, CodeSet.offset, if_pos (by omega), zero]
  omega

theorem isBlank_eq_false_of_isDigit {c : Char} (digit : c.isDigit = true) : isBlank c = false := by
  have bounds := Char.isDigit_iff_toNat.mp digit
  have zero : '0'.toNat = 48 := rfl
  have nine : '9'.toNat = 57 := rfl
  rw [zero, nine] at bounds
  rw [isBlank, CodeSet.contains, blanks, CodeSet.covers, if_neg (by omega), if_neg (by omega),
    CodeSet.covers, if_neg (by omega), if_neg (by omega), CodeSet.covers, if_pos (by omega)]

/-! ## What is read -/

namespace Numeral

theorem digit?_of_not_isDigit {c : Char} (other : c.isDigit = false) : digit? c = none := by
  unfold digit?
  rw [if_neg]
  intro bounds
  have isDigit : c.isDigit = true := by
    rw [Char.isDigit_iff_toNat]
    simpa [Char.le_def, UInt32.le_iff_toNat_le] using bounds
  rw [isDigit] at other
  cases other

theorem valueFrom_of_isDigit {text : List Char} (digits : ∀ c ∈ text, c.isDigit = true) :
    valueFrom 0 text = some (denoted text) := by
  have same : ∀ value, Nat.ofDigitChars 10 text value =
      text.foldl (fun value c => 10 * value + digitValue c) value := by
    induction text with
    | nil => exact fun _ => rfl
    | cons c text inductionHypothesis =>
        intro value
        rw [Nat.ofDigitChars_cons, List.foldl_cons,
          digitValue_of_isDigit (digits c List.mem_cons_self)]
        exact inductionHypothesis (fun d member => digits d (List.mem_cons_of_mem c member)) _
  rw [valueFrom_of_digits digits, same, denoted]

theorem valueFrom_of_other {text : List Char} {c : Char} (member : c ∈ text)
    (other : c.isDigit = false) (value : Nat) : valueFrom value text = none := by
  induction text generalizing value with
  | nil => cases member
  | cons d text inductionHypothesis =>
      rw [valueFrom]
      rcases List.mem_cons.mp member with rfl | later
      · rw [digit?_of_not_isDigit other]
      · cases digit? d with
        | none => rfl
        | some digit => exact inductionHypothesis later _

theorem natural?_eq {text : List Char} (nonempty : text ≠ []) :
    natural? text = valueFrom 0 text := by
  cases text with
  | nil => exact absurd rfl nonempty
  | cons c text => rfl

theorem integer?_unsigned {text : List Char} (minusFree : ∀ rest, text ≠ '-' :: rest)
    (plusFree : ∀ rest, text ≠ '+' :: rest) : integer? text = (natural? text).map Int.ofNat := by
  unfold integer?
  split
  · exact absurd rfl (minusFree _)
  · exact absurd rfl (plusFree _)
  · cases natural? text <;> rfl

/-- A number that starts with a digit has no sign. -/
theorem integer?_of_isDecimalDigit {text : List Char} (nonempty : text ≠ [])
    (decimal : ∀ c ∈ text, isDecimalDigit c = true) :
    integer? text = (valueFrom 0 text).map Int.ofNat := by
  have unsigned : ∀ sign, isDecimalDigit sign = false → ∀ rest, text ≠ sign :: rest := by
    rintro sign isSign rest rfl
    have first := decimal sign List.mem_cons_self
    rw [isSign] at first
    cases first
  rw [integer?_unsigned (unsigned '-' (by decide)) (unsigned '+' (by decide)),
    natural?_eq nonempty]

theorem int64?_eq_some_iff {n : Int} {x : Int64} : int64? n = some x ↔ x.toInt = n := by
  constructor
  · intro found
    unfold int64? at found
    split at found
    · rename_i bounds
      simp only [Bool.and_eq_true, decide_eq_true_eq] at bounds
      rw [← Option.some.inj found]
      exact Int64.toInt_ofInt_of_le (Int64.toInt_minValue ▸ bounds.1)
        (Int.lt_add_one_of_le (Int64.toInt_maxValue ▸ bounds.2))
    · cases found
  · rintro rfl
    exact int64?_toInt x

/-- What is not negative is refused only for being too large. -/
theorem int64?_eq_none_iff {n : Int} (nonnegative : 0 ≤ n) :
    int64? n = none ↔ Int64.maxValue.toInt < n := by
  have below : Int64.minValue.toInt ≤ n := Int.le_trans (by decide) nonnegative
  unfold int64?
  rw [decide_eq_true below, Bool.true_and]
  split
  · rename_i above
    simpa using of_decide_eq_true above
  · rename_i above
    simpa using above

theorem toInt_le_maxValue (x : Int64) : x.toInt ≤ Int64.maxValue.toInt :=
  Int64.toInt_maxValue ▸ Int.le_sub_one_of_lt x.toInt_lt

theorem exists_toInt_eq {n : Int} (nonnegative : 0 ≤ n) (fits : n ≤ Int64.maxValue.toInt) :
    ∃ x : Int64, x.toInt = n := by
  cases read : int64? n with
  | none => exact absurd fits (Int.not_le_of_gt ((int64?_eq_none_iff nonnegative).mp read))
  | some x => exact ⟨x, int64?_eq_some_iff.mp read⟩

end Numeral

/-- A run of decimal digits is read exactly when they are those of ASCII and denote a number
that fits. -/
theorem readInt64_eq_some_iff {digits : List Char} {number : Int64} (nonempty : digits ≠ [])
    (decimal : ∀ c ∈ digits, isDecimalDigit c = true) :
    readInt64 digits = some number ↔
      (∀ c ∈ digits, c.isDigit = true) ∧ number.toInt = denoted digits := by
  rw [readInt64, Numeral.integer?_of_isDecimalDigit nonempty decimal]
  cases ascii : digits.all Char.isDigit with
  | true =>
      have each := List.all_eq_true.mp ascii
      rw [Numeral.valueFrom_of_isDigit each, Option.map_some, Option.bind_some,
        Numeral.int64?_eq_some_iff]
      exact (and_iff_right each).symm
  | false =>
      rcases List.all_eq_false.mp ascii with ⟨c, member, other⟩
      rw [Numeral.valueFrom_of_other member (Bool.not_eq_true _ ▸ other)]
      refine iff_of_false ?_ fun both => other (both.1 c member)
      exact Option.some_ne_none number ∘ Eq.symm

end Text
end Gallery
