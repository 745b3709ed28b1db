import Gallery.Proofs.Text.Digits
import Gallery.Proofs.Text.Order
import Mathlib.Data.List.TakeWhile

namespace Gallery
namespace Text

open Std (OrientedCmp)

/-!
# The natural order, read side by side

Two titles can be compared without taking them to pieces.  Both are read from the
left at once: blanks are passed over, where both have a digit the whole runs are
compared, and otherwise one character with one character.  How runs are compared
depends on both of them, for they are numbers unless one begins with a zero.

It is the same order.  A run is compared as a whole only with a run, and a digit is
never equal to another character, so neither text is left in the middle of a run.
-/

namespace Natural

/-! ## Runs of digits as numbers -/

/-- The order of two runs of digits: from the left like fractions if one of them begins
with a zero, and by the numbers that they denote if none does. -/
def compareNumbers (a b : List Char) : Ordering :=
  if a.head? = some '0' ∨ b.head? = some '0' then compareChars a b
  else compare (Nat.ofDigitChars 10 a 0) (Nat.ofDigitChars 10 b 0)

/-- The next digits decide between numbers that are equal so far. -/
theorem compare_next {m n : Nat} {c d : Char} (isDigitC : isDigit c = true)
    (isDigitD : isDigit d = true) :
    compare (10 * m + (c.toNat - '0'.toNat)) (10 * n + (d.toNat - '0'.toNat)) =
      (compare m n).then (compare c.toNat d.toNat) := by
  have boundsC := isDigit_iff.mp isDigitC
  have boundsD := isDigit_iff.mp isDigitD
  have zero : '0'.toNat = 48 := rfl
  rcases Nat.lt_trichotomy m n with less | same | greater
  · rw [Nat.compare_eq_lt.mpr less, Nat.compare_eq_lt.mpr (by omega)]
    rfl
  · subst same
    rw [Nat.compare_eq_eq.mpr rfl, Ordering.eq_then]
    rcases Nat.lt_trichotomy c.toNat d.toNat with less | same | greater
    · rw [Nat.compare_eq_lt.mpr less, Nat.compare_eq_lt.mpr (by omega)]
    · rw [Nat.compare_eq_eq.mpr same, Nat.compare_eq_eq.mpr (by omega)]
    · rw [Nat.compare_eq_gt.mpr greater, Nat.compare_eq_gt.mpr (by omega)]
  · rw [Nat.compare_eq_gt.mpr greater, Nat.compare_eq_gt.mpr (by omega)]
    rfl

/-- Equally long runs are compared as they are read, whatever was read before. -/
theorem compare_ofDigitChars {a b : List Char} (digitsA : ∀ c ∈ a, isDigit c = true)
    (digitsB : ∀ c ∈ b, isDigit c = true) (sameLength : a.length = b.length) (m n : Nat) :
    compare (Nat.ofDigitChars 10 a m) (Nat.ofDigitChars 10 b n) =
      (compare m n).then (compareChars a b) := by
  induction a generalizing b m n with
  | nil =>
      rw [List.length_nil] at sameLength
      rw [List.eq_nil_of_length_eq_zero sameLength.symm, compareChars, Ordering.then_eq]
      rfl
  | cons c a inductionHypothesis =>
      cases b with
      | nil => cases sameLength
      | cons d b =>
          rcases List.forall_mem_cons.mp digitsA with ⟨isDigitC, digitsA⟩
          rcases List.forall_mem_cons.mp digitsB with ⟨isDigitD, digitsB⟩
          rw [Nat.ofDigitChars_cons, Nat.ofDigitChars_cons,
            inductionHypothesis digitsA digitsB (Nat.succ.inj sameLength),
            compare_next isDigitC isDigitD, Ordering.then_assoc, compareChars]

theorem le_ofDigitChars (digits : List Char) (value : Nat) :
    value ≤ Nat.ofDigitChars 10 digits value := by
  induction digits generalizing value with
  | nil => exact Nat.le_refl value
  | cons c digits inductionHypothesis =>
      rw [Nat.ofDigitChars_cons]
      exact Nat.le_trans (by omega) (inductionHypothesis _)

/-- A run that does not begin with a zero denotes a positive number. -/
theorem ofDigitChars_pos {digits : List Char} (nonempty : digits ≠ [])
    (each : ∀ c ∈ digits, isDigit c = true) (nonzero : digits.head? ≠ some '0') :
    0 < Nat.ofDigitChars 10 digits 0 := by
  cases digits with
  | nil => exact absurd rfl nonempty
  | cons c digits =>
      have bounds := isDigit_iff.mp (each c List.mem_cons_self)
      have differs : c.toNat ≠ 48 := fun same =>
        nonzero (congrArg some (Char.toNat_inj.mp (same : c.toNat = '0'.toNat)))
      have zero : '0'.toNat = 48 := rfl
      rw [Nat.ofDigitChars_cons]
      exact Nat.lt_of_lt_of_le (by omega) (le_ofDigitChars digits _)

/-- A shorter run denotes a smaller number than a run that does not begin with a zero. -/
theorem ofDigitChars_lt_of_length_lt {a b : List Char} (digitsA : ∀ c ∈ a, isDigit c = true)
    (digitsB : ∀ c ∈ b, isDigit c = true) (nonzero : b.head? ≠ some '0')
    (shorter : a.length < b.length) :
    Nat.ofDigitChars 10 a 0 < Nat.ofDigitChars 10 b 0 := by
  -- The longer run has some digits more in front of as many as the shorter one has.
  let further := b.length - a.length
  have parts : b.take further ++ b.drop further = b := List.take_append_drop further b
  have front : 0 < Nat.ofDigitChars 10 (b.take further) 0 := by
    apply ofDigitChars_pos
    · rw [← List.length_pos_iff, List.length_take]
      omega
    · exact fun c member => digitsB c (List.mem_of_mem_take member)
    · rwa [List.head?_take, if_neg (by omega)]
  have behind := compare_ofDigitChars digitsA
    (fun c member => digitsB c (List.mem_of_mem_drop (i := further) member))
    (by rw [List.length_drop]; omega) 0 (Nat.ofDigitChars 10 (b.take further) 0)
  rw [Nat.compare_eq_lt.mpr front, ← Nat.ofDigitChars_append, parts] at behind
  exact Nat.compare_eq_lt.mp behind

/-- Runs of digits are compared as numbers: the length counts first because no zero stands in
front. -/
theorem compareRuns_eq_compareNumbers {a b : List Char} (properA : (Piece.digits a).IsProper)
    (properB : (Piece.digits b).IsProper) : compareRuns a b = compareNumbers a b := by
  rw [compareRuns, compareNumbers, startsWithZero, startsWithZero]
  by_cases zero : a.head? = some '0' ∨ b.head? = some '0'
  · rw [if_pos zero, if_pos (by simpa using zero)]
  · rcases not_or.mp zero with ⟨nonzeroA, nonzeroB⟩
    rw [if_neg zero, if_neg (by simpa using zero)]
    rcases Nat.lt_trichotomy a.length b.length with shorter | same | longer
    · rw [Nat.compare_eq_lt.mpr shorter, Nat.compare_eq_lt.mpr
        (ofDigitChars_lt_of_length_lt properA.2 properB.2 nonzeroB shorter)]
      rfl
    · rw [Nat.compare_eq_eq.mpr same, Ordering.eq_then,
        compare_ofDigitChars properA.2 properB.2 same, Nat.compare_eq_eq.mpr rfl, Ordering.eq_then]
    · rw [Nat.compare_eq_gt.mpr longer, Nat.compare_eq_gt.mpr
        (ofDigitChars_lt_of_length_lt properB.2 properA.2 nonzeroA longer)]
      rfl

/-! ## Two texts at once -/

/-- The order of two texts, of which both are read from the left at once. -/
def compareSideBySide : List Char → List Char → Ordering
  | [], [] => .eq
  | [], d :: b => if isBlank d then compareSideBySide [] b else .lt
  | c :: a, [] => if isBlank c then compareSideBySide a [] else .gt
  | c :: a, d :: b =>
      if isBlank c then compareSideBySide a (d :: b)
      else if isBlank d then compareSideBySide (c :: a) b
      else if isDigit c && isDigit d then
        (compareNumbers (c :: a.takeWhile isDigit) (d :: b.takeWhile isDigit)).then
          (compareSideBySide (a.dropWhile isDigit) (b.dropWhile isDigit))
      else (compare c.toNat d.toNat).then (compareSideBySide a b)
termination_by a b => a.length + b.length
decreasing_by
  any_goals
    simp only [List.length_cons, List.length_nil]
    omega
  have shorterA := (List.dropWhile_sublist (l := a) isDigit).length_le
  have shorterB := (List.dropWhile_sublist (l := b) isDigit).length_le
  simp only [List.length_cons]
  omega

/-! ## The pieces of a text from the left -/

theorem isDigit_eq (c : Char) : isDigit c = c.isDigit := by
  rw [Bool.eq_iff_iff, isDigit_iff, Char.isDigit_iff_toNat]
  rfl

theorem isDigit_eq_false_of_isBlank {c : Char} (blank : isBlank c = true) : isDigit c = false := by
  cases digit : isDigit c with
  | false => rfl
  | true =>
      rw [isBlank_eq_false_of_isDigit (isDigit_eq c ▸ digit)] at blank
      cases blank

theorem piecesFrom_cons_of_isBlank {c : Char} (blank : isBlank c = true) (text : List Char) :
    piecesFrom [] (c :: text) = piecesFrom [] text := by
  rw [piecesFrom, isDigit_eq_false_of_isBlank blank, if_neg Bool.false_ne_true, if_pos blank]
  rfl

theorem piecesFrom_cons_of_other {c : Char} (digitFree : isDigit c = false)
    (nonblank : isBlank c = false) (text : List Char) :
    piecesFrom [] (c :: text) = .char c :: piecesFrom [] text := by
  rw [piecesFrom, digitFree, nonblank, if_neg Bool.false_ne_true, if_neg Bool.false_ne_true]
  rfl

/-- A run that has been begun takes all the digits that follow. -/
theorem piecesFrom_of_run {run : List Char} (nonempty : run ≠ []) (text : List Char) :
    piecesFrom run text =
      .digits (run.reverse ++ text.takeWhile isDigit) ::
        piecesFrom [] (text.dropWhile isDigit) := by
  have closed : ∀ (run : List Char) (later : List Piece), run ≠ [] →
      closeRun run later = .digits run.reverse :: later := by
    intro run later nonempty
    rw [closeRun, if_neg (by simpa using nonempty)]
  induction text generalizing run with
  | nil => rw [piecesFrom, closed run [] nonempty, List.takeWhile_nil, List.append_nil]; rfl
  | cons c text inductionHypothesis =>
      cases digit : isDigit c with
      | true =>
          rw [piecesFrom, if_pos digit, inductionHypothesis (List.cons_ne_nil c run),
            List.takeWhile_cons_of_pos digit, List.dropWhile_cons_of_pos digit,
            List.reverse_cons, List.append_assoc]
          rfl
      | false =>
          have other : ¬ isDigit c = true := Bool.eq_false_iff.mp digit
          rw [List.takeWhile_cons_of_neg other, List.dropWhile_cons_of_neg other, List.append_nil]
          cases blank : isBlank c with
          | true =>
              rw [piecesFrom_cons_of_isBlank blank, piecesFrom, if_neg other, if_pos blank,
                closed run _ nonempty]
          | false =>
              rw [piecesFrom_cons_of_other digit blank, piecesFrom, if_neg other,
                if_neg (Bool.eq_false_iff.mp blank), closed run _ nonempty]

theorem piecesFrom_cons_of_isDigit {c : Char} (digit : isDigit c = true) (text : List Char) :
    piecesFrom [] (c :: text) =
      .digits (c :: text.takeWhile isDigit) :: piecesFrom [] (text.dropWhile isDigit) := by
  rw [piecesFrom, if_pos digit, piecesFrom_of_run (List.cons_ne_nil c [])]
  rfl

theorem isProper_run {c : Char} (digit : isDigit c = true) (text : List Char) :
    (Piece.digits (c :: text.takeWhile isDigit)).IsProper :=
  ⟨List.cons_ne_nil c _,
    List.forall_mem_cons.mpr ⟨digit, fun _ member => List.mem_takeWhile_imp member⟩⟩

/-- A text that does not begin with a blank has a piece. -/
theorem exists_piece_of_nonblank {c : Char} (nonblank : isBlank c = false) (text : List Char) :
    ∃ piece later, piecesFrom [] (c :: text) = piece :: later := by
  cases digit : isDigit c with
  | true => exact ⟨_, _, piecesFrom_cons_of_isDigit digit text⟩
  | false => exact ⟨_, _, piecesFrom_cons_of_other digit nonblank text⟩

/-- Two texts of which one begins with a character that is no digit compare by their first
characters, and if these are equal, both are such characters. -/
theorem compareLists_of_other {c d : Char} (nonblankC : isBlank c = false)
    (nonblankD : isBlank d = false) (notBoth : ¬ (isDigit c && isDigit d) = true)
    (a b : List Char) :
    compareLists (piecesFrom [] (c :: a)) (piecesFrom [] (d :: b)) =
      (compare c.toNat d.toNat).then (compareLists (piecesFrom [] a) (piecesFrom [] b)) := by
  cases digitC : isDigit c with
  | true =>
      cases digitD : isDigit d with
      | true => exact absurd (by rw [digitC, digitD]; rfl) notBoth
      | false =>
          have differs := (compare_digit_char (isDigit_iff.mp digitC) (isDigit_iff.mp digitC)
            digitD).2
          rw [piecesFrom_cons_of_isDigit digitC, piecesFrom_cons_of_other digitD nonblankD,
            then_of_ne_eq differs]
          exact then_of_ne_eq differs
  | false =>
      cases digitD : isDigit d with
      | true =>
          have differs : compare c.toNat d.toNat ≠ .eq := fun equal =>
            (compare_digit_char (isDigit_iff.mp digitD) (isDigit_iff.mp digitD) digitC).2
              (OrientedCmp.eq_symm equal)
          rw [piecesFrom_cons_of_other digitC nonblankC, piecesFrom_cons_of_isDigit digitD,
            then_of_ne_eq differs]
          exact then_of_ne_eq differs
      | false =>
          rw [piecesFrom_cons_of_other digitC nonblankC, piecesFrom_cons_of_other digitD nonblankD]
          rfl

/-- Taking texts to pieces and reading them side by side give the same order. -/
theorem compareLists_eq_compareSideBySide (a b : List Char) :
    compareLists (piecesFrom [] a) (piecesFrom [] b) = compareSideBySide a b := by
  fun_induction compareSideBySide a b with
  | case1 => rfl
  | case2 d b blank inductionHypothesis =>
      rw [piecesFrom_cons_of_isBlank blank, inductionHypothesis]
  | case3 d b nonblank =>
      rcases exists_piece_of_nonblank (Bool.eq_false_iff.mpr nonblank) b with ⟨piece, later, same⟩
      rw [same]
      rfl
  | case4 c a blank inductionHypothesis =>
      rw [piecesFrom_cons_of_isBlank blank, inductionHypothesis]
  | case5 c a nonblank =>
      rcases exists_piece_of_nonblank (Bool.eq_false_iff.mpr nonblank) a with ⟨piece, later, same⟩
      rw [same]
      rfl
  | case6 c a d b blank inductionHypothesis =>
      rw [piecesFrom_cons_of_isBlank blank, inductionHypothesis]
  | case7 c a d b _ blank inductionHypothesis =>
      rw [piecesFrom_cons_of_isBlank blank, inductionHypothesis]
  | case8 c a d b nonblankC nonblankD bothDigits inductionHypothesis =>
      rcases Bool.and_eq_true_iff.mp bothDigits with ⟨digitC, digitD⟩
      rw [piecesFrom_cons_of_isDigit digitC, piecesFrom_cons_of_isDigit digitD, compareLists,
        comparePieces, compareRuns_eq_compareNumbers (isProper_run digitC a)
          (isProper_run digitD b), inductionHypothesis]
  | case9 c a d b nonblankC nonblankD notBoth inductionHypothesis =>
      rw [compareLists_of_other (Bool.eq_false_iff.mpr nonblankC) (Bool.eq_false_iff.mpr nonblankD)
        notBoth, inductionHypothesis]

end Natural

theorem compareNaturally_eq_compareSideBySide (a b : String) :
    compareNaturally a b =
      Natural.compareSideBySide (lowerEach a.toList) (lowerEach b.toList) :=
  Natural.compareLists_eq_compareSideBySide _ _

example : compareNaturally "vol 2" "Vol 10" = .lt ∧ compareNaturally "1.05" "1.5" = .lt ∧
    compareNaturally "Vol  2" "vol2" = .eq ∧ compareNaturally "1 2" "12" = .lt := by
  decide +kernel

end Text
end Gallery
