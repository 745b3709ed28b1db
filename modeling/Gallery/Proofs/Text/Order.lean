import Gallery.Text.Natural

namespace Gallery
namespace Text

open Std (OrientedCmp ReflCmp TransCmp)

/-!
# Orders of texts are total

A list can be sorted by a comparison only if the comparison is total and
transitive.  For characters and for folded texts this is the lexicographic order.
The natural order is less obvious.  It compares runs of digits in two ways and
anything else by the first character, and pieces made up at will break it: a
character `1` would be equal to the runs `10` and `11` alike.  The pieces of a
title are never like that, since every digit is part of a run.  They can be ranked,
all runs that begin with a zero below all other runs and both between the
characters around the digits, and then the natural order is lexicographic too.
-/

/-! ## Characters and texts -/

/-- An order of keys is an order of what has the keys. -/
theorem transCmp_on {α β : Type} (order : β → β → Ordering) [TransCmp order] (key : α → β) :
    TransCmp fun a b => order (key a) (key b) where
  eq_swap := OrientedCmp.eq_swap
  isLE_trans := TransCmp.isLE_trans

/-- One order settles what another leaves equal. -/
theorem transCmp_then {α : Type} (first second : α → α → Ordering) [TransCmp first]
    [TransCmp second] : TransCmp fun a b => (first a b).then (second a b) :=
  inferInstanceAs (TransCmp (compareLex first second))

theorem compareChars_eq_compareLex :
    compareChars = List.compareLex (compareOn Char.toNat) := by
  funext a b
  induction a generalizing b with
  | nil => cases b <;> rfl
  | cons first rest inductionHypothesis =>
      cases b with
      | nil => rfl
      | cons other others =>
          rw [compareChars, List.compareLex_cons_cons, inductionHypothesis]
          rfl

instance : TransCmp compareChars :=
  compareChars_eq_compareLex ▸ inferInstance

instance : TransCmp compareText :=
  transCmp_on compareChars String.toList

theorem eq_of_compareChars {a b : List Char} (same : compareChars a b = .eq) : a = b := by
  induction a generalizing b with
  | nil =>
      cases b with
      | nil => rfl
      | cons _ _ => cases same
  | cons first rest inductionHypothesis =>
      cases b with
      | nil => cases same
      | cons other others =>
          rcases Ordering.then_eq_eq.mp same with ⟨firsts, rests⟩
          rw [Char.toNat_inj.mp (Nat.compare_eq_eq.mp firsts), inductionHypothesis rests]

theorem eq_of_compareText {a b : String} (same : compareText a b = .eq) : a = b :=
  String.toList_inj.mp (eq_of_compareChars same)

theorem compareChars_eq_eq_iff {a b : List Char} : compareChars a b = .eq ↔ a = b :=
  ⟨eq_of_compareChars, fun same => same ▸ ReflCmp.compare_self⟩

theorem compareText_eq_eq_iff {a b : String} : compareText a b = .eq ↔ a = b :=
  ⟨eq_of_compareText, fun same => same ▸ ReflCmp.compare_self⟩

/-- Whether one text strictly precedes another: at the first difference it has the smaller code
point, or it ends there. -/
def Precedes (a b : List Char) : Prop :=
  List.Lex (fun c d => c.toNat < d.toNat) a b

theorem compareChars_eq_lt_iff {a b : List Char} : compareChars a b = .lt ↔ Precedes a b := by
  have nothing_before_nil : ∀ text : List Char, ¬ Precedes text [] := by
    intro text precedes
    cases precedes
  induction a generalizing b with
  | nil =>
      cases b with
      | nil => exact iff_of_false (by decide) (nothing_before_nil [])
      | cons other others => exact iff_of_true rfl .nil
  | cons first rest inductionHypothesis =>
      cases b with
      | nil => exact iff_of_false (by rw [compareChars]; decide) (nothing_before_nil _)
      | cons other others =>
          rw [compareChars, Ordering.then_eq_lt, Nat.compare_eq_lt, Nat.compare_eq_eq,
            Char.toNat_inj]
          constructor
          · rintro (smaller | ⟨rfl, later⟩)
            · exact .rel smaller
            · exact .cons (inductionHypothesis.mp later)
          · intro precedes
            cases precedes with
            | rel smaller => exact .inl smaller
            | cons later => exact .inr ⟨rfl, inductionHypothesis.mpr later⟩

instance : TransCmp compareNoCase := by
  have folded := transCmp_on compareChars foldedPart
  have length := transCmp_on (compare : Nat → Nat → Ordering) fun text : String =>
    (Utf8.encode text.toList).length
  exact transCmp_then _ _

/-! ## Natural order -/

namespace Natural

/-- The pieces that titles are made of: no run is empty, and every digit is in a run. -/
def Piece.IsProper : Piece → Prop
  | .digits run => run ≠ [] ∧ ∀ c ∈ run, isDigit c = true
  | .char c => isDigit c = false

/-- The rank of a piece: the place of its first character, its length where that
counts, and what it consists of. -/
def Piece.rank : Piece → Nat × Nat × List Char
  | .digits run => if startsWithZero run then (48, 0, run) else (49, run.length, run)
  | .char c => (c.toNat, 0, [])

/-- The order of two pieces by their ranks. -/
def compareRanks (a b : Piece) : Ordering :=
  (compare a.rank.1 b.rank.1).then
    ((compare a.rank.2.1 b.rank.2.1).then (compareChars a.rank.2.2 b.rank.2.2))

instance : TransCmp compareRanks := by
  have place := transCmp_on (compare : Nat → Nat → Ordering) fun piece : Piece => piece.rank.1
  have length := transCmp_on (compare : Nat → Nat → Ordering) fun piece : Piece => piece.rank.2.1
  have content := transCmp_on compareChars fun piece : Piece => piece.rank.2.2
  have inside := transCmp_then (fun a b : Piece => compare a.rank.2.1 b.rank.2.1)
    (fun a b => compareChars a.rank.2.2 b.rank.2.2)
  exact transCmp_then _ _

theorem isDigit_iff {c : Char} : isDigit c = true ↔ 48 ≤ c.toNat ∧ c.toNat ≤ 57 := by
  rw [isDigit, Bool.and_eq_true, decide_eq_true_eq, decide_eq_true_eq]
  rfl

/-- All digits compare alike with another character. -/
theorem compare_digit_char {digit place : Nat} {c : Char} (isDigits : 48 ≤ digit ∧ digit ≤ 57)
    (isPlace : 48 ≤ place ∧ place ≤ 57) (other : isDigit c = false) :
    compare digit c.toNat = compare place c.toNat ∧ compare place c.toNat ≠ .eq := by
  have outside : ¬ (48 ≤ c.toNat ∧ c.toNat ≤ 57) := by
    rw [← isDigit_iff, other]
    exact Bool.false_ne_true
  by_cases below : c.toNat < 48
  · rw [Nat.compare_eq_gt.mpr (by omega), Nat.compare_eq_gt.mpr (by omega)]
    exact ⟨rfl, by decide⟩
  · rw [Nat.compare_eq_lt.mpr (by omega), Nat.compare_eq_lt.mpr (by omega)]
    exact ⟨rfl, by decide⟩

theorem then_of_ne_eq {order later : Ordering} (differs : order ≠ .eq) :
    order.then later = order := by
  cases order with
  | eq => exact absurd rfl differs
  | lt | gt => rfl

/-- A run of digits compares with another character as its rank says. -/
theorem compare_digits_char {run : List Char} {c : Char}
    (proper : (Piece.digits run).IsProper) (other : (Piece.char c).IsProper) :
    compare (Piece.digits run).firstChar.toNat c.toNat =
      compare (Piece.digits run).rank.1 c.toNat ∧
    compare (Piece.digits run).rank.1 c.toNat ≠ .eq := by
  rcases proper with ⟨nonempty, digits⟩
  cases run with
  | nil => exact absurd rfl nonempty
  | cons first rest =>
      have isPlace : 48 ≤ (Piece.digits (first :: rest)).rank.1 ∧
          (Piece.digits (first :: rest)).rank.1 ≤ 57 := by
        rw [Piece.rank]
        split
        · exact ⟨Nat.le_refl 48, Nat.le_add_right 48 9⟩
        · exact ⟨Nat.le_add_right 48 1, Nat.le_add_right 49 8⟩
      exact compare_digit_char (isDigit_iff.mp (digits first List.mem_cons_self)) isPlace other

/-- A run that begins with a zero comes before any other run. -/
theorem compareChars_of_startsWithZero {a b : List Char} (zero : startsWithZero a = true)
    (nonzero : startsWithZero b = false) (nonempty : b ≠ []) (digits : ∀ c ∈ b, isDigit c = true) :
    compareChars a b = .lt ∧ compareChars b a = .gt := by
  cases a with
  | nil => cases zero
  | cons first rest =>
      cases b with
      | nil => exact absurd rfl nonempty
      | cons other others =>
          rw [startsWithZero, List.head?_cons, decide_eq_true_eq, Option.some.injEq] at zero
          rw [startsWithZero, List.head?_cons, decide_eq_false_iff_not,
            Option.some.injEq] at nonzero
          subst zero
          have isDigits := isDigit_iff.mp (digits other List.mem_cons_self)
          have differs : other.toNat ≠ 48 := fun same => nonzero (Char.toNat_inj.mp same)
          have above : '0'.toNat < other.toNat := Nat.lt_of_le_of_ne isDigits.1 differs.symm
          rw [compareChars, compareChars, Nat.compare_eq_lt.mpr above, Nat.compare_eq_gt.mpr above]
          exact ⟨rfl, rfl⟩

theorem compareRuns_eq_compareRanks {a b : List Char} (properA : (Piece.digits a).IsProper)
    (properB : (Piece.digits b).IsProper) :
    compareRuns a b = compareRanks (.digits a) (.digits b) := by
  simp only [compareRuns, compareRanks, Piece.rank]
  cases zeroA : startsWithZero a with
  | true =>
      cases zeroB : startsWithZero b with
      | true => rfl
      | false => exact (compareChars_of_startsWithZero zeroA zeroB properB.1 properB.2).1
  | false =>
      cases zeroB : startsWithZero b with
      | true => exact (compareChars_of_startsWithZero zeroB zeroA properA.1 properA.2).2
      | false => rfl

/-- Proper pieces are ordered by their ranks. -/
theorem comparePieces_eq_compareRanks {a b : Piece} (properA : a.IsProper) (properB : b.IsProper) :
    comparePieces a b = compareRanks a b := by
  cases a with
  | char c =>
      cases b with
      | char d => exact Ordering.then_eq.symm
      | digits run =>
          rcases compare_digits_char properB properA with ⟨same, differs⟩
          have turned : compare c.toNat (Piece.digits run).firstChar.toNat =
              compare c.toNat (Piece.digits run).rank.1 :=
            OrientedCmp.eq_swap.trans ((congrArg Ordering.swap same).trans OrientedCmp.eq_swap.symm)
          exact turned.trans
            (then_of_ne_eq fun equal => differs (OrientedCmp.eq_symm equal)).symm
  | digits run =>
      cases b with
      | char c =>
          rcases compare_digits_char properA properB with ⟨same, differs⟩
          exact same.trans (then_of_ne_eq differs).symm
      | digits other => exact compareRuns_eq_compareRanks properA properB

theorem closeRun_isProper {run : List Char} {later : List Piece}
    (digits : ∀ c ∈ run, isDigit c = true) (proper : ∀ piece ∈ later, piece.IsProper) :
    ∀ piece ∈ closeRun run later, piece.IsProper := by
  rw [closeRun]
  split
  · exact proper
  · rename_i nonempty
    intro piece member
    rcases List.mem_cons.mp member with rfl | inLater
    · refine ⟨fun empty => nonempty ?_, fun c inRun => digits c (List.mem_reverse.mp inRun)⟩
      rw [List.reverse_eq_nil_iff.mp empty, List.isEmpty_nil]
    · exact proper piece inLater

/-- Every digit of a text goes into a run. -/
theorem piecesFrom_isProper {text run : List Char} (digits : ∀ c ∈ run, isDigit c = true) :
    ∀ piece ∈ piecesFrom run text, piece.IsProper := by
  induction text generalizing run with
  | nil => exact closeRun_isProper digits (List.forall_mem_nil _)
  | cons c rest inductionHypothesis =>
      have later := inductionHypothesis (List.forall_mem_nil _)
      rw [piecesFrom]
      split
      · rename_i isDigit
        exact inductionHypothesis (List.forall_mem_cons.mpr ⟨isDigit, digits⟩)
      split
      · exact closeRun_isProper digits later
      · rename_i other _
        exact closeRun_isProper digits
          (List.forall_mem_cons.mpr ⟨Bool.eq_false_iff.mpr other, later⟩)

theorem compareLists_eq_compareLex {a b : List Piece} (properA : ∀ piece ∈ a, piece.IsProper)
    (properB : ∀ piece ∈ b, piece.IsProper) :
    compareLists a b = List.compareLex compareRanks a b := by
  induction a generalizing b with
  | nil => cases b <;> rfl
  | cons first rest inductionHypothesis =>
      cases b with
      | nil => rfl
      | cons other others =>
          rcases List.forall_mem_cons.mp properA with ⟨properFirst, properRest⟩
          rcases List.forall_mem_cons.mp properB with ⟨properOther, properOthers⟩
          rw [compareLists, List.compareLex_cons_cons, inductionHypothesis properRest properOthers,
            comparePieces_eq_compareRanks properFirst properOther]

end Natural

theorem compareNaturally_eq_compareLex (a b : String) :
    compareNaturally a b =
      List.compareLex Natural.compareRanks (Natural.pieces a) (Natural.pieces b) :=
  Natural.compareLists_eq_compareLex (Natural.piecesFrom_isProper (List.forall_mem_nil _))
    (Natural.piecesFrom_isProper (List.forall_mem_nil _))

/-- The natural order of titles is total and transitive. -/
instance : TransCmp compareNaturally := by
  have lexicographic := transCmp_on (List.compareLex Natural.compareRanks) Natural.pieces
  have same : compareNaturally = fun a b =>
      List.compareLex Natural.compareRanks (Natural.pieces a) (Natural.pieces b) :=
    funext fun a => funext fun b => compareNaturally_eq_compareLex a b
  rw [same]
  exact lexicographic

end Text
end Gallery
