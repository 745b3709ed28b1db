import Gallery.Proofs.Text.Utf8
import Gallery.Text.Blank
import Gallery.Text.Letter
import Gallery.Text.Lowercase
import Mathlib.Data.List.Sort
import Mathlib.Data.List.TakeWhile

namespace Gallery
namespace Text

/-!
# Letters and numbers in lowercase

A word is worth searching for when it has a letter or a number, and one of the two
databases makes the word small before it looks for them.  Nothing depends on that,
because a capital is a letter and so is its small letter.  Both are read off the table
of capitals, range by range, along the edges of the letters.
-/

namespace CodeSet

/-! ## Ranges inside a set -/

theorem exists_edge_le_of_covers {edges : List Nat} {code : Nat}
    (covered : covers edges code = true) : ∃ edge ∈ edges, edge ≤ code := by
  fun_induction covers edges code with
  | case1 => cases covered
  | case2 start code => exact ⟨start, List.mem_singleton_self start, of_decide_eq_true covered⟩
  | case3 => cases covered
  | case4 start stop rest code notBefore | case5 start stop rest code notBefore =>
      exact ⟨start, List.mem_cons_self, Nat.not_lt.mp notBefore⟩

/-- What is covered further on is covered. -/
theorem covers_of_rest {start stop code : Nat} {rest : List Nat}
    (increasing : (start :: stop :: rest).Pairwise (· < ·)) (covered : covers rest code = true) :
    covers (start :: stop :: rest) code = true := by
  rcases exists_edge_le_of_covers covered with ⟨edge, member, below⟩
  have later := List.pairwise_cons.mp increasing
  have first : start < edge := later.1 edge (List.mem_cons_of_mem _ member)
  have second : stop < edge := (List.pairwise_cons.mp later.2).1 edge member
  rw [covers, if_neg (by omega), if_neg (by omega), covered]

/-- Whether ranges lie inside a set, found in one walk along its edges.  The ranges have to be
sorted for that: each interval takes those that come next. -/
def holdsRanges : List Nat → List (Nat × Nat) → Bool
  | start :: stop :: rest, ranges =>
      holdsRanges rest (ranges.dropWhile fun range => start ≤ range.1 && range.2 < stop)
  | _, ranges => ranges.isEmpty

theorem covers_of_holdsRanges {edges : List Nat} {ranges : List (Nat × Nat)}
    (increasing : edges.Pairwise (· < ·)) (held : holdsRanges edges ranges = true)
    {range : Nat × Nat} (member : range ∈ ranges) {code : Nat} (above : range.1 ≤ code)
    (below : code ≤ range.2) : covers edges code = true := by
  fun_induction holdsRanges edges ranges with
  | case1 start stop rest ranges inductionHypothesis =>
      rw [← List.takeWhile_append_dropWhile (l := ranges)
        (p := fun range => start ≤ range.1 && range.2 < stop)] at member
      rcases List.mem_append.mp member with taken | left
      · have inside := List.mem_takeWhile_imp taken
        simp only [Bool.and_eq_true, decide_eq_true_eq] at inside
        rw [covers, if_neg (by omega), if_pos (by omega)]
      · have later := (List.pairwise_cons.mp (List.pairwise_cons.mp increasing).2).2
        exact covers_of_rest increasing (inductionHypothesis later held left)
  | case2 _ ranges =>
      rw [List.isEmpty_iff.mp held] at member
      cases member

/-- What a set covers lies in one of its intervals. -/
theorem exists_interval_of_covers {edges : List Nat} {code : Nat} (valid : code ≤ 0x10FFFF)
    (covered : covers edges code = true) :
    ∃ range ∈ intervals edges, range.1 ≤ code ∧ code ≤ range.2 := by
  fun_induction covers edges code with
  | case1 => cases covered
  | case2 start code =>
      exact ⟨(start, 0x10FFFF), List.mem_singleton_self _, of_decide_eq_true covered, valid⟩
  | case3 => cases covered
  | case4 start stop rest code notBefore before =>
      exact ⟨(start, stop - 1), List.mem_cons_self, Nat.not_lt.mp notBefore, by omega⟩
  | case5 start stop rest code _ _ inductionHypothesis =>
      rcases inductionHypothesis valid covered with ⟨range, member, inside⟩
      exact ⟨range, List.mem_cons_of_mem _ member, inside⟩

theorem exists_interval_of_contains {set : CodeSet} {c : Char} (member : set.contains c = true) :
    ∃ range ∈ intervals set.edges, range.1 ≤ c.toNat ∧ c.toNat ≤ range.2 := by
  refine exists_interval_of_covers ?_ member
  rcases c.valid with low | ⟨_, high⟩
  · exact Nat.le_trans (Nat.le_of_lt low) (by decide)
  · exact Nat.le_of_lt_succ high

/-- Sets whose intervals are apart have nothing in common. -/
theorem contains_eq_false_of_apart {first second : CodeSet}
    (apart : ∀ a ∈ intervals first.edges, ∀ b ∈ intervals second.edges, a.2 < b.1 ∨ b.2 < a.1)
    {c : Char} (member : first.contains c = true) : second.contains c = false := by
  rcases exists_interval_of_contains member with ⟨a, inFirst, aboveFirst, belowFirst⟩
  by_contra shared
  rcases exists_interval_of_contains (Bool.eq_true_of_not_eq_false shared) with
    ⟨b, inSecond, aboveSecond, belowSecond⟩
  rcases apart a inFirst b inSecond with before | after <;> omega

end CodeSet

/-! ## Characters that are no letters -/

/-- Blanks are neither letters nor numbers. -/
theorem isAlphanumeric_of_isBlank {c : Char} (blank : isBlank c = true) :
    isAlphanumeric c = false := by
  have letters : ∀ a ∈ CodeSet.intervals blanks.edges,
      ∀ b ∈ CodeSet.intervals Letter.alphabetic.edges, a.2 < b.1 ∨ b.2 < a.1 := by
    decide +kernel
  have numbers : ∀ a ∈ CodeSet.intervals blanks.edges,
      ∀ b ∈ CodeSet.intervals Letter.number.edges, a.2 < b.1 ∨ b.2 < a.1 := by
    decide +kernel
  rw [isAlphanumeric, CodeSet.contains_eq_false_of_apart letters blank,
    CodeSet.contains_eq_false_of_apart numbers blank]
  rfl

/-- Blanks do not stand inside words. -/
theorem isWordChar_of_isBlank {c : Char} (blank : isBlank c = true) : isWordChar c = false := by
  have apart : ∀ set ∈ [Letter.alphabetic, Letter.mark, Letter.decimalDigit, Letter.connector,
      Letter.joinControl], ∀ a ∈ CodeSet.intervals blanks.edges,
        ∀ b ∈ CodeSet.intervals set.edges, a.2 < b.1 ∨ b.2 < a.1 := by
    decide +kernel
  have outside : ∀ set ∈ [Letter.alphabetic, Letter.mark, Letter.decimalDigit, Letter.connector,
      Letter.joinControl], set.contains c = false :=
    fun set member => CodeSet.contains_eq_false_of_apart (apart set member) blank
  simp only [List.forall_mem_cons] at outside
  simp only [isWordChar, outside, Bool.or_false]

/-! ## Capitals and small letters -/

namespace Lowercase

/-- The capitals of a run: a range of them, or one by one where they alternate with others. -/
def Run.capitals (run : Run) : List (Nat × Nat) :=
  if run.step = 1 then [(run.first, run.last)]
  else
    (List.range ((run.last - run.first) / run.step + 1)).map fun index =>
      (run.first + run.step * index, run.first + run.step * index)

/-- The small letters of a run. -/
def Run.smalls (run : Run) : List (Nat × Nat) :=
  run.capitals.map fun range => ((range.1 + run.shift).toNat, (range.2 + run.shift).toNat)

theorem Run.exists_capitals_of_holds {run : Run} {code : Nat} (holds : run.holds code = true) :
    ∃ range ∈ run.capitals, range.1 ≤ code ∧ code ≤ range.2 := by
  simp only [Run.holds, Bool.and_eq_true, decide_eq_true_eq, beq_iff_eq] at holds
  rcases holds with ⟨⟨above, below⟩, onStep⟩
  rw [Run.capitals]
  split
  · exact ⟨_, List.mem_singleton_self _, above, below⟩
  · have index : run.first + run.step * ((code - run.first) / run.step) = code := by
      rw [Nat.mul_div_cancel' (Nat.dvd_of_mod_eq_zero onStep)]
      omega
    have small : (code - run.first) / run.step < (run.last - run.first) / run.step + 1 :=
      Nat.lt_succ_of_le (Nat.div_le_div_right (by omega))
    exact ⟨(code, code), List.mem_map.mpr ⟨_, List.mem_range.mpr small, by rw [index]⟩,
      Nat.le_refl code, Nat.le_refl code⟩

theorem Run.exists_smalls_of_holds {run : Run} {code : Nat} (holds : run.holds code = true) :
    ∃ range ∈ run.smalls,
      range.1 ≤ (code + run.shift).toNat ∧ (code + run.shift).toNat ≤ range.2 := by
  rcases Run.exists_capitals_of_holds holds with ⟨range, member, above, below⟩
  refine ⟨_, List.mem_map.mpr ⟨range, member, rfl⟩, ?_, ?_⟩
  · exact Int.toNat_le_toNat (by omega)
  · exact Int.toNat_le_toNat (by omega)

/-- The capitals of all runs in increasing order, and the small letters. -/
def capitals : List (Nat × Nat) :=
  (runs.flatMap Run.capitals).insertionSort fun a b => a.1 ≤ b.1

def smalls : List (Nat × Nat) :=
  (runs.flatMap Run.smalls).insertionSort fun a b => a.1 ≤ b.1

/-- The codes of characters: all but the surrogates. -/
def scalars : CodeSet where
  edges := [0, 0xD800, 0xE000, 0x110000]

theorem increasing_alphabetic : Letter.alphabetic.edges.Pairwise (· < ·) :=
  List.isChain_iff_pairwise.mp (by decide +kernel)

theorem covers_capital {run : Run} (member : run ∈ runs) {code : Nat}
    (holds : run.holds code = true) : CodeSet.covers Letter.alphabetic.edges code = true := by
  rcases Run.exists_capitals_of_holds holds with ⟨range, inRun, above, below⟩
  have held : CodeSet.holdsRanges Letter.alphabetic.edges capitals = true := by decide +kernel
  have listed : range ∈ capitals :=
    (List.perm_insertionSort _ _).mem_iff.mpr (List.mem_flatMap.mpr ⟨run, member, inRun⟩)
  exact CodeSet.covers_of_holdsRanges increasing_alphabetic held listed above below

theorem covers_small {run : Run} (member : run ∈ runs) {code : Nat}
    (holds : run.holds code = true) :
    CodeSet.covers Letter.alphabetic.edges (code + run.shift).toNat = true ∧
      CodeSet.covers scalars.edges (code + run.shift).toNat = true := by
  rcases Run.exists_smalls_of_holds holds with ⟨range, inRun, above, below⟩
  have listed : range ∈ smalls :=
    (List.perm_insertionSort _ _).mem_iff.mpr (List.mem_flatMap.mpr ⟨run, member, inRun⟩)
  constructor
  · have held : CodeSet.holdsRanges Letter.alphabetic.edges smalls = true := by decide +kernel
    exact CodeSet.covers_of_holdsRanges increasing_alphabetic held listed above below
  · have increasing : scalars.edges.Pairwise (· < ·) := by decide
    have held : CodeSet.holdsRanges scalars.edges smalls = true := by decide +kernel
    exact CodeSet.covers_of_holdsRanges increasing held listed above below

theorem isValidChar_of_covers {code : Nat} (covered : CodeSet.covers scalars.edges code = true) :
    code.isValidChar := by
  simp only [scalars, CodeSet.covers] at covered
  rw [Nat.isValidChar]
  split at covered
  · cases covered
  · split at covered
    · omega
    · split at covered
      · cases covered
      · split at covered
        · omega
        · cases covered

/-- A character and its lowercase form are both letters or numbers, or neither is. -/
theorem isAlphanumeric_small (c : Char) :
    isAlphanumeric (Char.ofNat (small c.toNat)) = isAlphanumeric c := by
  rw [small]
  cases found : runs.find? fun run => run.holds c.toNat with
  | none => rw [Char.ofNat_toNat]
  | some run =>
      have member := List.mem_of_find?_eq_some found
      have holds : run.holds c.toNat = true := (List.find?_some found :)
      have capital := covers_capital member holds
      rcases covers_small member holds with ⟨letter, valid⟩
      have same : (Char.ofNat (c.toNat + run.shift).toNat).toNat = (c.toNat + run.shift).toNat :=
        toNat_ofNat_of_isValidChar (isValidChar_of_covers valid)
      simp only [isAlphanumeric, CodeSet.contains, same, letter, capital, Bool.true_or]

theorem any_isAlphanumeric_inContext (before text : List Char) :
    (inContext before text).any isAlphanumeric = text.any isAlphanumeric := by
  fun_induction inContext before text with
  | case1 => rfl
  | case2 before after inductionHypothesis =>
      have capital : isAlphanumeric 'Σ' = true := by decide +kernel
      have letter : isAlphanumeric 'σ' = true := by decide +kernel
      have final : isAlphanumeric 'ς' = true := by decide +kernel
      rw [List.any_cons, List.any_cons, capital]
      split
      · rw [final, Bool.true_or, Bool.true_or]
      · rw [letter, Bool.true_or, Bool.true_or]
  | case3 before after inductionHypothesis =>
      have capital : isAlphanumeric 'İ' = true := by decide +kernel
      have letter : isAlphanumeric 'i' = true := by decide +kernel
      rw [List.any_cons, letter, Bool.true_or, List.any_cons, capital, Bool.true_or]
  | case4 before c after _ _ inductionHypothesis =>
      rw [List.any_cons, List.any_cons, isAlphanumeric_small, inductionHypothesis]

end Lowercase

/-- Lowercasing neither makes nor takes away letters and numbers. -/
theorem any_isAlphanumeric_lower (text : List Char) :
    (lower text).any isAlphanumeric = text.any isAlphanumeric :=
  Lowercase.any_isAlphanumeric_inContext [] text

/-- A character stays as it is in lowercase unless it is a capital letter of ASCII. -/
theorem toLower_eq (c : Char) :
    c.toLower = c ∨ c.toNat ≤ 90 ∧ c.toLower.toNat = c.toNat + 32 := by
  delta Char.toLower
  split
  · rename_i upper
    have bound : c.val.toNat ≤ 90 := UInt32.le_iff_toNat_le.mp upper.2
    refine Or.inr ⟨bound, ?_⟩
    change (c.val + 32).toNat = c.val.toNat + 32
    rw [UInt32.toNat_add]
    exact Nat.mod_eq_of_lt (show c.val.toNat + 32 < 2 ^ 32 by omega)
  · exact Or.inl rfl

/-- In ASCII a small letter is the lowercase form of itself and of its capital only. -/
theorem eq_or_eq_of_toLower_eq {c small : Char} (capital : Char)
    (apart : capital.toNat + 32 = small.toNat) (lowered : c.toLower = small) :
    c = small ∨ c = capital := by
  rcases toLower_eq c with same | ⟨_, shifted⟩
  · exact Or.inl (same.symm.trans lowered)
  · rw [lowered, ← apart] at shifted
    exact Or.inr (Char.toNat_inj.mp (Nat.add_right_cancel shifted.symm))

/-- Beyond ASCII a character is the lowercase form of itself only. -/
theorem eq_of_toLower_eq {c large : Char} (beyond : 0x80 ≤ large.toNat)
    (lowered : c.toLower = large.toLower) : c = large := by
  have own : large.toLower = large := (toLower_eq large).resolve_right fun small =>
    absurd small.1 (by omega)
  rw [own] at lowered
  rcases toLower_eq c with same | ⟨bound, shifted⟩
  · exact same.symm.trans lowered
  · rw [lowered] at shifted
    omega

end Text
end Gallery
