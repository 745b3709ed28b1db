import Gallery.Proofs.FullText.Meaning

namespace Gallery
namespace FullText

/-!
# Words that no expression survives

The text handed to the index ends at its first null character.  A word with such
a character in it therefore loses its closing quote, and what follows the word is
lost with it, so the scanner ends inside a literal.  No other word of the search
can repair this.  Together with the theorems on words without null characters it
says that a match can be read exactly if all words that are searched for are free
of them.
-/

namespace Expression

open Scanner

/-- A text that the scanner gives up on because a null character ends it early. -/
def Breaks (text : List Char) : Prop :=
  ∀ read rest, run read .between ((text ++ rest).takeWhile (· ≠ '\x00')) = none

/-- A text that is either broken or read as a whole. -/
def BreaksOrScans (text : List Char) : Prop :=
  Breaks text ∨ NullFree text ∧ ∃ tokens, Scans text tokens

theorem takeWhile_of_nullFree {text : List Char} (free : NullFree text) (rest : List Char) :
    (text ++ rest).takeWhile (· ≠ '\x00') = text ++ rest.takeWhile (· ≠ '\x00') := by
  apply List.takeWhile_append_of_pos
  intro c member
  exact decide_eq_true fun isNull => free (isNull ▸ member)

theorem Breaks.append {text : List Char} (broken : Breaks text) (more : List Char) :
    Breaks (text ++ more) := by
  intro read rest
  rw [List.append_assoc]
  exact broken read (more ++ rest)

/-- A broken text after a connective breaks the whole. -/
theorem Scans.breaks {first connective second : List Char} {before : List Token} {token : Token}
    (left : Scans first before) (freeLeft : NullFree first) (between : Connects connective token)
    (freeBetween : NullFree connective) (right : Breaks second) :
    Breaks (first ++ (connective ++ second)) := by
  intro read rest
  have apart : EndsOperand (connective ++ (second ++ rest).takeWhile (· ≠ '\x00')) := by
    cases connective with
    | nil => cases between.blank
    | cons c tail => exact Or.inl (Option.some.inj between.blank)
  rw [List.append_assoc, takeWhile_of_nullFree freeLeft, List.append_assoc,
    takeWhile_of_nullFree freeBetween, left read _ apart, between.scanned]
  exact right _ rest

theorem Breaks.parenthesize {text : List Char} (broken : Breaks text) :
    Breaks (FullText.parenthesize text) := by
  intro read rest
  have opened : run read .between ((FullText.parenthesize text ++ rest).takeWhile (· ≠ '\x00')) =
      run (.opening :: read) .between ((text ++ (')' :: rest)).takeWhile (· ≠ '\x00')) := by
    have opening : NullFree ['('] := by decide
    have cut := takeWhile_of_nullFree opening (text ++ (')' :: rest))
    rw [FullText.parenthesize, List.cons_append, List.append_assoc]
    exact congrArg (run read .between) cut
  rw [opened]
  exact broken _ _

/-- A literal that is cut off before its closing quote. -/
private theorem run_cut {word : List Char} (cut : '\x00' ∈ word) (tokens : List Token)
    (read rest : List Char) :
    run tokens (.literal read)
      ((word.flatMap (fun c => if c = '"' then ['"', '"'] else [c]) ++ rest).takeWhile
        (· ≠ '\x00')) = none := by
  induction word generalizing read with
  | nil => cases cut
  | cons c word inductionHypothesis =>
      rw [List.flatMap_cons, List.append_assoc]
      by_cases isNull : c = '\x00'
      · subst isNull
        rfl
      · have later : '\x00' ∈ word := (List.mem_cons.mp cut).resolve_left (Ne.symm isNull)
        by_cases isQuote : c = '"'
        · subst isQuote
          have pair : NullFree ['"', '"'] := by decide
          rw [if_pos rfl, takeWhile_of_nullFree pair]
          exact inductionHypothesis later ('"' :: read)
        · have single : NullFree [c] := by
            rw [NullFree, List.mem_singleton]
            exact Ne.symm isNull
          rw [if_neg isQuote, takeWhile_of_nullFree single, List.cons_append, List.nil_append, run,
            step, if_neg isQuote]
          exact inductionHypothesis later (c :: read)

theorem breaks_quote {word : List Char} (cut : ¬ NullFree word) : Breaks (Match.quote word) := by
  intro read rest
  have mark : NullFree ['"'] := by decide
  have opened := takeWhile_of_nullFree mark
    (word.flatMap (fun c => if c = '"' then ['"', '"'] else [c]) ++ (['"'] ++ rest))
  rw [Match.quote, List.cons_append, List.append_assoc]
  refine (congrArg (run read .between) opened).trans ?_
  exact run_cut (not_not.mp cut) read [] _

theorem breaksOrScans_quote (word : List Char) : BreaksOrScans (Match.quote word) := by
  by_cases free : NullFree word
  · exact Or.inr ⟨free.quote, _, scans_quote word⟩
  · exact Or.inl (breaks_quote free)

/-- A broken part breaks the chain it stands in. -/
theorem breaks_join {separator : String} {token : Token}
    (between : Connects separator.toList token) (freeBetween : NullFree separator.toList)
    {parts : List (List Char)} (each : ∀ part ∈ parts, BreaksOrScans part)
    (some_broken : ∃ part ∈ parts, Breaks part) : Breaks (join separator parts) := by
  induction parts with
  | nil =>
      rcases some_broken with ⟨part, member, _⟩
      cases member
  | cons first others inductionHypothesis =>
      have tail : (∃ part ∈ others, Breaks part) → Breaks (join separator others) :=
        inductionHypothesis fun part member => each part (List.mem_cons_of_mem _ member)
      rcases each first List.mem_cons_self with broken | ⟨free, tokens, scanned⟩
      · cases others with
        | nil => simpa only [join, List.intercalate_singleton] using broken
        | cons second others =>
            rw [join_cons_cons]
            exact broken.append _
      · rcases some_broken with ⟨part, member, broken⟩
        cases others with
        | nil =>
            rw [List.mem_singleton.mp member] at broken
            simpa only [join, List.intercalate_singleton] using broken
        | cons second others =>
            rw [join_cons_cons]
            rcases List.mem_cons.mp member with isFirst | inOthers
            · exact (isFirst ▸ broken).append _
            · exact scanned.breaks free between freeBetween (tail ⟨part, inOthers, broken⟩)

theorem read?_of_breaks {text : List Char} (broken : Breaks text) :
    read? (String.ofList text) = none := by
  have cut := broken [] []
  rw [List.append_nil] at cut
  rw [read?, String.toList_ofList, scan, cut, Option.bind_none]

end Expression

namespace Match

open Expression (Breaks BreaksOrScans)

private theorem breaks_group {words : List (List Char)} (cut : ¬ ∀ word ∈ words, NullFree word) :
    Breaks (parenthesize (join " OR " (words.map quote))) := by
  simp only [not_forall] at cut
  rcases cut with ⟨word, member, broken⟩
  refine Breaks.parenthesize (Expression.breaks_join Expression.connects_or (by decide) ?_
    ⟨quote word, List.mem_map_of_mem member, Expression.breaks_quote broken⟩)
  intro part inParts
  rcases List.mem_map.mp inParts with ⟨other, _, rfl⟩
  exact Expression.breaksOrScans_quote other

private theorem breaksOrScans_group (first : List Char) (others : List (List Char)) :
    BreaksOrScans (parenthesize (join " OR " ((first :: others).map quote))) := by
  by_cases free : ∀ word ∈ first :: others, NullFree word
  · rcases Expression.spells_alternatives first others with ⟨tokens, scanned, _⟩
    exact Or.inr ⟨nullFree_group free, tokens, scanned⟩
  · exact Or.inl (breaks_group free)

private theorem breaks_wanted {required optional : List (List Char)}
    (cut : ¬ ∀ word ∈ required ++ optional, NullFree word) :
    Breaks (join " AND " (wantedParts required optional)) := by
  refine Expression.breaks_join Expression.connects_and (by decide) (fun part member => ?_) ?_
  · rcases List.mem_append.mp member with inRequired | inGroup
    · rcases List.mem_map.mp inRequired with ⟨word, _, rfl⟩
      exact Expression.breaksOrScans_quote word
    · cases optional with
      | nil => cases inGroup
      | cons first others =>
          rw [List.mem_singleton.mp inGroup]
          exact breaksOrScans_group first others
  · by_cases free : ∀ word ∈ required, NullFree word
    · have cutOptional : ¬ ∀ word ∈ optional, NullFree word := fun freeOptional =>
        cut (List.forall_mem_append.mpr ⟨free, freeOptional⟩)
      cases optional with
      | nil => exact absurd (List.forall_mem_nil _) cutOptional
      | cons first others =>
          exact ⟨_, List.mem_append_right _ List.mem_cons_self, breaks_group cutOptional⟩
    · simp only [not_forall] at free
      rcases free with ⟨word, member, broken⟩
      exact ⟨quote word, List.mem_append_left _ (List.mem_map_of_mem member),
        Expression.breaks_quote broken⟩

/-- A match for a word with a null character cannot be read. -/
theorem read?_eq_none {words : Query.TitleWords} {condition : Match}
    (cut : ¬ KeptNullFree words) (compiled : ofWords? words = some condition) :
    Expression.read? condition.expression = none := by
  have split : (¬ ∀ word ∈ (kept words).required ++ (kept words).optional, NullFree word) ∨
      ¬ ∀ word ∈ (kept words).excluded, NullFree word := by
    rw [← not_and_or, ← List.forall_mem_append]
    exact cut
  rw [ofWords?_eq] at compiled
  by_cases unwanted : ((kept words).required.isEmpty && (kept words).optional.isEmpty) = true
  · have none_wanted := unwanted
    rw [Bool.and_eq_true, List.isEmpty_iff, List.isEmpty_iff] at none_wanted
    have cutExcluded : ¬ ∀ word ∈ (kept words).excluded, NullFree word := by
      rw [none_wanted.1, none_wanted.2] at split
      exact split.resolve_left fun no => no (List.forall_mem_nil _)
    rw [if_pos unwanted] at compiled
    split at compiled
    · cases compiled
    · cases compiled
      exact Expression.read?_of_breaks (breaks_group cutExcluded)
  · rw [if_neg unwanted] at compiled
    by_cases freeWanted :
        ∀ word ∈ (kept words).required ++ (kept words).optional, NullFree word
    · have cutExcluded := split.resolve_left fun no => no freeWanted
      rcases List.forall_mem_append.mp freeWanted with ⟨freeRequired, freeOptional⟩
      rcases exists_tokens_of_wanted (Bool.eq_false_iff.mpr unwanted) with ⟨tokens, scanned, _⟩
      split at compiled
      · rename_i none_excluded
        rw [List.isEmpty_iff.mp none_excluded] at cutExcluded
        exact absurd (List.forall_mem_nil _) cutExcluded
      · cases compiled
        rw [expression, List.append_assoc]
        exact Expression.read?_of_breaks (scanned.breaks (nullFree_wanted freeRequired freeOptional)
          Expression.connects_not (by decide) (breaks_group cutExcluded))
    · have broken := breaks_wanted freeWanted
      split at compiled
      · cases compiled
        exact Expression.read?_of_breaks broken
      · cases compiled
        rw [expression, List.append_assoc]
        exact Expression.read?_of_breaks (broken.append _)

end Match

end FullText
end Gallery
