import Gallery.Proofs.FullText.Meaning
import Gallery.Query

namespace Gallery
namespace Query

/-!
# The characters of title words

A query is taken apart into words without anything being added but blanks in
place of tokens, and words have no blanks.  What is searched for in titles
therefore has only characters of the query, and a query without null characters
has no word with one.
-/

theorem mem_residue_scanFrom {α : Type} {recognise : List Char → Option (α × Nat)} {passed : Nat}
    {inWord : Bool} {line : List Char} {c : Char}
    (member : c ∈ residue (scanFrom recognise passed inWord line)) : c ∈ line ∨ c = ' ' := by
  induction line generalizing passed inWord with
  | nil => cases passed <;> cases member
  | cons d line inductionHypothesis =>
      cases passed with
      | succ passed =>
          exact (inductionHypothesis member).imp_left (List.mem_cons_of_mem _)
      | zero =>
          rw [scanFrom] at member
          split at member
          · rcases List.mem_cons.mp member with isBlank | later
            · exact Or.inr isBlank
            · exact (inductionHypothesis later).imp_left (List.mem_cons_of_mem _)
          · rcases List.mem_cons.mp member with isFirst | later
            · exact Or.inl (isFirst ▸ List.mem_cons_self)
            · exact (inductionHypothesis later).imp_left (List.mem_cons_of_mem _)

theorem mem_of_mem_wordsFrom {read text word : List Char} {c : Char}
    (inWords : word ∈ Text.wordsFrom read text) (member : c ∈ word) : c ∈ read ∨ c ∈ text := by
  induction text generalizing read with
  | nil =>
      rw [Text.wordsFrom] at inWords
      split at inWords
      · cases inWords
      · rw [List.mem_singleton.mp inWords] at member
        exact Or.inl (List.mem_reverse.mp member)
  | cons d text inductionHypothesis =>
      rw [Text.wordsFrom] at inWords
      have later : ∀ {next}, word ∈ Text.wordsFrom next text → c ∈ next ∨ c ∈ d :: text :=
        fun found => (inductionHypothesis found).imp_right (List.mem_cons_of_mem _)
      split at inWords
      · split at inWords
        · exact Or.inr ((later inWords).resolve_left List.not_mem_nil)
        · rcases List.mem_cons.mp inWords with isRead | found
          · rw [isRead] at member
            exact Or.inl (List.mem_reverse.mp member)
          · exact Or.inr ((later found).resolve_left List.not_mem_nil)
      · rcases later inWords with inNext | inText
        · rcases List.mem_cons.mp inNext with isFirst | inRead
          · exact Or.inr (isFirst ▸ List.mem_cons_self)
          · exact Or.inl inRead
        · exact Or.inr inText

theorem mem_of_mem_trim {text : List Char} {c : Char} (member : c ∈ Text.trim text) : c ∈ text := by
  rw [Text.trim, Text.trimEnd, List.mem_reverse] at member
  have inStart := List.mem_reverse.mp ((List.dropWhile_sublist _).subset member)
  exact (List.dropWhile_sublist _).subset inStart

/-- A word of free text without the sign in front of it. -/
private theorem mem_of_signed? {sign c : Char} {word : List Char} {text : String}
    (read : TitleWords.signed? sign word = some text) (member : c ∈ text.toList) : c ∈ word := by
  cases word with
  | nil => cases read
  | cons d word =>
      rw [TitleWords.signed?] at read
      split at read
      · cases read
        rw [String.toList_ofList] at member
        exact List.mem_cons_of_mem _ member
      · cases read

private theorem mem_of_unsigned? {c : Char} {word : List Char} {text : String}
    (read : TitleWords.unsigned? word = some text) (member : c ∈ text.toList) : c ∈ word := by
  cases word with
  | nil => cases read
  | cons d word =>
      rw [TitleWords.unsigned?] at read
      split at read
      · cases read
      · cases read
        rwa [String.toList_ofList] at member

/-- What is searched for of the words of a text has only characters of the text. -/
theorem subset_of_mem_kept {text word : List Char}
    (member : word ∈ FullText.Match.keptWords (TitleWords.ofText text)) : word ⊆ text := by
  -- Whichever role a word has, its characters are characters of the text.
  have fromText : ∀ {role : List Char → Option String},
      (∀ {word text c}, role word = some text → c ∈ text.toList → c ∈ word) →
      word ∈ (((Text.words text).map fun word =>
        word.filter (· ≠ '$')).filterMap role).filterMap (fun word => FullText.Match.kept? word.toList) →
      word ⊆ text := by
    intro role reads inKept c inWord
    rcases List.mem_filterMap.mp inKept with ⟨spelled, inRole, keeps⟩
    rcases List.mem_filterMap.mp inRole with ⟨filtered, inFiltered, read⟩
    rcases List.mem_map.mp inFiltered with ⟨whole, inWords, rfl⟩
    rw [FullText.Match.kept?, Option.ite_none_right_eq_some] at keeps
    cases keeps.2
    have inWhole := (List.mem_filter.mp (reads read (mem_of_mem_trim inWord))).1
    exact (mem_of_mem_wordsFrom inWords inWhole).resolve_left List.not_mem_nil
  rcases List.mem_append.mp member with wanted | excluded
  · rcases List.mem_append.mp wanted with required | optional
    · exact fromText mem_of_unsigned? required
    · exact fromText mem_of_signed? optional
  · exact fromText mem_of_signed? excluded

/-- A query without null characters searches for no word with one. -/
theorem keptNullFree_ofChars {line : List Char} (free : FullText.NullFree line) :
    FullText.Match.KeptNullFree (ofChars line).title := by
  intro word member null
  rcases mem_residue_scanFrom (subset_of_mem_kept member null) with inTags | isBlank
  · rcases mem_residue_scanFrom inTags with inLine | isBlank
    · exact free inLine
    · exact absurd isBlank (by decide)
  · exact absurd isBlank (by decide)

end Query
end Gallery
