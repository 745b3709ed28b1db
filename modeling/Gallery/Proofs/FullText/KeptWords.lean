import Gallery.Proofs.Text.Alphanumeric
import Gallery.Sql.Dialect

namespace Gallery

/-!
# Words that both indexes search for

The two databases take a title word apart in ways of their own.  One trims it and
quotes the rest; the other makes it small, drops blanks and operators, and splits it
at apostrophes.  What either drops is neither a letter nor a number, and a word is
searched for if one of these is left.  So both keep the same words, and a title
condition is written for one database exactly if it is written for the other.
-/

namespace Text

section Dropped

variable {dropped kept : Char → Bool}

theorem any_dropWhile (apart : ∀ c, dropped c = true → kept c = false) (text : List Char) :
    (text.dropWhile dropped).any kept = text.any kept := by
  induction text with
  | nil => rfl
  | cons c text inductionHypothesis =>
      rw [List.dropWhile_cons]
      split
      · rename_i isDropped
        rw [inductionHypothesis, List.any_cons, apart c isDropped, Bool.false_or]
      · rfl

theorem any_filter_not (apart : ∀ c, dropped c = true → kept c = false) (text : List Char) :
    (text.filter fun c => !dropped c).any kept = text.any kept := by
  rw [List.any_filter]
  refine congrArg text.any (funext fun c => ?_)
  cases isDropped : dropped c with
  | false => rfl
  | true => rw [apart c isDropped, Bool.and_false]

/-- Splitting loses only the separators. -/
theorem any_split (apart : ∀ c, dropped c = true → kept c = false) (text : List Char) :
    ((split dropped text).any fun part => part.any kept) = text.any kept := by
  induction text with
  | nil => rfl
  | cons c text inductionHypothesis =>
      rw [split]
      split
      · rename_i separates
        rw [List.any_cons, inductionHypothesis, List.any_cons, apart c separates]
        rfl
      · rw [List.any_cons, ← inductionHypothesis]
        cases split dropped text with
        | nil => simp
        | cons part parts => simp [Bool.or_assoc]

end Dropped

theorem any_isAlphanumeric_trim (text : List Char) :
    (trim text).any isAlphanumeric = text.any isAlphanumeric := by
  have apart : ∀ c, isBlank c = true → isAlphanumeric c = false := fun _ =>
    isAlphanumeric_of_isBlank
  rw [trim, trimEnd, List.any_reverse, any_dropWhile apart, List.any_reverse, trimStart,
    any_dropWhile apart]

end Text

namespace FullText

namespace Lexemes

theorem isAlphanumeric_of_operator {c : Char} (operator : c ∈ operators) :
    Text.isAlphanumeric c = false := by
  have none : operators.any Text.isAlphanumeric = false := by decide +kernel
  exact Bool.eq_false_of_not_eq_true (List.any_eq_false.mp none c operator)

theorem isAlphanumeric_of_isApostrophe (c : Char) (apostrophe : isApostrophe c = true) :
    Text.isAlphanumeric c = false := by
  simp only [isApostrophe, Bool.or_eq_true, decide_eq_true_eq] at apostrophe
  rcases apostrophe with rfl | rfl <;> decide +kernel

/-- Operators and blanks are dropped together. -/
theorem any_isAlphanumeric_cleaned (text : List Char) :
    (text.filter fun c => !operators.contains c && !Text.isBlank c).any Text.isAlphanumeric =
      text.any Text.isAlphanumeric := by
  have apart : ∀ c, (operators.contains c || Text.isBlank c) = true →
      Text.isAlphanumeric c = false := by
    intro c isDropped
    rcases Bool.or_eq_true_iff.mp isDropped with operator | blank
    · exact isAlphanumeric_of_operator (List.contains_iff_mem.mp operator)
    · exact Text.isAlphanumeric_of_isBlank blank
  rw [← Text.any_filter_not apart text]
  simp only [Bool.not_or]

/-- A word has lexemes exactly if it has a letter or a number. -/
theorem isEmpty_ofWord (word : List Char) :
    (ofWord word).isEmpty = !word.any Text.isAlphanumeric := by
  rw [← Text.any_isAlphanumeric_lower, ← any_isAlphanumeric_cleaned,
    ← Text.any_split isAlphanumeric_of_isApostrophe, Bool.eq_iff_iff, List.isEmpty_iff, ofWord,
    List.filter_eq_nil_iff, Bool.not_eq_true', List.any_eq_false]

theorem isSome_term? (word : List Char) : (term? word).isSome = word.any Text.isAlphanumeric := by
  rw [term?, isEmpty_ofWord]
  cases word.any Text.isAlphanumeric <;> rfl

end Lexemes

theorem Match.isSome_term? (word : List Char) :
    (Match.term? word).isSome = word.any Text.isAlphanumeric := by
  rw [Match.term?, Text.any_isAlphanumeric_trim]
  cases word.any Text.isAlphanumeric <;> rfl

/-! ## All words -/

theorem isEmpty_filterMap_congr {α β γ : Type} {first : α → Option β} {second : α → Option γ}
    (same : ∀ item, (first item).isSome = (second item).isSome) (items : List α) :
    (items.filterMap first).isEmpty = (items.filterMap second).isEmpty := by
  rw [Bool.eq_iff_iff, List.isEmpty_iff, List.isEmpty_iff, List.filterMap_eq_nil_iff,
    List.filterMap_eq_nil_iff]
  simp only [← Option.not_isSome_iff_eq_none, same]

/-- Both databases keep the words of the same roles. -/
theorem isEmpty_ofWords_congr {α β : Type} {first : List Char → Option α}
    {second : List Char → Option β} (same : ∀ word, (first word).isSome = (second word).isSome)
    (words : Query.TitleWords) :
    (Clauses.ofWords first words).isEmpty = (Clauses.ofWords second words).isEmpty := by
  have each : ∀ items : List String, (items.filterMap fun word => first word.toList).isEmpty =
      (items.filterMap fun word => second word.toList).isEmpty :=
    isEmpty_filterMap_congr fun word => same word.toList
  simp only [Clauses.isEmpty, Clauses.ofWords, each]

theorem Lexemes.isSome_query? (words : Query.TitleWords) :
    (Lexemes.query? words).isSome = !(Clauses.ofWords Lexemes.term? words).isEmpty := by
  have texts : (Lexemes.clauseTexts (Clauses.ofWords Lexemes.term? words)).isEmpty =
      (Clauses.ofWords Lexemes.term? words).isEmpty := by
    rw [Lexemes.clauseTexts, Clauses.isEmpty]
    cases (Clauses.ofWords Lexemes.term? words).required.isEmpty <;>
      cases (Clauses.ofWords Lexemes.term? words).optional.isEmpty <;>
      cases (Clauses.ofWords Lexemes.term? words).excluded.isEmpty <;> rfl
  rw [Lexemes.query?, texts]
  cases (Clauses.ofWords Lexemes.term? words).isEmpty <;> rfl

theorem Match.isSome_ofWords? (words : Query.TitleWords) :
    (Match.ofWords? words).isSome = !(Clauses.ofWords Match.term? words).isEmpty := by
  rw [Match.ofWords?, Match.ofClauses?, Clauses.isEmpty]
  cases (Clauses.ofWords Match.term? words).required.isEmpty <;>
    cases (Clauses.ofWords Match.term? words).optional.isEmpty <;>
    cases (Clauses.ofWords Match.term? words).excluded.isEmpty <;> rfl

theorem isSome_term?_eq (word : List Char) :
    (Lexemes.term? word).isSome = (Match.term? word).isSome := by
  rw [Lexemes.isSome_term?, Match.isSome_term?]

theorem isSome_query?_eq (words : Query.TitleWords) :
    (Lexemes.query? words).isSome = (Match.ofWords? words).isSome := by
  rw [Lexemes.isSome_query?, Match.isSome_ofWords?, isEmpty_ofWords_congr isSome_term?_eq]

/-! ## The words that survive

The terms on either side come one for one from the words that survive there, and
the words that survive are the same.
-/

namespace Clauses

variable {α : Type} {term? : List Char → Option α}

/-- The words of which a term is made, in their roles and in order. -/
def survivors (term? : List Char → Option α) (words : Query.TitleWords) : Query.TitleWords where
  required := words.required.filter fun word => (term? word.toList).isSome
  optional := words.optional.filter fun word => (term? word.toList).isSome
  excluded := words.excluded.filter fun word => (term? word.toList).isSome

/-- In each role, the terms are those of the words, one for each and in order. -/
structure AreTermsOf (term? : List Char → Option α) (clauses : Clauses α)
    (words : Query.TitleWords) : Prop where
  required : List.Forall₂ (fun word term => term? word.toList = some term)
    words.required clauses.required
  optional : List.Forall₂ (fun word term => term? word.toList = some term)
    words.optional clauses.optional
  excluded : List.Forall₂ (fun word term => term? word.toList = some term)
    words.excluded clauses.excluded

theorem forall₂_filterMap (words : List String) :
    List.Forall₂ (fun word term => term? word.toList = some term)
      (words.filter fun word => (term? word.toList).isSome)
      (words.filterMap fun word => term? word.toList) := by
  induction words with
  | nil => exact List.Forall₂.nil
  | cons word words inductionHypothesis =>
      rw [List.filter_cons, List.filterMap_cons]
      cases made : term? word.toList with
      | none => exact inductionHypothesis
      | some term => exact List.Forall₂.cons made inductionHypothesis

theorem areTermsOf_survivors (words : Query.TitleWords) :
    (ofWords term? words).AreTermsOf term? (survivors term? words) where
  required := forall₂_filterMap words.required
  optional := forall₂_filterMap words.optional
  excluded := forall₂_filterMap words.excluded

theorem filterMap_filter_isSome (words : List String) :
    ((words.filter fun word => (term? word.toList).isSome).filterMap fun word =>
      term? word.toList) = words.filterMap fun word => term? word.toList := by
  rw [List.filterMap_filter]
  refine congrArg (List.filterMap · words) (funext fun word => ?_)
  cases term? word.toList <;> rfl

/-- Nothing is made of the other words. -/
theorem ofWords_survivors (words : Query.TitleWords) :
    ofWords term? (survivors term? words) = ofWords term? words := by
  simp only [ofWords, survivors, filterMap_filter_isSome]

end Clauses

/-- Both databases make terms of the same words.  So the same words survive in every
role of a search, each with its term on both sides; the query on either side is the
one for these words alone, and there is none on one side exactly if there is none on
the other. -/
theorem same_words_survive :
    (∀ word : String, (Lexemes.term? word.toList).isSome = true ↔
      (Match.term? word.toList).isSome = true) ∧
    ∀ words : Query.TitleWords, ∃ survivors : Query.TitleWords,
      survivors = Clauses.survivors Lexemes.term? words ∧
      survivors = Clauses.survivors Match.term? words ∧
      (Clauses.ofWords Lexemes.term? words).AreTermsOf Lexemes.term? survivors ∧
      (Clauses.ofWords Match.term? words).AreTermsOf Match.term? survivors ∧
      Lexemes.query? words = Lexemes.query? survivors ∧
      Match.ofWords? words = Match.ofWords? survivors ∧
      (Lexemes.query? words = none ↔ Match.ofWords? words = none) := by
  refine ⟨fun word => by rw [isSome_term?_eq], fun words => ?_⟩
  have same : Clauses.survivors Lexemes.term? words = Clauses.survivors Match.term? words := by
    simp only [Clauses.survivors, isSome_term?_eq]
  refine ⟨Clauses.survivors Match.term? words, same.symm, rfl, ?_,
    Clauses.areTermsOf_survivors words, ?_, ?_, ?_⟩
  · rw [← same]
    exact Clauses.areTermsOf_survivors words
  · rw [← same, Lexemes.query?, Lexemes.query?, Clauses.ofWords_survivors]
  · rw [Match.ofWords?, Match.ofWords?, Clauses.ofWords_survivors]
  · rw [← Option.isNone_iff_eq_none, ← Option.isNone_iff_eq_none, ← Option.not_isSome,
      ← Option.not_isSome, isSome_query?_eq]

end FullText

namespace Sql

/-- Title words make a condition in every dialect or in none. -/
theorem Dialect.isSome_fullText? (dialect : Dialect) (words : Query.TitleWords) :
    (dialect.fullText? words).isSome = (FullText.Match.ofWords? words).isSome := by
  cases dialect with
  | postgres => rw [fullText?, Option.isSome_map, FullText.isSome_query?_eq]
  | sqlite => rw [fullText?, Option.isSome_map]

end Sql
end Gallery
