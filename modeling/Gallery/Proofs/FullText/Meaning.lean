import Gallery.Proofs.FullText.Reading

namespace Gallery
namespace FullText

/-!
# What a match means

Title words become an expression only to be read back by the index, so a match
means what its tree says of the phrases.  Put together, the two directions say:
an expression that is wanted holds when the required words hold, one of the
optional ones if there are any, and none of the excluded ones; an expression
that is left out holds when one of the excluded words does.

The text handed to the index ends at a null character.  A word with one in it
would lose its closing quote and the whole expression could not be read, so the
theorems speak of words without null characters.
-/

/-! ## Texts without null characters -/

/-- Whether a text has no null character. -/
def NullFree (text : List Char) : Prop := '\x00' ∉ text

instance (text : List Char) : Decidable (NullFree text) :=
  inferInstanceAs (Decidable ('\x00' ∉ text))

theorem NullFree.append {first second : List Char} (left : NullFree first)
    (right : NullFree second) : NullFree (first ++ second) := by
  intro member
  rcases List.mem_append.mp member with inFirst | inSecond
  · exact left inFirst
  · exact right inSecond

theorem NullFree.parenthesize {text : List Char} (inner : NullFree text) :
    NullFree (FullText.parenthesize text) := by
  have opening : NullFree ['('] := by decide
  have closing : NullFree [')'] := by decide
  exact opening.append (inner.append closing)

theorem NullFree.quote {word : List Char} (free : NullFree word) :
    NullFree (Match.quote word) := by
  have mark : NullFree ['"'] := by decide
  refine mark.append (NullFree.append ?_ mark)
  intro member
  rcases List.mem_flatMap.mp member with ⟨c, inWord, written⟩
  by_cases isQuote : c = '"'
  · rw [if_pos isQuote] at written
    exact absurd written (by decide)
  · rw [if_neg isQuote, List.mem_singleton] at written
    exact free (written ▸ inWord)

theorem NullFree.join {separator : String} {parts : List (List Char)}
    (between : NullFree separator.toList) (free : ∀ part ∈ parts, NullFree part) :
    NullFree (FullText.join separator parts) := by
  induction parts with
  | nil => exact List.not_mem_nil
  | cons first others inductionHypothesis =>
      have head : NullFree first := free first List.mem_cons_self
      have tail := inductionHypothesis fun part member => free part (List.mem_cons_of_mem _ member)
      cases others with
      | nil => simpa only [FullText.join, List.intercalate_singleton] using head
      | cons second others =>
          rw [Expression.join_cons_cons]
          exact head.append (between.append tail)

namespace Match

/-! ## The words that are searched for -/

/-- What is searched for of a word, if anything: the word without blanks around
it, unless it has no letter and no number. -/
def kept? (word : List Char) : Option (List Char) :=
  if (Text.trim word).any Text.isAlphanumeric then some (Text.trim word) else none

/-- The words that are searched for, by their roles. -/
def kept (words : Query.TitleWords) : Clauses (List Char) :=
  Clauses.ofWords kept? words

/-- Whether no word is wanted, so that there are at most words to leave out. -/
def wantsNone (words : Query.TitleWords) : Bool :=
  (kept words).required.isEmpty && (kept words).optional.isEmpty

/-- The words that are searched for, whatever their roles are. -/
def keptWords (words : Query.TitleWords) : List (List Char) :=
  (kept words).required ++ (kept words).optional ++ (kept words).excluded

theorem term?_eq_map_kept? (word : List Char) : term? word = (kept? word).map quote := by
  by_cases worth : (Text.trim word).any Text.isAlphanumeric = true
  · simp only [term?, kept?, if_pos worth, Option.map_some]
  · simp only [term?, kept?, if_neg worth, Option.map_none]

theorem filterMap_term? (words : List String) :
    (words.filterMap fun word => term? word.toList) =
      (words.filterMap fun word => kept? word.toList).map quote := by
  rw [List.map_filterMap]
  exact congrArg (List.filterMap · words) (funext fun word => term?_eq_map_kept? word.toList)

/-- The terms of title words are the kept words in quotes. -/
theorem ofWords_term? (words : Query.TitleWords) :
    Clauses.ofWords term? words = {
      required := (kept words).required.map quote
      optional := (kept words).optional.map quote
      excluded := (kept words).excluded.map quote } := by
  simp only [Clauses.ofWords, filterMap_term?]
  rfl

/-- Whether no word that is searched for has a null character. -/
def KeptNullFree (words : Query.TitleWords) : Prop :=
  ∀ word ∈ (kept words).required ++ (kept words).optional ++ (kept words).excluded, NullFree word

instance (words : Query.TitleWords) : Decidable (KeptNullFree words) :=
  inferInstanceAs (Decidable (∀ word ∈ (kept words).required ++ (kept words).optional ++
    (kept words).excluded, NullFree word))

/-! ## The wanted part -/

/-- The parts of the wanted text: the required words and one group. -/
def wantedParts (required optional : List (List Char)) : List (List Char) :=
  required.map quote ++
    if optional.isEmpty then [] else [parenthesize (join " OR " (optional.map quote))]

/-- The operands that the wanted parts spell. -/
def wantedOperands (required optional : List (List Char)) : List Expression :=
  required.map .phrase ++
    match optional with
    | [] => []
    | first :: others => [Expression.alternatives first others]

theorem forall₂_spells_wanted (required optional : List (List Char)) :
    List.Forall₂ Expression.Spells (wantedParts required optional)
      (wantedOperands required optional) := by
  refine List.rel_append (Expression.forall₂_spells_quote required) ?_
  cases optional with
  | nil => exact List.Forall₂.nil
  | cons first others =>
      exact List.Forall₂.cons (Expression.spells_alternatives first others) List.Forall₂.nil

theorem all_wantedOperands (truth : List Char → Bool) (required optional : List (List Char)) :
    (wantedOperands required optional).all (·.holds truth) =
      (required.all truth && (optional.isEmpty || optional.any truth)) := by
  have phrases : (required.map Expression.phrase).all (·.holds truth) = required.all truth := by
    rw [List.all_map]
    rfl
  cases optional with
  | nil => rw [wantedOperands, List.all_append, phrases, List.all_nil, List.isEmpty_nil,
      Bool.true_or]
  | cons first others =>
      rw [wantedOperands, List.all_append, phrases, List.all_cons, List.all_nil,
        Expression.holds_alternatives, Bool.and_true, List.isEmpty_cons, Bool.false_or]

theorem wantedText_quoted (required optional : List (List Char)) (excluded : List (List Char)) :
    wantedText ⟨required.map quote, optional.map quote, excluded⟩ =
      join " AND " (wantedParts required optional) := by
  simp only [wantedText, wantedParts, List.isEmpty_map]

theorem phrases_wantedOperands (required optional : List (List Char)) :
    (wantedOperands required optional).flatMap Expression.phrases = required ++ optional := by
  cases optional with
  | nil => rw [wantedOperands, List.append_nil, List.append_nil, Expression.flatMap_phrases_map]
  | cons first others =>
      rw [wantedOperands, List.flatMap_append, Expression.flatMap_phrases_map,
        List.flatMap_singleton, Expression.phrases_alternatives]

/-- The wanted text is read up to its last operand, with everything before that
waiting on its left. -/
theorem exists_tokens_of_wanted {required optional : List (List Char)}
    (some_wanted : (required.isEmpty && optional.isEmpty) = false) :
    ∃ tokens, Expression.Scans (join " AND " (wantedParts required optional)) tokens ∧
      ∀ rest, ∃ last product,
        Expression.Reader.run (.before {} []) (tokens ++ rest) =
          Expression.Reader.run (.after last { product := product } []) rest ∧
        (Expression.joinLeft .and product last).phrases = required ++ optional ∧
        ∀ truth, (Expression.joinLeft .and product last).holds truth =
          (required.all truth && (optional.isEmpty || optional.any truth)) := by
  have spelled := forall₂_spells_wanted required optional
  have meaning := fun truth => all_wantedOperands truth required optional
  have ordered := phrases_wantedOperands required optional
  generalize wantedParts required optional = parts at spelled ⊢
  generalize operandsAre : wantedOperands required optional = operands at spelled meaning ordered
  cases spelled with
  | nil =>
      have noOperand := List.append_eq_nil_iff.mp operandsAre
      cases required with
      | cons _ _ => cases noOperand.1
      | nil =>
          cases optional with
          | cons _ _ => cases noOperand.2
          | nil => cases some_wanted
  | cons first others =>
      rcases Expression.exists_tokens_of_conjunction first others with ⟨tokens, scanned, read⟩
      refine ⟨tokens, scanned, fun rest => ?_⟩
      rcases read none [] rest with ⟨last, product, reached, value⟩
      refine ⟨last, product, reached, ?_, fun truth => ?_⟩
      · rw [value, Expression.joinLeft, Expression.phrases_foldl fun _ _ => rfl, ordered]
      · rw [value, Expression.joinLeft, Expression.holds_foldl_and, meaning]

/-! ## Whole matches -/

/-- Which match title words become.  It depends only on which roles are left. -/
theorem ofWords?_eq (words : Query.TitleWords) :
    ofWords? words =
      if (kept words).required.isEmpty && (kept words).optional.isEmpty then
        if (kept words).excluded.isEmpty then none
        else some (.excluding (String.ofList
          (parenthesize (join " OR " ((kept words).excluded.map quote)))))
      else if (kept words).excluded.isEmpty then
        some (.matching (String.ofList
          (join " AND " (wantedParts (kept words).required (kept words).optional))))
      else
        some (.matching (String.ofList
          (join " AND " (wantedParts (kept words).required (kept words).optional) ++
            " NOT ".toList ++
            parenthesize (join " OR " ((kept words).excluded.map quote))))) := by
  rw [ofWords?, ofWords_term?, ofClauses?, wantedText_quoted, excludedText]
  simp only [List.isEmpty_map]

theorem ofWords?_eq_none_iff (words : Query.TitleWords) :
    ofWords? words = none ↔ (kept words).isEmpty = true := by
  rw [ofWords?_eq, Clauses.isEmpty]
  cases (kept words).required.isEmpty && (kept words).optional.isEmpty <;>
    cases (kept words).excluded.isEmpty <;> simp

/-- Rows are wanted only if some word is. -/
theorem wanted_of_matching {words : Query.TitleWords} {expression : String}
    (compiled : ofWords? words = some (.matching expression)) : wantsNone words = false := by
  rw [ofWords?_eq] at compiled
  split at compiled
  · split at compiled <;> cases compiled
  · rename_i wanted
    exact Bool.eq_false_iff.mpr wanted

/-- Rows are left out only if no word is wanted. -/
theorem unwanted_of_excluding {words : Query.TitleWords} {expression : String}
    (compiled : ofWords? words = some (.excluding expression)) : wantsNone words = true := by
  rw [ofWords?_eq] at compiled
  split at compiled
  · rename_i unwanted
    exact unwanted
  · split at compiled <;> cases compiled

private theorem nullFree_quoted {words : List (List Char)} (free : ∀ word ∈ words, NullFree word) :
    ∀ part ∈ words.map quote, NullFree part := by
  intro part member
  rcases List.mem_map.mp member with ⟨word, inWords, same⟩
  exact same ▸ (free word inWords).quote

theorem nullFree_group {words : List (List Char)} (free : ∀ word ∈ words, NullFree word) :
    NullFree (parenthesize (join " OR " (words.map quote))) :=
  (NullFree.join (by decide) (nullFree_quoted free)).parenthesize

theorem nullFree_wanted {required optional : List (List Char)}
    (freeRequired : ∀ word ∈ required, NullFree word)
    (freeOptional : ∀ word ∈ optional, NullFree word) :
    NullFree (join " AND " (wantedParts required optional)) := by
  apply NullFree.join (by decide)
  intro part member
  rcases List.mem_append.mp member with inRequired | inGroup
  · exact nullFree_quoted freeRequired part inRequired
  · split at inGroup
    · cases inGroup
    · rw [List.mem_singleton] at inGroup
      exact inGroup ▸ nullFree_group freeOptional

/-- The parts of the hypothesis on null characters, role by role. -/
theorem KeptNullFree.roles {words : Query.TitleWords} (free : KeptNullFree words) :
    (∀ word ∈ (kept words).required, NullFree word) ∧
      (∀ word ∈ (kept words).optional, NullFree word) ∧
      ∀ word ∈ (kept words).excluded, NullFree word := by
  refine ⟨fun word member => free word ?_, fun word member => free word ?_,
    fun word member => free word ?_⟩
  · exact List.mem_append_left _ (List.mem_append_left _ member)
  · exact List.mem_append_left _ (List.mem_append_right _ member)
  · exact List.mem_append_right _ member

/-- What a match asks of a row when its expression has the given truth.  An expression
that leaves rows out stands for its negation. -/
def asks : Match → Bool → Bool
  | matching _, answer => answer
  | excluding _, answer => !answer

/-- The expression of a match is written without mistakes.  Its tree has the kept words
for its phrases, in their order, and the match asks what they say. -/
theorem exists_tree {words : Query.TitleWords} {condition : Match}
    (compiled : ofWords? words = some condition) :
    ∃ tokens tree, Expression.scan condition.expression.toList = some tokens ∧
      Expression.ofTokens? tokens = some tree ∧
      tree.phrases = (kept words).required ++ (kept words).optional ++ (kept words).excluded ∧
      ∀ truth, condition.asks (tree.holds truth) = (kept words).holds truth := by
  simp only [Clauses.holds]
  rw [ofWords?_eq] at compiled
  generalize (kept words).required = required at compiled ⊢
  generalize (kept words).optional = optional at compiled ⊢
  generalize (kept words).excluded = excluded at compiled ⊢
  split at compiled
  · rename_i unwanted
    rw [Bool.and_eq_true, List.isEmpty_iff, List.isEmpty_iff] at unwanted
    rw [unwanted.1, unwanted.2]
    cases excluded with
    | nil => cases compiled
    | cons first others =>
        rcases Expression.spells_alternatives first others with ⟨tokens, scanned, taken⟩
        cases compiled
        refine ⟨tokens, Expression.alternatives first others, Expression.scan_ofList scanned,
          Expression.ofTokens?_of_takes taken, Expression.phrases_alternatives first others,
          fun truth => ?_⟩
        rw [asks, Expression.holds_alternatives]
        rfl
  · rename_i some_wanted
    rcases exists_tokens_of_wanted (Bool.eq_false_iff.mpr some_wanted) with ⟨tokens, scanned, read⟩
    cases excluded with
    | nil =>
        cases compiled
        rcases read [] with ⟨last, product, reached, ordered, meaning⟩
        refine ⟨tokens, Expression.joinLeft .and product last, Expression.scan_ofList scanned, ?_, ?_,
          fun truth => ?_⟩
        · rw [List.append_nil] at reached
          rw [Expression.ofTokens?, reached]
          rfl
        · rw [ordered, List.append_nil]
        · rw [asks, meaning, List.any_nil, Bool.not_false, Bool.and_true]
    | cons first others =>
        cases compiled
        rcases Expression.spells_alternatives first others with ⟨group, scannedGroup, takenGroup⟩
        rcases read (.not :: group) with ⟨last, product, reached, ordered, meaning⟩
        refine ⟨tokens ++ .not :: group, Expression.joinLeft .and product
          (.not last (Expression.alternatives first others)), ?_, ?_, ?_, fun truth => ?_⟩
        · rw [expression, List.append_assoc]
          exact Expression.scan_ofList (scanned.connect Expression.connects_not scannedGroup)
        · have complete := takenGroup { product := product, difference := some last } [] []
          rw [List.append_nil] at complete
          have entered : Expression.Reader.run (.after last { product := product } [])
              (.not :: group) =
              Expression.Reader.run
                (.before { product := product, difference := some last } []) group := rfl
          rw [Expression.ofTokens?, reached, entered, complete]
          rfl
        · rw [Expression.phrases_joinLeft_and_not, ordered, Expression.phrases_alternatives]
        · rw [asks, Expression.holds_joinLeft_and_not, meaning, Expression.holds_alternatives]

theorem nullFree_expression {words : Query.TitleWords} {condition : Match}
    (free : KeptNullFree words) (compiled : ofWords? words = some condition) :
    NullFree condition.expression.toList := by
  rcases free.roles with ⟨freeRequired, freeOptional, freeExcluded⟩
  have freeWanted := nullFree_wanted freeRequired freeOptional
  have freeUnwanted := nullFree_group freeExcluded
  rw [ofWords?_eq] at compiled
  split at compiled <;> split at compiled <;> cases compiled <;>
    rw [expression, String.toList_ofList]
  · exact freeUnwanted
  · exact freeWanted
  · exact (freeWanted.append (by decide)).append freeUnwanted

/-- Words without null characters are read by the index as they are meant. -/
theorem exists_read {words : Query.TitleWords} {condition : Match} (free : KeptNullFree words)
    (compiled : ofWords? words = some condition) :
    ∃ tree, Expression.read? condition.expression = some tree ∧
      ∀ truth, condition.asks (tree.holds truth) = (kept words).holds truth := by
  rcases exists_tree compiled with ⟨tokens, tree, scanned, taken, _, meaning⟩
  exact ⟨tree, Expression.read?_of_scan (nullFree_expression free compiled) scanned taken, meaning⟩

end Match

end FullText
end Gallery
