import Gallery.Proofs.Query.TitleCharacters
import Gallery.Proofs.Query.WordBoundaries

namespace Gallery
namespace Query

/-!
# Free text is free of tokens

What a scan leaves of a line holds no token of its kind.  A blank in place of a token
cannot complete another one, because tokens are decided before the next blank, and it
cannot cut a word in two either, because a token ends where a word does.  For the same
reasons no token appears when text is taken apart into words and the words are put
together again with blanks between them, in whatever order.

So the words of a title can be written down as a query of their own, each with the sign
of its role, and this query is read as these words and nothing else.
-/

/-! ## Texts without tokens -/

section TokenFree

variable {α β : Type} {recognise : List Char → Option (α × Nat)}
  {other : List Char → Option (β × Nat)}

/-- A text in which no token begins, not even inside a word. -/
def TokenFree (recognise : List Char → Option (α × Nat)) (text : List Char) : Prop :=
  ∀ rest, rest <:+ text → recognise rest = none

theorem tokenFree_cons_iff {c : Char} {text : List Char} :
    TokenFree recognise (c :: text) ↔ recognise (c :: text) = none ∧ TokenFree recognise text := by
  constructor
  · intro free
    exact ⟨free _ (List.suffix_refl _), fun rest suffix =>
      free rest (List.suffix_cons_iff.mpr (Or.inr suffix))⟩
  · rintro ⟨first, later⟩ rest suffix
    rcases List.suffix_cons_iff.mp suffix with rfl | suffix
    · exact first
    · exact later rest suffix

theorem Wordwise.tokenFree_nil (wordwise : Wordwise recognise) : TokenFree recognise [] := by
  intro rest suffix
  rw [List.suffix_nil.mp suffix]
  exact wordwise.nothing

/-- A text without tokens is left as it is. -/
theorem scanFrom_of_tokenFree {text : List Char} (free : TokenFree recognise text)
    (inWord : Bool) : scanFrom recognise 0 inWord text = text.map .char := by
  induction text generalizing inWord with
  | nil => rfl
  | cons c text inductionHypothesis =>
      rcases tokenFree_cons_iff.mp free with ⟨first, later⟩
      rw [scanFrom, first, ite_self, List.map_cons, inductionHypothesis later]

theorem tokens_scan_of_tokenFree {text : List Char} (free : TokenFree recognise text) :
    tokens (scan recognise text) = [] := by
  rw [scan, scanFrom_of_tokenFree free, tokens, List.filterMap_map]
  exact List.filterMap_eq_nil_iff.mpr fun _ _ => rfl

theorem residue_scan_of_tokenFree {text : List Char} (free : TokenFree recognise text) :
    residue (scan recognise text) = text := by
  rw [scan, scanFrom_of_tokenFree free, residue, List.map_map]
  exact List.map_id'' (fun _ => rfl) text

/-! ## What scans leave -/

/-- Up to the first blank, what is left of a line is the line itself, and no word of it goes on into
what follows. -/
theorem exists_rest_of_residue (recognise : List Char → Option (α × Nat)) (inWord : Bool)
    (line : List Char) :
    ∃ rest, line = untilBlank (residue (scanFrom recognise 0 inWord line)) ++ rest ∧
      (endsInWord inWord (untilBlank (residue (scanFrom recognise 0 inWord line))) = true →
        NumberToken.atBoundary rest = true) := by
  induction line generalizing inWord with
  | nil => exact ⟨[], rfl, fun _ => rfl⟩
  | cons c line inductionHypothesis =>
      rw [scanFrom]
      cases found : if inWord && Text.isWordChar c then none else recognise (c :: line) with
      | some token =>
          -- A token is only looked for where no word goes on.
          refine ⟨c :: line, rfl, fun goesOn => ?_⟩
          cases isWord : Text.isWordChar c with
          | false => rw [NumberToken.atBoundary, isWord]; rfl
          | true =>
              have within : inWord = true := goesOn
              rw [within, isWord] at found
              cases found
      | none =>
          change ∃ rest, c :: line = untilBlank (c :: residue _) ++ rest ∧
            (endsInWord inWord (untilBlank (c :: residue _)) = true → _)
          cases blank : Text.isBlank c with
          | true =>
              rw [untilBlank_cons_of_blank blank]
              refine ⟨c :: line, rfl, fun _ => ?_⟩
              rw [NumberToken.atBoundary, Text.isWordChar_of_isBlank blank]
              rfl
          | false =>
              rw [untilBlank_cons blank]
              rcases inductionHypothesis (Text.isWordChar c) with ⟨rest, same, boundary⟩
              exact ⟨rest, congrArg (c :: ·) same, boundary⟩

/-- Where no token begins in a line, none begins in what a scan leaves of it. -/
theorem Wordwise.residue_eq_none (wordwise : Wordwise other)
    (recognise : List Char → Option (α × Nat)) {line : List Char} (nothing : other line = none)
    (inWord : Bool) : other (residue (scanFrom recognise 0 inWord line)) = none := by
  by_contra found
  rcases exists_rest_of_residue recognise inWord line with ⟨rest, same, boundary⟩
  have started := wordwise.beforeBlank found
  generalize untilBlank (residue (scanFrom recognise 0 inWord line)) = start at *
  cases start with
  | nil => exact started wordwise.nothing
  | cons c start =>
      have longer : other ((c :: start) ++ rest) ≠ none := wordwise.continued boundary started
      exact longer (same ▸ nothing)

/-- What a scan leaves of a text without tokens of another kind has none either. -/
theorem Wordwise.tokenFree_residue (wordwise : Wordwise other) {line : List Char}
    (free : TokenFree other line) (passed : Nat) (inWord : Bool) :
    TokenFree other (residue (scanFrom recognise passed inWord line)) := by
  induction line generalizing passed inWord with
  | nil => cases passed <;> exact wordwise.tokenFree_nil
  | cons c line inductionHypothesis =>
      rcases tokenFree_cons_iff.mp free with ⟨first, later⟩
      cases passed with
      | succ passed => exact inductionHypothesis later passed false
      | zero =>
          have whole := wordwise.residue_eq_none recognise first inWord
          rw [scanFrom] at whole ⊢
          split at whole
          · exact tokenFree_cons_iff.mpr ⟨whole, inductionHypothesis later _ _⟩
          · exact tokenFree_cons_iff.mpr ⟨whole, inductionHypothesis later _ _⟩

/-- What a scan leaves has no token of its own kind.  Inside a word the scan does not look for
one, so it matters there that none began before. -/
theorem Wordwise.tokenFree_residue_own (wordwise : Wordwise recognise) {line : List Char}
    {passed : Nat} {inWord : Bool}
    (goesOn : ∀ {c rest}, passed = 0 → inWord = true → Text.isWordChar c = true →
      line = c :: rest → recognise line = none) :
    TokenFree recognise (residue (scanFrom recognise passed inWord line)) := by
  induction line generalizing passed inWord with
  | nil => cases passed <;> exact wordwise.tokenFree_nil
  | cons c line inductionHypothesis =>
      cases passed with
      | succ passed =>
          exact inductionHypothesis fun _ impossible => absurd impossible Bool.false_ne_true
      | zero =>
          cases found : if inWord && Text.isWordChar c then none else recognise (c :: line) with
          | some token =>
              rw [scanFrom, found]
              have blank : Text.isBlank ' ' = true := by decide
              refine tokenFree_cons_iff.mpr ⟨wordwise.blank blank _, ?_⟩
              exact inductionHypothesis fun _ impossible => absurd impossible Bool.false_ne_true
          | none =>
              have nothing : recognise (c :: line) = none := by
                split at found
                · rename_i midWord
                  rcases Bool.and_eq_true_iff.mp midWord with ⟨within, isWord⟩
                  exact goesOn rfl within isWord rfl
                · exact found
              have whole := wordwise.residue_eq_none recognise nothing inWord
              rw [scanFrom, found] at whole ⊢
              refine tokenFree_cons_iff.mpr ⟨whole, inductionHypothesis ?_⟩
              rintro d rest - afterWord isWord rfl
              by_contra begins
              exact wordwise.wholeWord afterWord isWord begins nothing

end TokenFree

/-! ## Taking text apart into words -/

/-- A run of characters of a text that are not blank, which ends at a boundary. -/
def IsWordOf (word text : List Char) : Prop :=
  word ≠ [] ∧ (∀ c ∈ word, Text.isBlank c = false) ∧
    ∃ before rest, text = before ++ (word ++ rest) ∧ NumberToken.atBoundary rest = true

theorem IsWordOf.behind {word text : List Char} (isWord : IsWordOf word text)
    (before : List Char) : IsWordOf word (before ++ text) := by
  rcases isWord with ⟨nonempty, nonblank, start, rest, rfl, boundary⟩
  exact ⟨nonempty, nonblank, before ++ start, rest, (List.append_assoc _ _ _).symm, boundary⟩

/-- The words that are read when some characters of the first one have been read already. -/
theorem isWordOf_of_mem_wordsFrom {read text word : List Char}
    (nonblank : ∀ c ∈ read, Text.isBlank c = false) (member : word ∈ Text.wordsFrom read text) :
    IsWordOf word (read.reverse ++ text) := by
  induction text generalizing read with
  | nil =>
      rw [Text.wordsFrom] at member
      split at member
      · cases member
      · rename_i nonempty
        rw [List.mem_singleton.mp member]
        refine ⟨?_, fun c inRead => nonblank c (List.mem_reverse.mp inRead), [], [], rfl, rfl⟩
        exact fun empty => nonempty (List.isEmpty_iff.mpr (List.reverse_eq_nil_iff.mp empty))
  | cons c text inductionHypothesis =>
      have later : word ∈ Text.wordsFrom [] text → IsWordOf word (read.reverse ++ c :: text) := by
        intro inText
        have found := (inductionHypothesis (List.forall_mem_nil _) inText).behind
          (read.reverse ++ [c])
        rwa [List.append_assoc] at found
      rw [Text.wordsFrom] at member
      split at member
      · rename_i blank
        have boundary : NumberToken.atBoundary (c :: text) = true := by
          rw [NumberToken.atBoundary, Text.isWordChar_of_isBlank blank]
          rfl
        split at member
        · exact later member
        · rename_i nonempty
          rcases List.mem_cons.mp member with rfl | inText
          · refine ⟨?_, fun d inRead => nonblank d (List.mem_reverse.mp inRead), [], c :: text, rfl,
              boundary⟩
            exact fun empty => nonempty (List.isEmpty_iff.mpr (List.reverse_eq_nil_iff.mp empty))
          · exact later inText
      · rename_i notBlank
        have nonblankToo : ∀ d ∈ c :: read, Text.isBlank d = false :=
          List.forall_mem_cons.mpr ⟨Bool.eq_false_of_not_eq_true notBlank, nonblank⟩
        have goesOn := inductionHypothesis nonblankToo member
        rwa [List.reverse_cons, List.append_assoc] at goesOn

theorem isWordOf_of_mem_words {text word : List Char} (member : word ∈ Text.words text) :
    IsWordOf word text :=
  isWordOf_of_mem_wordsFrom (List.forall_mem_nil _) member

/-- The words of a text without tokens have none. -/
theorem Wordwise.tokenFree_of_isWordOf {α : Type} {recognise : List Char → Option (α × Nat)}
    (wordwise : Wordwise recognise) {word text : List Char} (free : TokenFree recognise text)
    (isWord : IsWordOf word text) : TokenFree recognise word := by
  rcases isWord with ⟨_, _, before, rest, rfl, boundary⟩
  rintro part ⟨start, rfl⟩
  by_contra begins
  apply wordwise.continued (fun _ => boundary) begins
  apply free
  exact ⟨before ++ start, by simp only [List.append_assoc]⟩

/-! ## Putting words together -/

/-- Words with blanks between them. -/
def joined (words : List (List Char)) : List Char :=
  List.intercalate [' '] words

theorem joined_cons_cons (first second : List Char) (others : List (List Char)) :
    joined (first :: second :: others) = first ++ ' ' :: joined (second :: others) := by
  rw [joined, joined, List.intercalate_cons_cons, List.append_assoc]
  rfl

theorem Wordwise.tokenFree_append_blank {α : Type} {recognise : List Char → Option (α × Nat)}
    (wordwise : Wordwise recognise) {word text : List Char}
    (nonblank : ∀ c ∈ word, Text.isBlank c = false) (freeWord : TokenFree recognise word)
    (free : TokenFree recognise text) : TokenFree recognise (word ++ ' ' :: text) := by
  have blank : Text.isBlank ' ' = true := by decide
  induction word with
  | nil => exact tokenFree_cons_iff.mpr ⟨wordwise.blank blank text, free⟩
  | cons c word inductionHypothesis =>
      rcases tokenFree_cons_iff.mp freeWord with ⟨first, later⟩
      have rest := inductionHypothesis (List.forall_mem_cons.mp nonblank).2 later
      rw [List.cons_append]
      refine tokenFree_cons_iff.mpr ⟨?_, rest⟩
      by_contra begins
      apply wordwise.beforeBlank begins
      rw [← List.cons_append, untilBlank_append nonblank, untilBlank_cons_of_blank blank,
        List.append_nil]
      exact first

/-- Words without tokens have none when they are put together. -/
theorem Wordwise.tokenFree_joined {α : Type} {recognise : List Char → Option (α × Nat)}
    (wordwise : Wordwise recognise) {words : List (List Char)}
    (nonblank : ∀ word ∈ words, ∀ c ∈ word, Text.isBlank c = false)
    (free : ∀ word ∈ words, TokenFree recognise word) : TokenFree recognise (joined words) := by
  induction words with
  | nil => exact wordwise.tokenFree_nil
  | cons first others inductionHypothesis =>
      rcases List.forall_mem_cons.mp nonblank with ⟨firstNonblank, othersNonblank⟩
      rcases List.forall_mem_cons.mp free with ⟨freeFirst, freeOthers⟩
      cases others with
      | nil =>
          rw [joined, List.intercalate_singleton]
          exact freeFirst
      | cons second others =>
          rw [joined_cons_cons]
          exact wordwise.tokenFree_append_blank firstNonblank freeFirst
            (inductionHypothesis othersNonblank freeOthers)

theorem wordsFrom_of_nonblank {read word : List Char}
    (nonblank : ∀ c ∈ word, Text.isBlank c = false) (nonempty : read.reverse ++ word ≠ []) :
    Text.wordsFrom read word = [read.reverse ++ word] := by
  induction word generalizing read with
  | nil =>
      rw [Text.wordsFrom, if_neg, List.append_nil]
      intro empty
      rw [List.isEmpty_iff.mp empty] at nonempty
      exact nonempty rfl
  | cons c word inductionHypothesis =>
      rcases List.forall_mem_cons.mp nonblank with ⟨first, later⟩
      have same : (c :: read).reverse ++ word = read.reverse ++ c :: word := by
        rw [List.reverse_cons, List.append_assoc]
        rfl
      rw [Text.wordsFrom, first, if_neg Bool.false_ne_true, inductionHypothesis later, same]
      rw [same]
      exact nonempty

/-- Words that are put together are taken apart again. -/
theorem words_joined {words : List (List Char)} (nonempty : ∀ word ∈ words, word ≠ [])
    (nonblank : ∀ word ∈ words, ∀ c ∈ word, Text.isBlank c = false) :
    Text.words (joined words) = words := by
  induction words with
  | nil => rfl
  | cons first others inductionHypothesis =>
      rcases List.forall_mem_cons.mp nonempty with ⟨firstNonempty, othersNonempty⟩
      rcases List.forall_mem_cons.mp nonblank with ⟨firstNonblank, othersNonblank⟩
      have alone : Text.wordsFrom [] first = [first] :=
        wordsFrom_of_nonblank firstNonblank firstNonempty
      cases others with
      | nil =>
          rw [joined, List.intercalate_singleton]
          exact alone
      | cons second others =>
          have rest := inductionHypothesis othersNonempty othersNonblank
          rw [joined_cons_cons, Text.words, wordsFrom_append_blank, alone]
          exact congrArg (first :: ·) rest

/-! ## The words of a title -/

namespace TitleWords

/-- The word that stands in a given role, without its sign. -/
def read? : Role → List Char → Option String
  | .required => unsigned?
  | .optional => signed? '~'
  | .excluded => signed? '-'

/-- A word with the sign of its role. -/
def spell (role : Role) (word : String) : List Char :=
  role.mark ++ word.toList

/-- The words of a title with their signs: the required ones, then the optional ones, then the
excluded ones. -/
def spelled (title : TitleWords) : List (List Char) :=
  title.required.map (spell .required) ++ title.optional.map (spell .optional) ++
    title.excluded.map (spell .excluded)

/-- A title written down as a query. -/
def written (title : TitleWords) : String :=
  String.ofList (joined title.spelled)

theorem spell_of_read? {role : Role} {word : List Char} {text : String}
    (read : read? role word = some text) : spell role text = word := by
  cases word with
  | nil => cases role <;> cases read
  | cons c word =>
      cases role with
      | required =>
          simp only [read?, unsigned?, Option.ite_none_left_eq_some, Option.some.injEq] at read
          rw [spell, ← read.2, String.toList_ofList]
          rfl
      | excluded | optional =>
          simp only [read?, signed?, Option.ite_none_right_eq_some, Option.some.injEq,
            Bool.and_eq_true, decide_eq_true_eq] at read
          rw [spell, ← read.2, String.toList_ofList, read.1.1]
          rfl

/-- A word has one role only. -/
theorem read?_eq_none_of_ne {role other : Role} {word : List Char} (differ : other ≠ role)
    (read : read? role word ≠ none) : read? other word = none := by
  cases word with
  | nil => cases role <;> exact absurd rfl read
  | cons c word =>
      cases role <;> cases other <;> first
        | exact absurd rfl differ
        | (simp only [read?, unsigned?, signed?] at read ⊢
           grind)

/-- The words that stand in a role, with their signs, are among those of the text. -/
theorem map_spell_filterMap_read? (role : Role) (words : List (List Char)) :
    (words.filterMap (read? role)).map (spell role) =
      words.filter fun word => (read? role word).isSome := by
  induction words with
  | nil => rfl
  | cons word words inductionHypothesis =>
      rw [List.filterMap_cons, List.filter_cons]
      cases read : read? role word with
      | none => exact inductionHypothesis
      | some text =>
          rw [List.map_cons, spell_of_read? read, inductionHypothesis]
          rfl

theorem filterMap_read?_filter (role : Role) (words : List (List Char)) :
    (words.filter fun word => (read? role word).isSome).filterMap (read? role) =
      words.filterMap (read? role) := by
  rw [List.filterMap_filter]
  apply List.filterMap_congr
  intro word _
  cases read? role word <;> rfl

theorem filterMap_read?_filter_of_ne {role other : Role} (differ : other ≠ role)
    (words : List (List Char)) :
    (words.filter fun word => (read? role word).isSome).filterMap (read? other) = [] := by
  apply List.filterMap_eq_nil_iff.mpr
  intro word member
  exact read?_eq_none_of_ne differ (Option.isSome_iff_ne_none.mp (List.mem_filter.mp member).2)

/-- The words of a text in which no dollar sign has to be dropped. -/
theorem ofText_of_dollarFree {text : List Char} (dollarFree : ∀ word ∈ Text.words text, '$' ∉ word) :
    ofText text = {
      required := (Text.words text).filterMap (read? .required)
      optional := (Text.words text).filterMap (read? .optional)
      excluded := (Text.words text).filterMap (read? .excluded) } := by
  have kept : ∀ word ∈ Text.words text, word.filter (· ≠ '$') = word := by
    intro word member
    apply List.filter_eq_self.mpr
    intro c inWord
    refine decide_eq_true ?_
    rintro rfl
    exact dollarFree word member inWord
  simp only [ofText, List.map_congr_left kept, List.map_id']
  rfl

/-- The words of a title, written down with their signs, are words of the text. -/
theorem mem_words_of_mem_spelled {text word : List Char}
    (dollarFree : ∀ word ∈ Text.words text, '$' ∉ word) (member : word ∈ (ofText text).spelled) :
    word ∈ Text.words text := by
  rw [ofText_of_dollarFree dollarFree, spelled] at member
  simp only [map_spell_filterMap_read?, List.mem_append, List.mem_filter] at member
  rcases member with (⟨inText, _⟩ | ⟨inText, _⟩) | ⟨inText, _⟩
  all_goals exact inText

/-- A title that is written down is read back. -/
theorem ofText_joined_spelled {text : List Char}
    (dollarFree : ∀ word ∈ Text.words text, '$' ∉ word) :
    ofText (joined (ofText text).spelled) = ofText text := by
  have fromText : ∀ {word}, word ∈ (ofText text).spelled → word ∈ Text.words text :=
    fun member => mem_words_of_mem_spelled dollarFree member
  have apart : Text.words (joined (ofText text).spelled) = (ofText text).spelled :=
    words_joined (fun word member => (isWordOf_of_mem_words (fromText member)).1)
      fun word member => (isWordOf_of_mem_words (fromText member)).2.1
  have stillFree : ∀ word ∈ Text.words (joined (ofText text).spelled), '$' ∉ word := by
    intro word member
    rw [apart] at member
    exact dollarFree word (fromText member)
  rw [ofText_of_dollarFree stillFree, apart, ofText_of_dollarFree dollarFree, spelled]
  simp only [map_spell_filterMap_read?, List.filterMap_append, filterMap_read?_filter]
  have none_of_ne : ∀ {role other : Role}, other ≠ role →
      ((Text.words text).filter fun word => (read? role word).isSome).filterMap (read? other) = [] :=
    fun differ => filterMap_read?_filter_of_ne differ _
  rw [none_of_ne (show Role.required ≠ .optional by decide),
    none_of_ne (show Role.required ≠ .excluded by decide),
    none_of_ne (show Role.optional ≠ .required by decide),
    none_of_ne (show Role.optional ≠ .excluded by decide),
    none_of_ne (show Role.excluded ≠ .required by decide),
    none_of_ne (show Role.excluded ≠ .optional by decide)]
  simp only [List.append_nil, List.nil_append]

end TitleWords

/-! ## Reading a title again -/

/-- The free text of a line has neither tag tokens nor number tokens. -/
theorem tokenFree_freeText (line : List Char) :
    TokenFree TagToken.recognise (residue (numberPieces line)) ∧
      TokenFree NumberToken.recognise (residue (numberPieces line)) := by
  have noTags : TokenFree TagToken.recognise (residue (tagPieces line)) :=
    TagToken.wordwise.tokenFree_residue_own fun _ impossible => absurd impossible Bool.false_ne_true
  exact ⟨TagToken.wordwise.tokenFree_residue noTags 0 false,
    NumberToken.wordwise.tokenFree_residue_own fun _ impossible =>
      absurd impossible Bool.false_ne_true⟩

/-- A line without tokens is read as its words. -/
theorem ofChars_of_tokenFree {line : List Char} (noTags : TokenFree TagToken.recognise line)
    (noNumbers : TokenFree NumberToken.recognise line) :
    ofChars line = { title := TitleWords.ofText line } ∧ tokens (tagPieces line) = [] ∧
      tokens (numberPieces line) = [] := by
  have tags : tokens (tagPieces line) = [] := tokens_scan_of_tokenFree noTags
  have left : residue (tagPieces line) = line := residue_scan_of_tokenFree noTags
  have numbers : tokens (numberPieces line) = [] := by
    rw [numberPieces, left]
    exact tokens_scan_of_tokenFree noNumbers
  have leftAgain : residue (numberPieces line) = line := by
    rw [numberPieces, left]
    exact residue_scan_of_tokenFree noNumbers
  refine ⟨?_, tags, numbers⟩
  simp only [ofChars, tags, numbers, leftAgain]
  rfl

/-- The words of a line without dollar signs have none. -/
theorem dollarFree_of_mem_words {line word : List Char} (dollarFree : '$' ∉ line)
    (member : word ∈ Text.words (residue (numberPieces line))) : '$' ∉ word := by
  intro dollar
  have blank : '$' ≠ ' ' := by decide
  rcases mem_of_mem_wordsFrom member dollar with impossible | inFreeText
  · cases impossible
  rcases mem_residue_scanFrom inFreeText with inResidue | isBlank
  · rcases mem_residue_scanFrom inResidue with inLine | isBlank
    · exact dollarFree inLine
    · exact blank isBlank
  · exact blank isBlank

/-- Extraction is complete: the title words of a query, written down as a query of their own with
the signs of their roles, are read as the same words and nothing else.  No token is found in them,
not even one that asks for nothing. -/
theorem title_is_read_back {line : String} (dollarFree : '$' ∉ line.toList) :
    parse (parse line).title.written = { title := (parse line).title } ∧
      tokens (tagPieces (parse line).title.written.toList) = [] ∧
      tokens (numberPieces (parse line).title.written.toList) = [] := by
  have wordsFree : ∀ word ∈ Text.words (residue (numberPieces line.toList)), '$' ∉ word :=
    fun _ member => dollarFree_of_mem_words dollarFree member
  have isWord : ∀ word ∈ (parse line).title.spelled,
      IsWordOf word (residue (numberPieces line.toList)) := fun word member =>
    isWordOf_of_mem_words (TitleWords.mem_words_of_mem_spelled wordsFree member)
  have nonblank : ∀ word ∈ (parse line).title.spelled, ∀ c ∈ word, Text.isBlank c = false :=
    fun word member => (isWord word member).2.1
  rcases tokenFree_freeText line.toList with ⟨noTags, noNumbers⟩
  have noTagsAgain : TokenFree TagToken.recognise (joined (parse line).title.spelled) :=
    TagToken.wordwise.tokenFree_joined nonblank fun word member =>
      TagToken.wordwise.tokenFree_of_isWordOf noTags (isWord word member)
  have noNumbersAgain : TokenFree NumberToken.recognise (joined (parse line).title.spelled) :=
    NumberToken.wordwise.tokenFree_joined nonblank fun word member =>
      NumberToken.wordwise.tokenFree_of_isWordOf noNumbers (isWord word member)
  have words : TitleWords.ofText (joined (parse line).title.spelled) = (parse line).title :=
    TitleWords.ofText_joined_spelled wordsFree
  have read := ofChars_of_tokenFree noTagsAgain noNumbersAgain
  rw [words] at read
  rwa [parse, TitleWords.written, String.toList_ofList]

/-- A line in which a token leaves half a word behind, and words look almost like tokens. -/
theorem title_of_mixed_line_is_read_back :
    '$' ∉ "a:\"x\"pages>3 -old foo: x>y ~size:5 ~new size>2mb".toList ∧
      parse "foo: x>y size>2mb ~new -old" =
        { title := (parse "a:\"x\"pages>3 -old foo: x>y ~size:5 ~new size>2mb").title } := by
  have free : '$' ∉ "a:\"x\"pages>3 -old foo: x>y ~size:5 ~new size>2mb".toList := by decide
  have written : (parse "a:\"x\"pages>3 -old foo: x>y ~size:5 ~new size>2mb").title.written =
      "foo: x>y size>2mb ~new -old" := by decide +kernel
  refine ⟨free, ?_⟩
  rw [← written]
  exact (title_is_read_back free).1

end Query
end Gallery
