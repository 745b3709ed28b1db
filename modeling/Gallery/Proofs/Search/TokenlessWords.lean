import Gallery.Proofs.FullText.Unreadable
import Gallery.Proofs.Query.DollarSigns
import Gallery.Proofs.Search.Conjunction
import Gallery.Proofs.Search.OtherTitles
import Gallery.Proofs.Store.Reachable

namespace Gallery

/-!
# Words without tokens

The index finds a phrase by its tokens, and a phrase without tokens occurs nowhere.  So
words that have none are dropped from a search, and a word counts as having one if it has
a letter or a number.  For punctuation this is right.  But there are letters of which the
index makes no token, letters in circles and many signs for vowels among them.  A word of
these alone is kept, and it asks for a phrase that is nowhere.

What becomes of the search is a matter of the role of the word.  An excluded word leaves
nothing out, and an optional one among others is an alternative that is never met.  A
required word, or an optional one that stands alone, leaves nothing to find.
-/

/-! ## Phrases without tokens -/

namespace FullText

theorem Fold.tokensFrom_ne_nil {token : List Char} (begun : token ≠ []) (text : List Char) :
    tokensFrom token text ≠ [] := by
  have closed : ∀ {token : List Char}, token ≠ [] → ∀ later, close token later ≠ [] := by
    intro token begun later
    rw [close, if_neg (mt List.isEmpty_iff.mp begun)]
    exact List.cons_ne_nil _ _
  induction text generalizing token with
  | nil => exact closed begun []
  | cons c text inductionHypothesis =>
      rw [tokensFrom]
      split
      · exact inductionHypothesis (List.cons_ne_nil _ _)
      · split
        · exact inductionHypothesis begun
        · exact closed begun _

/-- A text has no tokens if none of its characters begins one. -/
theorem tokens_eq_nil_iff (text : List Char) :
    tokens text = [] ↔ ∀ c ∈ text, Fold.tokenChars.contains c = false := by
  rw [tokens, List.map_eq_nil_iff]
  induction text with
  | nil => exact iff_of_true rfl (List.forall_mem_nil _)
  | cons c text inductionHypothesis =>
      rw [List.forall_mem_cons, ← inductionHypothesis, Fold.tokensFrom]
      cases Fold.tokenChars.contains c with
      | true =>
          rw [if_pos rfl]
          refine iff_of_false (Fold.tokensFrom_ne_nil (List.cons_ne_nil _ _) text) fun never => ?_
          cases never.1
      | false =>
          rw [if_neg Bool.false_ne_true]
          exact ⟨fun none => ⟨rfl, none⟩, And.right⟩

theorem tokens_eq_nil_of_subset {part text : List Char} (inside : part ⊆ text)
    (tokenless : tokens text = []) : tokens part = [] := by
  rw [tokens_eq_nil_iff] at tokenless ⊢
  exact fun c member => tokenless c (inside member)

theorem phraseOccurs_of_tokenless {phrase : List Char} (tokenless : tokens phrase = [])
    (text : List Char) : phraseOccurs phrase text = false := by
  rw [phraseOccurs, tokenless]
  rfl

end FullText

theorem Store.IndexRow.contains_of_tokenless (row : IndexRow) {phrase : List Char}
    (tokenless : FullText.tokens phrase = []) : row.contains phrase = false := by
  simp only [contains, FullText.phraseOccurs_of_tokenless tokenless, Bool.or_self]

/-! ## Adding words that occur nowhere -/

namespace FullText
namespace Match

/-- Whether words that occur nowhere make no difference to others: none of them is required,
and they are not the only optional ones. -/
def Ignores (words added : Query.TitleWords) : Prop :=
  (kept added).required = [] ∧ ((kept added).optional = [] ∨ (kept words).optional ≠ [])

instance (words added : Query.TitleWords) : Decidable (Ignores words added) :=
  inferInstanceAs (Decidable (_ ∧ _))

section Added

variable {words added : Query.TitleWords}

theorem KeptNullFree.of_both (free : KeptNullFree (words.both added)) : KeptNullFree words := by
  intro word member
  apply free word
  rw [kept_both]
  simp only [List.mem_append] at member ⊢
  rcases member with (required | optional) | excluded
  · exact Or.inl (Or.inl (Or.inl required))
  · exact Or.inl (Or.inr (Or.inl optional))
  · exact Or.inr (Or.inl excluded)

/-- Words of which nothing is kept change nothing. -/
theorem ofWords?_both_of_none (dropped : keptWords added = []) :
    ofWords? (words.both added) = ofWords? words := by
  rcases List.append_eq_nil_iff.mp dropped with ⟨wanted, excluded⟩
  rcases List.append_eq_nil_iff.mp wanted with ⟨required, optional⟩
  simp only [ofWords?_eq, kept_both, required, optional, excluded, List.append_nil]

theorem wantsNone_both (words added : Query.TitleWords) :
    wantsNone (words.both added) = (wantsNone words && wantsNone added) := by
  simp only [wantsNone, kept_both, isEmpty_append]
  ac_rfl

theorem wantsNone_both_of_ignored (ignored : Ignores words added) :
    wantsNone (words.both added) = wantsNone words := by
  rw [wantsNone_both, wantsNone, wantsNone, ignored.1, List.isEmpty_nil, Bool.true_and]
  rcases ignored.2 with none | others
  · rw [none, List.isEmpty_nil, Bool.and_true]
  · rw [List.isEmpty_eq_false_iff.mpr others, Bool.and_false, Bool.false_and]

theorem wantsNone_both_of_not_ignored (counts : ¬ Ignores words added) :
    wantsNone (words.both added) = false := by
  rw [wantsNone_both, Bool.and_eq_false_imp]
  intro _
  rw [wantsNone, Bool.eq_false_iff]
  intro none
  rw [Bool.and_eq_true, List.isEmpty_iff, List.isEmpty_iff] at none
  exact counts ⟨none.1, Or.inl none.2⟩

/-- What is asked of a text in which none of the added words occurs. -/
theorem holds_both_of_absent {truth : List Char → Bool}
    (absent : ∀ word ∈ keptWords added, truth word = false) :
    (kept (words.both added)).holds truth =
      ((kept words).required.all truth && (kept added).required.isEmpty &&
        ((kept words).optional.isEmpty && (kept added).optional.isEmpty ||
          (kept words).optional.any truth) && !(kept words).excluded.any truth) := by
  have anyAbsent : ∀ {part : List (List Char)}, (∀ word ∈ part, truth word = false) →
      part.any truth = false := fun each =>
    List.any_eq_false.mpr fun word member => Bool.eq_false_iff.mp (each word member)
  have allAbsent : ∀ {part : List (List Char)}, (∀ word ∈ part, truth word = false) →
      part.all truth = part.isEmpty := by
    intro part each
    cases part with
    | nil => rfl
    | cons word others => rw [List.all_cons, each word List.mem_cons_self]; rfl
  rcases List.forall_mem_append.mp absent with ⟨wanted, excluded⟩
  rcases List.forall_mem_append.mp wanted with ⟨required, optional⟩
  simp only [Clauses.holds, kept_both, List.all_append, List.any_append,
    isEmpty_append, allAbsent required, anyAbsent optional, anyAbsent excluded, Bool.or_false]

theorem holds_both_of_ignored {truth : List Char → Bool}
    (absent : ∀ word ∈ keptWords added, truth word = false) (ignored : Ignores words added) :
    (kept (words.both added)).holds truth = (kept words).holds truth := by
  rw [holds_both_of_absent absent, Clauses.holds, ignored.1, List.isEmpty_nil, Bool.and_true]
  rcases ignored.2 with none | others
  · rw [none, List.isEmpty_nil, Bool.and_true]
  · rw [List.isEmpty_eq_false_iff.mpr others, Bool.false_and]

theorem holds_both_of_not_ignored {truth : List Char → Bool}
    (absent : ∀ word ∈ keptWords added, truth word = false) (counts : ¬ Ignores words added) :
    (kept (words.both added)).holds truth = false := by
  rw [holds_both_of_absent absent]
  by_cases required : (kept added).required = []
  · have alone : (kept added).optional ≠ [] ∧ (kept words).optional = [] := by
      rw [Ignores, not_and, not_or, not_not] at counts
      exact counts required
    rw [alone.2, List.isEmpty_eq_false_iff.mpr alone.1, List.any_nil, Bool.and_false, Bool.or_self,
      Bool.and_false, Bool.false_and]
  · rw [List.isEmpty_eq_false_iff.mpr required, Bool.and_false, Bool.false_and, Bool.false_and]

end Added

end Match
end FullText

/-! ## What the index answers -/

namespace Store

open FullText (Match)
open FullText.Match (Ignores KeptNullFree kept keptWords)

section Answers

variable {words added : Query.TitleWords}

variable (tokenless : ∀ word ∈ keptWords added, FullText.tokens word = [])
include tokenless

theorem answersWords_both_of_ignored (store : Store) (archive : Int64)
    (free : KeptNullFree (words.both added)) (ignored : Ignores words added) :
    store.answersWords archive (words.both added) = store.answersWords archive words := by
  have held : ∀ row : IndexRow, (kept (words.both added)).holds row.contains =
      (kept words).holds row.contains := fun row =>
    Match.holds_both_of_ignored
      (fun word member => row.contains_of_tokenless (tokenless word member)) ignored
  rw [answersWords_eq store archive free, answersWords_eq store archive free.of_both,
    Match.wantsNone_both_of_ignored ignored]
  simp only [held]

theorem answersWords_both_of_not_ignored (store : Store) (archive : Int64)
    (free : KeptNullFree (words.both added)) (counts : ¬ Ignores words added) :
    store.answersWords archive (words.both added) = false := by
  have unheld : ∀ row : IndexRow, (kept (words.both added)).holds row.contains = false := fun row =>
    Match.holds_both_of_not_ignored
      (fun word member => row.contains_of_tokenless (tokenless word member)) counts
  rw [answersWords_eq store archive free, Match.wantsNone_both_of_not_ignored counts,
    if_neg Bool.false_ne_true]
  simp only [unheld, Bool.and_false, List.any_eq_false, Bool.false_eq_true, not_false_eq_true,
    implies_true]

end Answers

end Store

/-! ## Lines with one more word -/

namespace Query

open FullText.Match (kept? keptWords)

/-- What is searched for has a letter or a number. -/
theorem isAlphanumeric_of_mem_kept {words : TitleWords} {word : List Char}
    (member : word ∈ keptWords words) : word.any Text.isAlphanumeric = true := by
  have ofRole : ∀ {role : List String},
      word ∈ role.filterMap (fun text => kept? text.toList) →
        word.any Text.isAlphanumeric = true := by
    intro role inRole
    rcases List.mem_filterMap.mp inRole with ⟨text, _, keeps⟩
    rw [kept?, Option.ite_none_right_eq_some] at keeps
    cases keeps.2
    exact keeps.1
  rcases List.mem_append.mp member with wanted | excluded
  · exact (List.mem_append.mp wanted).elim ofRole ofRole
  · exact ofRole excluded

section Line

variable {text : List Char}

/-- Of a text without letters and numbers nothing is searched for. -/
theorem keptWords_of_punctuation (punctuation : text.any Text.isAlphanumeric = false) :
    keptWords (TitleWords.ofText text) = [] := by
  refine List.eq_nil_iff_forall_not_mem.mpr fun word member => ?_
  rcases List.any_eq_true.mp (isAlphanumeric_of_mem_kept member) with ⟨c, inWord, alphanumeric⟩
  exact List.any_eq_false.mp punctuation c (subset_of_mem_kept member inWord) alphanumeric

theorem tokenless_of_mem_kept (tokenless : FullText.tokens text = []) :
    ∀ word ∈ keptWords (TitleWords.ofText text), FullText.tokens word = [] :=
  fun _ member => FullText.tokens_eq_nil_of_subset (subset_of_mem_kept member) tokenless

variable {query added : String}

/-- Without a colon and comparisons a text is read as its words. -/
theorem parse_of_free (colonFree : ':' ∉ added.toList)
    (signFree : added.toList.any isSign = false) :
    parse added = { title := TitleWords.ofText added.toList } :=
  (ofChars_of_tokenFree (TagToken.tokenFree_of_colonFree colonFree)
    (NumberToken.tokenFree_of_signFree signFree)).1

theorem parse_with_words (quoteFree : '"' ∉ query.toList) (colonFree : ':' ∉ added.toList)
    (signFree : added.toList.any isSign = false) :
    parse (query ++ " " ++ added) =
      { parse query with
        title := (parse query).title.both (TitleWords.ofText added.toList) } := by
  rw [parse_append_blank added quoteFree, parse_of_free colonFree signFree, both]
  simp only [List.any_nil, Bool.not_false, List.filter_true, List.append_nil]

end Line

end Query

namespace Search

open Database (oneArchive)
open FullText.Match (Ignores KeptNullFree)
open Plan (Condition)

section Lines

variable {database : Database} {site : Config.Site} {request : Request} {options : Options}
  {added : String} {ids : List Int64}

/-- A text of punctuation behind a query is not searched for. -/
theorem Engine.listing_with_punctuation (present : database.missing = []) (site : Config.Site)
    (options : Options) (quoteFree : '"' ∉ request.query.toList) (colonFree : ':' ∉ added.toList)
    (signFree : added.toList.any Query.isSign = false)
    (punctuation : added.toList.any Text.isAlphanumeric = false) :
    (Engine.mk (.sqlite database) site).listing (request.withQuery (request.query ++ " " ++ added))
        options =
      (Engine.mk (.sqlite database) site).listing request options := by
  have same : FullText.Match.ofWords?
        ((Query.parse request.query).title.both (Query.TitleWords.ofText added.toList)) =
      FullText.Match.ofWords? (Query.parse request.query).title :=
    FullText.Match.ofWords?_both_of_none (Query.keptWords_of_punctuation punctuation)
  exact Engine.listing_withQuery_congr present site options
    (Query.parse_with_words quoteFree colonFree signFree) same.symm

/-- What a text without tokens behind a query does to an answer. -/
theorem Engine.listing_with_tokenless (present : database.missing = [])
    (quoteFree : '"' ∉ request.query.toList) (colonFree : ':' ∉ added.toList)
    (signFree : added.toList.any Query.isSign = false)
    (tokenless : FullText.tokens added.toList = [])
    (listed : (Engine.mk (.sqlite database) site).listing request options = .ok ids) :
    let longer := request.withQuery (request.query ++ " " ++ added)
    let found := (Engine.mk (.sqlite database) site).listing longer options
    found = .ok (if Ignores (Query.parse request.query).title (Query.parse added).title
        then ids else []) ∨
      found = .error (.backend .tooDeep) ∧
        nestingLimit < (planOf database.store longer options).nesting ∨
      found = .error (.backend .malformedExpression) ∧
        ¬ KeptNullFree (Query.parse longer.query).title := by
  intro longer found
  have read : Query.parse longer.query = { Query.parse request.query with
      title := (Query.parse request.query).title.both (Query.parse added).title } := by
    rw [Query.parse_of_free colonFree signFree]
    exact Query.parse_with_words quoteFree colonFree signFree
  have absent : ∀ word ∈ FullText.Match.keptWords (Query.parse added).title,
      FullText.tokens word = [] := by
    rw [Query.parse_of_free colonFree signFree]
    exact Query.tokenless_of_mem_kept tokenless
  have nothing : ids = [] → found = .ok [] → found =
      .ok (if Ignores (Query.parse request.query).title (Query.parse added).title
        then ids else []) := by
    rintro rfl none
    rw [none, ite_self]
  have plan : planOf database.store longer options = planWith database.store request options
      ((Query.parse request.query).title.both (Query.parse added).title) :=
    planOf_withQuery database.store options read
  rw [plan, read]
  rcases Nat.lt_or_ge nestingLimit (planWith database.store request options
      ((Query.parse request.query).title.both (Query.parse added).title)).nesting with deep | shallow
  · rcases Engine.listing_withQuery_of_deep present read listed deep with refused | ⟨early, none⟩
    · exact Or.inr (Or.inl ⟨refused, deep⟩)
    · exact Or.inl (nothing none early)
  by_cases free : KeptNullFree
      ((Query.parse request.query).title.both (Query.parse added).title)
  · have readable := Condition.unreadable?_eq_none free
    apply Or.inl
    by_cases ignored : Ignores (Query.parse request.query).title (Query.parse added).title
    · rw [if_pos ignored]
      exact Engine.listing_withQuery_of_same present read listed shallow readable
        fun archive _ => Store.answersWords_both_of_ignored absent _ archive.id free ignored
    · rw [if_neg ignored]
      exact Engine.listing_withQuery_of_none present read listed shallow readable
        fun archive _ => Store.answersWords_both_of_not_ignored absent _ archive.id free ignored
  · have unreadable : (Condition.fullText ((Query.parse request.query).title.both
        (Query.parse added).title)).unreadable? ≠ none := fun readable =>
      free (Condition.keptNullFree_of_readable readable)
    rcases Option.ne_none_iff_exists'.mp unreadable with ⟨condition, isUnreadable⟩
    rcases Engine.listing_withQuery_of_unreadable present read listed shallow isUnreadable with
        refused | ⟨early, none⟩
    · exact Or.inr (Or.inr ⟨refused, free⟩)
    · exact Or.inl (nothing none early)

end Lines

/-- The sign of a word is no part of what is searched for. -/
theorem free_of_sign {sign : String} (signed : sign ∈ ["", "~", "-"]) :
    ':' ∉ sign.toList ∧ sign.toList.any Query.isSign = false ∧
      sign.toList.any Text.isAlphanumeric = false ∧ FullText.tokens sign.toList = [] := by
  simp only [List.mem_cons, List.not_mem_nil, or_false] at signed
  rcases signed with rfl | rfl | rfl <;> decide

/-- A word without tokens behind a query, whatever its sign, is either ignored or leaves nothing to
find.  It is ignored if it has neither a letter nor a number, which is what the search itself asks
of a word.  Nothing else can happen but that the statement becomes too deep, or that the word ends
the text of the expression early. -/
theorem search_with_tokenless_word {database : Database} (site : Config.Site) (request : Request)
    (options : Options) {sign word : String} (present : database.missing = [])
    (quoteFree : '"' ∉ request.query.toList) (signed : sign ∈ ["", "~", "-"])
    (colonFree : ':' ∉ word.toList) (signFree : word.toList.any Query.isSign = false)
    (tokenless : FullText.tokens word.toList = []) :
    let engine := Engine.mk (.sqlite database) site
    let longer := request.withQuery (request.query ++ " " ++ (sign ++ word))
    (word.toList.any Text.isAlphanumeric = false →
      engine.search longer options = engine.search request options) ∧
    ∀ result, engine.search request options = .ok result →
      engine.search longer options =
          .ok (if Ignores (Query.parse request.query).title (Query.parse (sign ++ word)).title
            then result else {}) ∨
        engine.search longer options = .error (.backend .tooDeep) ∧
          nestingLimit < (planOf database.store longer options).nesting ∨
        engine.search longer options = .error (.backend .malformedExpression) ∧
          ¬ KeptNullFree (Query.parse longer.query).title := by
  intro engine longer
  rcases free_of_sign signed with ⟨signColon, signSign, signLetter, signToken⟩
  have characters : (sign ++ word).toList = sign.toList ++ word.toList := String.toList_append
  have addedColon : ':' ∉ (sign ++ word).toList := by
    rw [characters, List.mem_append, not_or]
    exact ⟨signColon, colonFree⟩
  have addedSign : (sign ++ word).toList.any Query.isSign = false := by
    rw [characters, List.any_append, signSign, signFree, Bool.or_self]
  have sameResult : ∀ ids, resultOf longer options ids = resultOf request options ids :=
    fun _ => rfl
  rw [Engine.search_eq_listing, Engine.search_eq_listing]
  constructor
  · intro punctuation
    have addedLetter : (sign ++ word).toList.any Text.isAlphanumeric = false := by
      rw [characters, List.any_append, signLetter, punctuation, Bool.or_self]
    have listed : engine.listing longer options = engine.listing request options :=
      Engine.listing_with_punctuation present site options quoteFree addedColon addedSign addedLetter
    rw [listed]
    rfl
  · intro result answered
    have addedTokens : FullText.tokens (sign ++ word).toList = [] := by
      rw [FullText.tokens_eq_nil_iff] at signToken tokenless ⊢
      rw [characters]
      exact List.forall_mem_append.mpr ⟨signToken, tokenless⟩
    cases listed : engine.listing request options with
    | error error =>
        rw [listed] at answered
        cases answered
    | ok ids =>
        rw [listed] at answered
        cases answered
        rcases Engine.listing_with_tokenless present quoteFree addedColon addedSign addedTokens
            listed with found | ⟨refused, deep⟩ | ⟨refused, cut⟩
        · rw [found]
          refine Or.inl (congrArg Except.ok ?_)
          rw [sameResult]
          split
          · rfl
          · exact resultOf_nil request options
        · rw [refused]
          exact Or.inr (Or.inl ⟨rfl, deep⟩)
        · rw [refused]
          exact Or.inr (Or.inr ⟨rfl, cut⟩)

/-- In the gallery with one archive its title is found whatever punctuation stands behind it, and
although a letter in a circle is excluded. -/
theorem oneArchive_ignores_tokenless_words :
    oneArchive.missing = [] ∧ FullText.tokens "&!".toList = [] ∧
    FullText.tokens "\u24b6".toList = [] ∧
    (Engine.mk (.sqlite oneArchive) {}).search
        (Request.withQuery { query := "tale" } ("tale" ++ " " ++ ("~" ++ "&!"))) {} =
      .ok { ids := [1], total := 1 } ∧
    (Engine.mk (.sqlite oneArchive) {}).search
        (Request.withQuery { query := "tale" } ("tale" ++ " " ++ ("-" ++ "\u24b6"))) {} =
      .ok { ids := [1], total := 1 } := by
  have present : oneArchive.missing = [] := by decide +kernel
  have quoteFree : '"' ∉ "tale".toList := by decide
  have optional : "~" ∈ ["", "~", "-"] := by decide
  have excluded : "-" ∈ ["", "~", "-"] := by decide
  have punctuation : FullText.tokens "&!".toList = [] := by decide +kernel
  have circled : FullText.tokens "\u24b6".toList = [] := by decide +kernel
  have found : (Engine.mk (.sqlite oneArchive) {}).search { query := "tale" } {} =
      .ok { ids := [1], total := 1 } := by decide +kernel
  refine ⟨present, punctuation, circled, ?_, ?_⟩
  · have same := (search_with_tokenless_word {} { query := "tale" } {} present quoteFree optional
      (by decide) (by decide) punctuation).1 (by decide +kernel)
    exact same.trans found
  · rcases (search_with_tokenless_word {} { query := "tale" } {} present quoteFree excluded
      (by decide) (by decide) circled).2 _ found with ignored | ⟨_, deep⟩ | ⟨_, cut⟩
    · rw [if_pos (by decide +kernel)] at ignored
      exact ignored
    · exact absurd deep (by decide +kernel)
    · exact absurd (by decide +kernel) cut

/-- A letter in a circle has no token and hides the title that is found without it, unless it is
excluded. -/
theorem circled_letter_hides_title :
    FullText.tokens "\u24b6".toList = [] ∧
    (Engine.mk (.sqlite oneArchive) {}).search { query := "tale" } {} =
      .ok { ids := [1], total := 1 } ∧
    (Engine.mk (.sqlite oneArchive) {}).search { query := "tale \u24b6" } {} = .ok {} ∧
    (Engine.mk (.sqlite oneArchive) {}).search { query := "tale ~\u24b6" } {} = .ok {} := by
  decide +kernel

end Search
end Gallery
