import Gallery.Proofs.Query.FreeText
import Gallery.Proofs.Query.NumberTokens

namespace Gallery
namespace Query

/-!
# Every query is well formed

Whatever a line holds, what is read from it keeps to the rules that later stages rely
on.  A scan has only tokens that its recogniser has found somewhere in the line, so what
a recogniser guarantees of its parts holds of every token.  From there each part of a
query has its own reason: characters that are dropped do not come back, reserved scopes
and patterns of wildcards alone are refused, and later filters replace earlier ones.
-/

/-! ## Tag filters -/

/-- A tag filter that later stages can rely on.  A pattern of wildcards alone would match
every tag, and the characters that have a meaning in a query are gone from it. -/
structure TagFilter.WellFormed (filter : TagFilter) : Prop where
  named : IsWord filter.scope.toList
  unreserved : Text.lowerAscii filter.scope ∉ reservedScopes
  quoteFree : '"' ∉ filter.pattern.toList
  dollarFree : '$' ∉ filter.pattern.toList
  starFree : '*' ∉ filter.pattern.toList
  selective : ∃ c ∈ filter.pattern.toList, c ≠ '%'
  oneRole : ¬ (filter.role = .excluded ∧ filter.role = .optional)

theorem TagToken.isWord_of_recognise {line : List Char} {token : TagToken} {further : Nat}
    (recognised : recognise line = some (token, further)) : IsWord token.scope := by
  rw [recognise_eq] at recognised
  split at recognised
  · cases recognised
  · rename_i named
    rcases Option.bind_eq_some_iff.mp recognised with ⟨rest, _, recognised⟩
    split at recognised
    · cases recognised
    · cases recognised
      exact ⟨fun empty => named (List.isEmpty_iff.mpr empty),
        fun c member => List.mem_takeWhile_imp member⟩

theorem TagToken.mem_patternOf {value : List Char} {c : Char} (member : c ∈ patternOf value) :
    c = '%' ∨ (c ∈ value ∧ c ≠ '$' ∧ c ≠ '*') := by
  have named : ∀ {d}, d ∈ (value.filter (· ≠ '$')).map (fun c => if c = '*' then '%' else c) →
      d = '%' ∨ (d ∈ value ∧ d ≠ '$' ∧ d ≠ '*') := by
    intro d inName
    rcases List.mem_map.mp inName with ⟨e, kept, rfl⟩
    rcases List.mem_filter.mp kept with ⟨inValue, noDollar⟩
    by_cases star : e = '*'
    · rw [if_pos star]
      exact Or.inl rfl
    · rw [if_neg star]
      exact Or.inr ⟨inValue, of_decide_eq_true noDollar, star⟩
  rw [patternOf] at member
  split at member
  · exact named member
  · rcases List.mem_append.mp member with inName | wildcard
    · exact named inName
    · exact Or.inl (List.mem_singleton.mp wildcard)

/-- A character of the value that is no wildcard stands in the pattern. -/
theorem TagToken.mem_patternOf_of_mem {value : List Char} {c : Char} (member : c ∈ value)
    (noDollar : c ≠ '$') (noStar : c ≠ '*') : c ∈ patternOf value := by
  have inName : c ∈ (value.filter (· ≠ '$')).map (fun c => if c = '*' then '%' else c) :=
    List.mem_map.mpr ⟨c, List.mem_filter.mpr ⟨member, decide_eq_true noDollar⟩, if_neg noStar⟩
  rw [patternOf]
  split
  · exact inName
  · exact List.mem_append_left _ inName

theorem TagToken.wellFormed_of_tagFilter? {token : TagToken} {filter : TagFilter}
    (named : IsWord token.scope) (stands : token.tagFilter? = some filter) :
    filter.WellFormed := by
  unfold tagFilter? at stands
  split at stands
  · cases stands
  rename_i unreserved
  split at stands
  · cases stands
  rename_i selective
  cases stands
  have pattern : (String.ofList (patternOf token.unquoted)).toList = patternOf token.unquoted :=
    String.toList_ofList
  have plain : ∀ {c}, c ∈ patternOf token.unquoted → c ≠ '"' ∧ c ≠ '$' ∧ c ≠ '*' := by
    intro c member
    rcases mem_patternOf member with rfl | ⟨inValue, noDollar, noStar⟩
    · decide
    · exact ⟨of_decide_eq_true (List.mem_filter.mp inValue).2, noDollar, noStar⟩
  refine ⟨?_, fun reserved => unreserved (List.contains_iff_mem.mpr reserved), ?_, ?_, ?_, ?_, ?_⟩
  · rwa [TagToken.scopeText, String.toList_ofList]
  · rw [pattern]
    exact fun member => (plain member).1 rfl
  · rw [pattern]
    exact fun member => (plain member).2.1 rfl
  · rw [pattern]
    exact fun member => (plain member).2.2 rfl
  · -- Some character of the value is neither a star nor a wildcard, and it is kept.
    rw [pattern]
    simp only [List.all_eq_true, not_forall, Bool.or_eq_true, decide_eq_true_eq, not_or] at selective
    rcases selective with ⟨c, inPlain, noStar, noWildcard⟩
    rcases List.mem_filter.mp inPlain with ⟨inValue, noDollar⟩
    exact ⟨c, mem_patternOf_of_mem inValue (of_decide_eq_true noDollar) noStar, noWildcard⟩
  · rintro ⟨excluded, optional⟩
    rw [excluded] at optional
    cases optional

/-! ## Languages, sources and addresses -/

/-- Some text without the characters that have a meaning in a query. -/
def IsPlain (text : String) : Prop :=
  text ≠ "" ∧ '"' ∉ text.toList ∧ '$' ∉ text.toList

theorem TagToken.isPlain_of_reserved? {scope text : String} {token : TagToken}
    (read : token.reserved? scope = some text) : IsPlain text := by
  unfold reserved? at read
  split at read
  · rename_i found
    cases read
    have nonempty : token.plain ≠ [] := by
      rw [Bool.and_eq_true, Bool.not_eq_true', List.isEmpty_eq_false_iff] at found
      exact found.2
    refine ⟨fun empty => nonempty ?_, ?_, ?_⟩
    · rw [← String.toList_ofList (l := token.plain), empty]
      rfl
    · rw [String.toList_ofList]
      intro member
      exact absurd (List.mem_filter.mp (List.mem_filter.mp member).1).2 (by decide)
    · rw [String.toList_ofList]
      intro member
      exact absurd (List.mem_filter.mp member).2 (by decide)
  · cases read

/-! ## Number filters -/

/-- A number filter that later stages can rely on. -/
structure NumberFilter.WellFormed (filter : NumberFilter) : Prop where
  named : ∀ name, filter.subject = .namespaceCount name →
    IsWord name.toList ∧ Text.lowerAscii name ∉ "pages" :: reservedScopes
  nonnegative : 0 ≤ filter.value.toInt

theorem NumberToken.wellFormed_of_asksFor {token : NumberToken} {filter : NumberFilter}
    (proper : token.Proper) (asks : token.AsksFor filter) : filter.WellFormed where
  named := by
    intro name isName
    have counts := asks.counts
    rw [isName] at counts
    cases counts with
    | namespaced unreserved =>
        exact ⟨String.toList_ofList.symm ▸ proper.word, unreserved⟩
  nonnegative := asks.value_nonneg

namespace NumberFilter

theorem lastPerSubject_sublist (filters : List NumberFilter) :
    (lastPerSubject filters).Sublist filters := by
  induction filters with
  | nil => exact List.Sublist.slnil
  | cons filter later inductionHypothesis =>
      rw [lastPerSubject]
      split
      · exact inductionHypothesis.cons filter
      · exact inductionHypothesis.cons_cons filter

/-- No two of the filters that are kept stand on one subject. -/
theorem nodup_subjects_lastPerSubject (filters : List NumberFilter) :
    ((lastPerSubject filters).map subject).Nodup := by
  induction filters with
  | nil => exact List.nodup_nil
  | cons filter later inductionHypothesis =>
      rw [lastPerSubject]
      split
      · exact inductionHypothesis
      · rename_i last
        rw [List.map_cons, List.nodup_cons]
        refine ⟨fun repeated => last ?_, inductionHypothesis⟩
        rcases List.mem_map.mp repeated with ⟨other, inLater, same⟩
        exact List.any_eq_true.mpr ⟨other, (lastPerSubject_sublist later).subset inLater,
          decide_eq_true same⟩

end NumberFilter

/-! ## Title words -/

/-- A word that can be searched for in titles. -/
def IsTitleWord (word : String) : Prop :=
  word ≠ "" ∧ '$' ∉ word.toList ∧ ∀ c ∈ word.toList, Text.isBlank c = false

namespace TitleWords

/-- Whatever its role, a word of a text is a part of one of the text's words, without dollar
signs and not empty. -/
theorem isTitleWord_of_mem (role : Role) {text : List Char} {word : String}
    (member : word ∈ ((Text.words text).map fun word => word.filter (· ≠ '$')).filterMap
      (read? role)) : IsTitleWord word := by
  rcases List.mem_filterMap.mp member with ⟨filtered, inFiltered, read⟩
  rcases List.mem_map.mp inFiltered with ⟨whole, inWords, rfl⟩
  have spelled : role.mark ++ word.toList = whole.filter (· ≠ '$') := spell_of_read? read
  have characters : ∀ c ∈ word.toList, c ∈ whole.filter (· ≠ '$') := fun c inWord =>
    spelled ▸ List.mem_append_right _ inWord
  refine ⟨?_, fun dollar => ?_, fun c inWord => ?_⟩
  · rintro rfl
    generalize whole.filter (· ≠ '$') = filtered at read
    cases filtered with
    | nil => cases role <;> cases read
    | cons c rest =>
        cases role with
        | required =>
            simp only [read?, unsigned?, Option.ite_none_left_eq_some, Option.some.injEq] at read
            cases congrArg String.toList read.2 ▸ String.toList_ofList (l := c :: rest)
        | excluded | optional =>
            simp only [read?, signed?, Option.ite_none_right_eq_some, Option.some.injEq,
              Bool.and_eq_true, Bool.not_eq_true', List.isEmpty_eq_false_iff] at read
            apply read.1.2
            rw [← String.toList_ofList (l := rest), read.2]
            rfl
  · exact absurd (List.mem_filter.mp (characters _ dollar)).2 (by decide)
  · exact (isWordOf_of_mem_words inWords).2.1 c (List.mem_filter.mp (characters c inWord)).1

theorem unsigned_of_mem {texts : List (List Char)} {word : String}
    (member : word ∈ texts.filterMap unsigned?) :
    word.toList.head? ≠ some '~' ∧ word.toList.head? ≠ some '-' := by
  rcases List.mem_filterMap.mp member with ⟨text, _, read⟩
  cases text with
  | nil => cases read
  | cons c text =>
      simp only [unsigned?, Option.ite_none_left_eq_some, Option.some.injEq, Bool.or_eq_true,
        decide_eq_true_eq, not_or] at read
      rw [← read.2, String.toList_ofList]
      exact ⟨fun tilde => read.1.1 (Option.some.inj tilde),
        fun hyphen => read.1.2 (Option.some.inj hyphen)⟩

end TitleWords

/-! ## Queries -/

/-- A query that later stages can rely on. -/
structure WellFormed (query : Query) : Prop where
  tags : ∀ filter ∈ query.tags, filter.WellFormed
  numbers : ∀ filter ∈ query.numbers, filter.WellFormed
  subjects : (query.numbers.map NumberFilter.subject).Nodup
  languages : ∀ language ∈ query.languages, IsPlain language
  sources : ∀ source ∈ query.sources, IsPlain source
  urls : ∀ url ∈ query.urls, IsPlain url
  required : ∀ word ∈ query.title.required, IsTitleWord word ∧
    word.toList.head? ≠ some '~' ∧ word.toList.head? ≠ some '-'
  optional : ∀ word ∈ query.title.optional, IsTitleWord word
  excluded : ∀ word ∈ query.title.excluded, IsTitleWord word

/-- Every line is read as a well-formed query. -/
theorem parse_wellFormed (line : String) : (parse line).WellFormed where
  tags := by
    intro filter member
    rcases List.mem_filterMap.mp member with ⟨token, inTokens, stands⟩
    rcases exists_recognised_of_mem inTokens with ⟨_, _, recognised⟩
    exact TagToken.wellFormed_of_tagFilter? (TagToken.isWord_of_recognise recognised) stands
  numbers := by
    intro filter member
    have inRead := (NumberFilter.lastPerSubject_sublist _).subset member
    rcases List.mem_filterMap.mp inRead with ⟨token, inTokens, read⟩
    have proper := NumberToken.proper_of_mem inTokens
    exact NumberToken.wellFormed_of_asksFor proper
      ((NumberToken.numberFilter?_eq_some_iff proper).mp read).1
  subjects := NumberFilter.nodup_subjects_lastPerSubject _
  languages := by
    intro language member
    rcases List.mem_filterMap.mp member with ⟨token, _, read⟩
    exact TagToken.isPlain_of_reserved? read
  sources := by
    intro source member
    rcases List.mem_filterMap.mp member with ⟨token, _, read⟩
    exact TagToken.isPlain_of_reserved? read
  urls := by
    intro url member
    rcases List.mem_filterMap.mp member with ⟨token, _, read⟩
    exact TagToken.isPlain_of_reserved? (Option.filter_eq_some_iff.mp read).1
  required := fun _ member =>
    ⟨TitleWords.isTitleWord_of_mem .required member, TitleWords.unsigned_of_mem member⟩
  optional := fun _ member => TitleWords.isTitleWord_of_mem .optional member
  excluded := fun _ member => TitleWords.isTitleWord_of_mem .excluded member

end Query
end Gallery
