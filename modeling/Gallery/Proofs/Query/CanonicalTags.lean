import Gallery.Proofs.Query.FreeText

namespace Gallery
namespace Query

/-!
# Tag filters written down

A tag filter can be written as a sign, a namespace, a colon and a name in quotes, with a
dollar sign behind the name when it is to be matched as a whole.  Whatever stands between
the quotes, be it blanks, comparisons or the beginnings of other tokens, the token is read
up to the closing quote and from there on the scan begins anew.  So a list of filters that
are written with blanks between them is read as this list, and only the blanks are left.
-/

/-! ## Scans of texts made of tokens -/

section Scans

variable {α : Type} {recognise : List Char → Option (α × Nat)}

/-- Behind the characters of a token the scan goes on as at the start of a line. -/
theorem scanFrom_length_append (text rest : List Char) :
    scanFrom recognise text.length false (text ++ rest) = scan recognise rest := by
  induction text with
  | nil => rfl
  | cons c text inductionHypothesis => exact inductionHypothesis

/-- A token at the start of a line is the first piece of it. -/
theorem scan_token_append {text rest : List Char} {token : α}
    (recognised : recognise (text ++ rest) = some (token, text.length - 1)) (nonempty : text ≠ []) :
    scan recognise (text ++ rest) = .token token :: scan recognise rest := by
  cases text with
  | nil => exact absurd rfl nonempty
  | cons c text =>
      rw [List.cons_append] at recognised ⊢
      rw [scan, scanFrom, Bool.false_and, if_neg Bool.false_ne_true, recognised]
      exact congrArg (_ :: ·) (scanFrom_length_append text rest)

theorem Wordwise.scan_blank (wordwise : Wordwise recognise) (rest : List Char) :
    scan recognise (' ' :: rest) = .char ' ' :: scan recognise rest := by
  rw [scan, scanFrom, isWordChar_blank, Bool.and_false, if_neg Bool.false_ne_true,
    wordwise.blank (by decide)]
  rfl

/-- The scan of written tokens finds them one after the other and leaves blanks. -/
theorem Wordwise.scan_joined (wordwise : Wordwise recognise) {β : Type} {written : β → List Char}
    {token : β → α}
    (recognised : ∀ item rest,
      recognise (written item ++ rest) = some (token item, (written item).length - 1))
    (nonempty : ∀ item, written item ≠ []) (items : List β) :
    tokens (scan recognise (joined (items.map written))) = items.map token ∧
      ∀ c ∈ residue (scan recognise (joined (items.map written))), c = ' ' := by
  induction items with
  | nil => exact ⟨rfl, List.forall_mem_nil _⟩
  | cons first others inductionHypothesis =>
      rcases inductionHypothesis with ⟨found, left⟩
      cases others with
      | nil =>
          have alone := scan_token_append (recognised first []) (nonempty first)
          rw [List.append_nil] at alone
          rw [List.map_singleton, joined, List.intercalate_singleton, alone]
          exact ⟨rfl, List.forall_mem_singleton.mpr rfl⟩
      | cons second others =>
          rw [List.map_cons, List.map_cons, joined_cons_cons,
            scan_token_append (recognised first _) (nonempty first), wordwise.scan_blank]
          refine ⟨congrArg (token first :: ·) found, ?_⟩
          exact List.forall_mem_cons.mpr ⟨rfl, List.forall_mem_cons.mpr ⟨rfl, left⟩⟩

end Scans

/-! ## Lines of blanks -/

theorem Wordwise.tokenFree_of_blanks {α : Type} {recognise : List Char → Option (α × Nat)}
    (wordwise : Wordwise recognise) {text : List Char} (blanks : ∀ c ∈ text, c = ' ') :
    TokenFree recognise text := by
  induction text with
  | nil => exact wordwise.tokenFree_nil
  | cons c text inductionHypothesis =>
      rcases List.forall_mem_cons.mp blanks with ⟨rfl, later⟩
      exact tokenFree_cons_iff.mpr ⟨wordwise.blank (by decide) text, inductionHypothesis later⟩

theorem words_of_blanks {text : List Char} (blanks : ∀ c ∈ text, c = ' ') :
    Text.words text = [] := by
  induction text with
  | nil => rfl
  | cons c text inductionHypothesis =>
      rcases List.forall_mem_cons.mp blanks with ⟨rfl, later⟩
      exact inductionHypothesis later

/-- A line of which only blanks are left behind its tag tokens is read as these tokens. -/
theorem ofChars_of_blank_residue {line : List Char}
    (blanks : ∀ c ∈ residue (tagPieces line), c = ' ') :
    ofChars line = {
      tags := (tokens (tagPieces line)).filterMap TagToken.tagFilter?
      languages := (tokens (tagPieces line)).filterMap TagToken.language?
      sources := (tokens (tagPieces line)).filterMap TagToken.source?
      urls := (tokens (tagPieces line)).filterMap TagToken.url? } := by
  have free := NumberToken.wordwise.tokenFree_of_blanks blanks
  have numbers : tokens (numberPieces line) = [] := tokens_scan_of_tokenFree free
  have left : residue (numberPieces line) = residue (tagPieces line) :=
    residue_scan_of_tokenFree free
  have words : TitleWords.ofText (residue (tagPieces line)) = {} := by
    rw [TitleWords.ofText, words_of_blanks blanks]
    rfl
  simp only [ofChars, numbers, left, words]
  rfl

/-! ## Canonical tags -/

/-- A tag filter that can be written down: its namespace is a word that is not reserved, and its name
is more than wildcards and has none of the characters that mean something in a value. -/
structure CanonicalTag where
  role : Role
  scope : String
  name : String
  isWhole : Bool
  named : scope.toList ≠ []
  inWord : ∀ c ∈ scope.toList, Text.isWordChar c = true
  unreserved : isReserved scope = false
  plain : '"' ∉ name.toList ∧ '$' ∉ name.toList ∧ '*' ∉ name.toList
  specific : ∃ c ∈ name.toList, c ≠ '%'

namespace CanonicalTag

/-- The value of the written filter without its quotes. -/
def value (tag : CanonicalTag) : List Char :=
  tag.name.toList ++ if tag.isWhole then ['$'] else []

/-- The written filter. -/
def written (tag : CanonicalTag) : List Char :=
  tag.role.mark ++ (tag.scope.toList ++ ':' :: '"' :: (tag.value ++ ['"']))

/-- The filter that is written. -/
def filter (tag : CanonicalTag) : TagFilter where
  scope := tag.scope
  pattern := if tag.isWhole then tag.name else tag.name ++ "%"
  role := tag.role

/-- The token as which the filter is read. -/
def token (tag : CanonicalTag) : TagToken where
  role := tag.role
  scope := tag.scope.toList
  value := '"' :: (tag.value ++ ['"'])

variable (tag : CanonicalTag)

theorem quoteFree_value : '"' ∉ tag.value := by
  rw [value]
  intro member
  rcases List.mem_append.mp member with inName | isDollar
  · exact tag.plain.1 inName
  · split at isDollar
    · exact absurd (List.mem_singleton.mp isDollar) (by decide)
    · cases isDollar

theorem written_ne_nil : tag.written ≠ [] := by
  intro empty
  have scopeless := (List.append_eq_nil_iff.mp empty).2
  exact tag.named (List.append_eq_nil_iff.mp scopeless).1

/-- The value ends with its closing quote, whatever follows. -/
theorem valueOf_written (rest : List Char) :
    TagToken.valueOf ('"' :: (tag.value ++ '"' :: rest)) = '"' :: (tag.value ++ ['"']) := by
  have kept : ∀ c ∈ tag.value, (decide (c ≠ '"')) = true := by
    intro c member
    refine decide_eq_true ?_
    rintro rfl
    exact tag.quoteFree_value member
  have closed : (tag.value ++ '"' :: rest).contains '"' = true := by
    rw [List.contains_iff_mem]
    exact List.mem_append_right _ List.mem_cons_self
  have taken : (tag.value ++ '"' :: rest).takeWhile (· ≠ '"') = tag.value :=
    takeWhile_run_append kept rfl
  rw [TagToken.valueOf, if_pos closed, taken]

theorem recognise_written (rest : List Char) :
    TagToken.recognise (tag.written ++ rest) = some (tag.token, tag.written.length - 1) := by
  have split : tag.written ++ rest =
      tag.role.mark ++ (tag.scope.toList ++ ':' :: '"' :: (tag.value ++ '"' :: rest)) := by
    simp only [written, List.append_assoc, List.cons_append, List.nil_append]
  have valued := tag.valueOf_written rest
  rw [split, TagToken.recognise_parts tag.role tag.named tag.inWord
    (valued ▸ List.cons_ne_nil _ _), valued]
  refine congrArg (fun reach => some (tag.token, reach)) ?_
  simp only [written, List.length_append, List.length_cons, List.length_nil]
  omega

/-! ### What the token stands for -/

theorem unquoted_token : tag.token.unquoted = tag.value := by
  have kept : tag.value.filter (· ≠ '"') = tag.value := by
    apply List.filter_eq_self.mpr
    intro c member
    refine decide_eq_true ?_
    rintro rfl
    exact tag.quoteFree_value member
  have opening : ∀ text : List Char, ('"' :: text).filter (· ≠ '"') = text.filter (· ≠ '"') :=
    fun _ => rfl
  rw [TagToken.unquoted, token, opening, List.filter_append, kept]
  exact List.append_nil tag.value

theorem filter_dollar_value : tag.value.filter (· ≠ '$') = tag.name.toList := by
  have kept : tag.name.toList.filter (· ≠ '$') = tag.name.toList := by
    apply List.filter_eq_self.mpr
    intro c member
    refine decide_eq_true ?_
    rintro rfl
    exact tag.plain.2.1 member
  rw [value, List.filter_append, kept]
  split <;> exact List.append_nil _

/-- The dollar sign behind a name is the only one in a value. -/
theorem getLast?_value_eq_dollar_iff : tag.value.getLast? = some '$' ↔ tag.isWhole = true := by
  rw [value]
  cases tag.isWhole with
  | true => exact iff_of_true List.getLast?_concat rfl
  | false =>
      refine iff_of_false (fun last => tag.plain.2.1 ?_) Bool.false_ne_true
      rw [if_neg Bool.false_ne_true, List.append_nil] at last
      exact List.mem_of_getLast? last

theorem patternOf_value : String.ofList (TagToken.patternOf tag.value) = tag.filter.pattern := by
  have starless : (tag.name.toList.map fun c => if c = '*' then '%' else c) = tag.name.toList := by
    have same : ∀ c ∈ tag.name.toList, (if c = '*' then '%' else c) = c := by
      intro c member
      rw [if_neg]
      rintro rfl
      exact tag.plain.2.2 member
    rw [List.map_congr_left same, List.map_id']
  simp only [TagToken.patternOf, filter_dollar_value, starless, getLast?_value_eq_dollar_iff, filter]
  split
  · exact String.ofList_toList
  · rw [String.ofList_append, String.ofList_toList]

theorem tagFilter?_token : tag.token.tagFilter? = some tag.filter := by
  have scope : tag.token.scopeText = tag.scope := String.ofList_toList
  have plain : tag.token.plain = tag.name.toList := by
    rw [TagToken.plain, unquoted_token, filter_dollar_value]
  have more : tag.name.toList.all (fun c => c = '*' || c = '%') = false := by
    rcases tag.specific with ⟨c, member, other⟩
    apply List.all_eq_false.mpr
    refine ⟨c, member, ?_⟩
    simp only [Bool.or_eq_true, decide_eq_true_eq, other, or_false]
    rintro rfl
    exact tag.plain.2.2 member
  rw [TagToken.tagFilter?, scope, tag.unreserved, if_neg Bool.false_ne_true, plain, more,
    if_neg Bool.false_ne_true, unquoted_token, patternOf_value]
  rfl

/-- A namespace that is not reserved is none of the reserved ones. -/
theorem reserved?_token {reserved : String} (isReserved : reserved ∈ reservedScopes) :
    tag.token.reserved? reserved = none := by
  have scope : tag.token.scopeText = tag.scope := String.ofList_toList
  rw [TagToken.reserved?, scope, if_neg]
  intro both
  have same : Text.lowerAscii tag.scope = reserved :=
    of_decide_eq_true (Bool.and_eq_true_iff.mp both).1
  have unreserved := tag.unreserved
  rw [Query.isReserved, same, List.contains_iff_mem.mpr isReserved] at unreserved
  cases unreserved

end CanonicalTag

/-- A list of written tag filters is read as this list, in its order, and as nothing else: no
number filter, language, source, address or title word comes out of what stands in quotes. -/
theorem canonical_tags_are_read_back (tags : List CanonicalTag) :
    parse (String.ofList (joined (tags.map CanonicalTag.written))) =
      { tags := tags.map CanonicalTag.filter } := by
  rcases TagToken.wordwise.scan_joined CanonicalTag.recognise_written CanonicalTag.written_ne_nil
    tags with ⟨found, blanks⟩
  have filters : (tags.map CanonicalTag.token).filterMap TagToken.tagFilter? =
      tags.map CanonicalTag.filter := by
    rw [List.filterMap_map, ← List.filterMap_eq_map]
    exact List.filterMap_congr fun tag _ => tag.tagFilter?_token
  have nothing : ∀ {read : TagToken → Option String}, (∀ tag : CanonicalTag, read tag.token = none) →
      (tags.map CanonicalTag.token).filterMap read = [] := by
    intro read unread
    rw [List.filterMap_map]
    exact List.filterMap_eq_nil_iff.mpr fun tag _ => unread tag
  have languages : ∀ tag : CanonicalTag, tag.token.language? = none :=
    fun tag => tag.reserved?_token (by decide)
  have sources : ∀ tag : CanonicalTag, tag.token.source? = none :=
    fun tag => tag.reserved?_token (by decide)
  have urls : ∀ tag : CanonicalTag, tag.token.url? = none := by
    intro tag
    rw [TagToken.url?, tag.reserved?_token (by decide)]
    rfl
  have read : tokens (tagPieces (joined (tags.map CanonicalTag.written))) =
      tags.map CanonicalTag.token := found
  rw [parse, String.toList_ofList, ofChars_of_blank_residue blanks, read, filters,
    nothing languages, nothing sources, nothing urls]

/-- Two written filters whose names look like other tokens. -/
theorem deceptive_tags_are_read_back :
    parse "-artist:\"a:b pages>3 ~c\" ~série:\"~x:y size<2m$\"" =
      { tags := [⟨"artist", "a:b pages>3 ~c%", .excluded⟩,
          ⟨"série", "~x:y size<2m", .optional⟩] } := by
  let first : CanonicalTag := {
    role := .excluded, scope := "artist", name := "a:b pages>3 ~c", isWhole := false
    named := by decide
    inWord := List.all_eq_true.mp (by decide +kernel)
    unreserved := by decide +kernel
    plain := by decide
    specific := ⟨'a', by decide, by decide⟩ }
  let second : CanonicalTag := {
    role := .optional, scope := "série", name := "~x:y size<2m", isWhole := true
    named := by decide
    inWord := List.all_eq_true.mp (by decide +kernel)
    unreserved := by decide +kernel
    plain := by decide
    specific := ⟨'x', by decide, by decide⟩ }
  have written : String.ofList (joined ([first, second].map CanonicalTag.written)) =
      "-artist:\"a:b pages>3 ~c\" ~série:\"~x:y size<2m$\"" := by decide +kernel
  rw [← written]
  exact canonical_tags_are_read_back [first, second]

end Query
end Gallery
