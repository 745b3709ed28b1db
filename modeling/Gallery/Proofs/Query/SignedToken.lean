import Gallery.Proofs.Query.Concatenation

namespace Gallery
namespace Query

/-!
# One tag token and its signs

A line that is one tag token is read as what the token stands for and nothing
else.  A sign in front of it changes the role of the token and leaves its scope
and its value as they are, so the three forms of a filter differ in their roles
alone.
-/

/-- A line that is one tag token from its first character to its last. -/
def IsTagToken (line : List Char) : Prop :=
  ∃ token, TagToken.recognise line = some (token, line.length - 1)

theorem scanFrom_passed {α : Type} (recognise : List Char → Option (α × Nat)) {passed : Nat}
    {inWord : Bool} {line : List Char} (beyond : line.length ≤ passed) :
    scanFrom recognise passed inWord line = [] := by
  induction line generalizing passed inWord with
  | nil => cases passed <;> rfl
  | cons c line inductionHypothesis =>
      cases passed with
      | zero => cases beyond
      | succ passed => exact inductionHypothesis (Nat.le_of_succ_le_succ beyond)

namespace TagToken

variable {line : List Char} {token : TagToken}

theorem tagPieces_of_token (recognised : recognise line = some (token, line.length - 1)) :
    tagPieces line = [.token token] := by
  cases line with
  | nil => cases recognised
  | cons c line =>
      have nothingLeft : scanFrom recognise ((c :: line).length - 1) false line = [] :=
        scanFrom_passed recognise (Nat.le_refl _)
      simp only [tagPieces, scan, scanFrom, Bool.false_and, Bool.false_eq_true, if_false, recognised,
        nothingLeft]

/-- A line that is one tag token is read as the token alone. -/
theorem ofChars_of_token (recognised : recognise line = some (token, line.length - 1)) :
    ofChars line = {
      tags := token.tagFilter?.toList
      languages := token.language?.toList
      sources := token.source?.toList
      urls := token.url?.toList } := by
  have pieces := tagPieces_of_token recognised
  have numbers : numberPieces line = [.char ' '] := by
    rw [numberPieces, pieces]
    rfl
  have single : ∀ {α : Type} (read : TagToken → Option α),
      (tokens [Piece.token token]).filterMap read = (read token).toList := by
    intro α read
    change [token].filterMap read = _
    rw [List.filterMap_cons]
    cases read token <;> rfl
  have blank : TitleWords.ofText [' '] = {} := by decide
  simp only [ofChars, pieces, numbers, single]
  exact congrArg (fun title => ({ tags := _, languages := _, sources := _, urls := _, title := title } :
    Query)) blank

/-- A sign changes the role of a token. -/
theorem recognise_signed {mark : Char} {role : Role}
    (signs : ∀ rest, sign (mark :: rest) = (role, 1, rest))
    (recognised : recognise line = some (token, line.length - 1))
    (unsigned : token.role = .required) :
    recognise (mark :: line) = some ({ token with role := role }, (mark :: line).length - 1) := by
  have inside := length_of_recognise recognised
  rw [recognise_eq] at recognised
  split at recognised
  · cases recognised
  rename_i named
  rcases Option.bind_eq_some_iff.mp recognised with ⟨rest, found, recognised⟩
  split at recognised
  · cases recognised
  rename_i valued
  rcases Prod.mk.inj (Option.some.inj recognised) with ⟨isToken, reach⟩
  have noSign : sign line = (.required, 0, line) := by
    have role : (sign line).1 = .required := by rw [← isToken] at unsigned; exact unsigned
    unfold sign at role ⊢
    split at role
    · cases role
    · cases role
    · rfl
  rw [noSign] at named found reach isToken
  rw [recognise_eq, signs, if_neg named, found, Option.bind_some, if_neg valued, ← isToken]
  refine congrArg (fun reached => some (_, reached)) ?_
  rw [List.length_cons]
  dsimp only at reach ⊢
  omega

/-- The role of a token goes into its filter and nowhere else. -/
theorem tagFilter?_withRole (token : TagToken) (role : Role) :
    ({ token with role := role } : TagToken).tagFilter? =
      token.tagFilter?.map fun filter => { filter with role := role } := by
  have unfolded : ({ token with role := role } : TagToken).tagFilter? =
      if isReserved token.scopeText then none
      else if token.plain.all (fun c => c = '*' || c = '%') then none
      else some ⟨token.scopeText, String.ofList (patternOf token.unquoted), role⟩ := rfl
  rw [unfolded, tagFilter?]
  by_cases reserved : isReserved token.scopeText = true
  · rw [if_pos reserved, if_pos reserved]
    rfl
  · rw [if_neg reserved, if_neg reserved]
    split <;> rfl

theorem role_of_tagFilter? {filter : TagFilter} (stands : token.tagFilter? = some filter) :
    filter.role = token.role := by
  unfold tagFilter? at stands
  split at stands
  · cases stands
  · split at stands
    · cases stands
    · cases stands
      rfl

end TagToken

/-- A signed token stands for the filter of the token in the role of the sign. -/
theorem ofChars_signed {line : List Char} {mark : Char} {role : Role} {filter : TagFilter}
    (signs : ∀ rest, TagToken.sign (mark :: rest) = (role, 1, rest))
    (single : IsTagToken line) (read : ofChars line = { tags := [filter] })
    (inclusive : filter.role = .required) :
    ofChars (mark :: line) = { tags := [{ filter with role := role }] } := by
  rcases single with ⟨token, recognised⟩
  rw [TagToken.ofChars_of_token recognised] at read
  have stands : token.tagFilter? = some filter := by
    have tags := congrArg Query.tags read
    cases found : token.tagFilter? with
    | none =>
        rw [found] at tags
        cases tags
    | some other =>
        rw [found] at tags
        exact congrArg some (List.cons.inj tags).1
  have unsigned : token.role = .required := (TagToken.role_of_tagFilter? stands).symm.trans inclusive
  rw [TagToken.ofChars_of_token (TagToken.recognise_signed signs recognised unsigned),
    TagToken.tagFilter?_withRole, stands]
  -- Languages, sources and addresses look at the scope and the value alone.
  have languages : token.language?.toList = [] := congrArg Query.languages read
  have sources : token.source?.toList = [] := congrArg Query.sources read
  have urls : token.url?.toList = [] := congrArg Query.urls read
  change Query.mk [{ filter with role := role }] [] token.language?.toList token.source?.toList
    token.url?.toList {} = _
  rw [languages, sources, urls]

end Query
end Gallery
