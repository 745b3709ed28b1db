import Gallery.Proofs.FullText.KeptWords
import Gallery.Proofs.FullText.Unreadable

namespace Gallery
namespace FullText

/-!
# The phrases of a match

No word can break out of its quotes.  The literals of an expression are the words that
are searched for, one for one, whatever quotes, parentheses or names of operators they
are made of, and the tree over them says what the roles of the words say.

The reader is followed step by step for this.  It moves operands from one waiting place
to another, but it never drops a phrase and never lets one overtake another, so the
phrases of the tree are the literals of the text.
-/

namespace Expression

/-! ## The reader keeps the phrases in order -/

/-- The string literal that a token is, if it is one. -/
def Token.literal? : Token → Option (List Char)
  | .phrase text => some text
  | _ => none

theorem phrases_joinLeft {connect : Expression → Expression → Expression}
    (ordered : ∀ left right, (connect left right).phrases = left.phrases ++ right.phrases)
    (left : Option Expression) (right : Expression) :
    (joinLeft connect left right).phrases = left.toList.flatMap phrases ++ right.phrases := by
  cases left with
  | none => rfl
  | some left => rw [joinLeft, ordered, Option.toList_some, List.flatMap_singleton]

/-- The phrases that wait in a group. -/
def Pending.phrases (pending : Pending) : List (List Char) :=
  pending.sum.toList.flatMap Expression.phrases ++
    (pending.product.toList.flatMap Expression.phrases ++
      pending.difference.toList.flatMap Expression.phrases)

theorem Pending.phrases_overNot (pending : Pending) (operand : Expression) :
    (pending.overNot operand).phrases =
      pending.difference.toList.flatMap Expression.phrases ++ operand.phrases :=
  phrases_joinLeft (fun _ _ => rfl) _ _

theorem Pending.phrases_overAnd (pending : Pending) (operand : Expression) :
    (pending.overAnd operand).phrases =
      pending.product.toList.flatMap Expression.phrases ++
        (pending.difference.toList.flatMap Expression.phrases ++ operand.phrases) := by
  rw [overAnd, phrases_joinLeft fun _ _ => rfl, phrases_overNot]

theorem Pending.phrases_overOr (pending : Pending) (operand : Expression) :
    (pending.overOr operand).phrases = pending.phrases ++ operand.phrases := by
  rw [overOr, phrases_joinLeft fun _ _ => rfl, phrases_overAnd, Pending.phrases, List.append_assoc,
    List.append_assoc]

/-- The phrases that the reader holds, from the outermost group inwards. -/
def Reader.phrases : Reader → List (List Char)
  | .before pending around => around.reverse.flatMap Pending.phrases ++ pending.phrases
  | .after operand pending around =>
      around.reverse.flatMap Pending.phrases ++ (pending.phrases ++ operand.phrases)

/-- A step adds the phrase of its token behind all others. -/
theorem Reader.phrases_step {reader next : Reader} {token : Token}
    (taken : reader.step token = some next) :
    next.phrases = reader.phrases ++ token.literal?.toList := by
  cases reader with
  | before pending around =>
      cases token with
      | phrase text =>
          cases taken
          rw [Reader.phrases, Reader.phrases, List.append_assoc]
          rfl
      | opening =>
          cases taken
          rw [Reader.phrases, Reader.phrases, List.reverse_cons, List.flatMap_append,
            List.flatMap_singleton]
          rfl
      | and | or | not | closing => cases taken
  | after operand pending around =>
      cases token with
      | phrase text | opening => cases taken
      | not =>
          cases taken
          simp only [Reader.phrases, Pending.phrases, Option.toList_some, List.flatMap_singleton,
            Pending.phrases_overNot, Token.literal?, Option.toList_none, List.append_nil,
            List.append_assoc]
      | and =>
          cases taken
          simp only [Reader.phrases, Pending.phrases, Option.toList_some, List.flatMap_singleton,
            Pending.phrases_overAnd, Token.literal?, Option.toList_none, List.flatMap_nil,
            List.append_nil, List.append_assoc]
      | or =>
          cases taken
          simp only [Reader.phrases, Pending.phrases, Option.toList_some, List.flatMap_singleton,
            Pending.phrases_overOr, Token.literal?, Option.toList_none, List.flatMap_nil,
            List.append_nil, List.append_assoc]
      | closing =>
          cases around with
          | nil => cases taken
          | cons outer around =>
              cases taken
              simp only [Reader.phrases, Pending.phrases_overOr, List.reverse_cons,
                List.flatMap_append, List.flatMap_singleton, Token.literal?, Option.toList_none,
                List.append_nil, List.append_assoc]

theorem Reader.phrases_run {reader next : Reader} {tokens : List Token}
    (taken : reader.run tokens = some next) :
    next.phrases = reader.phrases ++ tokens.filterMap Token.literal? := by
  induction tokens generalizing reader with
  | nil =>
      cases taken
      rw [List.filterMap_nil, List.append_nil]
  | cons token tokens inductionHypothesis =>
      rw [run] at taken
      cases stepped : reader.step token with
      | none =>
          rw [stepped] at taken
          cases taken
      | some between =>
          rw [stepped] at taken
          rw [inductionHypothesis taken, phrases_step stepped, List.append_assoc,
            List.filterMap_cons]
          cases token.literal? <;> rfl

/-- The phrases of a tree are the literals of its text, in their order. -/
theorem phrases_of_ofTokens? {tokens : List Token} {tree : Expression}
    (taken : ofTokens? tokens = some tree) : tree.phrases = tokens.filterMap Token.literal? := by
  rw [ofTokens?] at taken
  split at taken
  · rename_i operand pending reached
    cases taken
    rw [Pending.phrases_overOr]
    exact Reader.phrases_run reached
  · cases taken

end Expression

namespace Match

/-! ## What an expression says -/

/-- There is no expression exactly if no word has a letter or a number. -/
theorem ofWords?_eq_none_iff_forall (words : Query.TitleWords) :
    ofWords? words = none ↔
      ∀ word ∈ words.required ++ words.optional ++ words.excluded,
        word.toList.any Text.isAlphanumeric = false := by
  rw [← Option.not_isSome_iff_eq_none, isSome_ofWords?, Bool.not_eq_true', Bool.not_eq_false,
    Clauses.isEmpty, Bool.and_eq_true, Bool.and_eq_true, List.isEmpty_iff, List.isEmpty_iff,
    List.isEmpty_iff]
  simp only [Clauses.ofWords, List.filterMap_eq_nil_iff, List.forall_mem_append,
    ← Option.not_isSome_iff_eq_none, isSome_term?, Bool.not_eq_true]

/-- An expression means what its words say.  Its literals are the kept words, trimmed and
in order, and it asks for all required words, one of the optional ones if there are any,
and none of the excluded ones.  The index reads the text up to a null character, and so
reads this tree exactly if no kept word has one; otherwise it reads nothing. -/
theorem expression_means_its_words (words : Query.TitleWords) :
    (ofWords? words = none ↔
      ∀ word ∈ words.required ++ words.optional ++ words.excluded,
        word.toList.any Text.isAlphanumeric = false) ∧
    ∀ condition, ofWords? words = some condition →
      ∃ tokens tree, Expression.scan condition.expression.toList = some tokens ∧
        Expression.ofTokens? tokens = some tree ∧
        tokens.filterMap Expression.Token.literal? =
          (kept words).required ++ (kept words).optional ++ (kept words).excluded ∧
        (∀ truth, condition.asks (tree.holds truth) = (kept words).holds truth) ∧
        Expression.read? condition.expression =
          if KeptNullFree words then some tree else none := by
  refine ⟨ofWords?_eq_none_iff_forall words, fun condition compiled => ?_⟩
  rcases exists_tree compiled with ⟨tokens, tree, scanned, taken, ordered, meaning⟩
  refine ⟨tokens, tree, scanned, taken, ?_, meaning, ?_⟩
  · rw [← Expression.phrases_of_ofTokens? taken, ordered]
  · split
    · rename_i free
      exact Expression.read?_of_scan (nullFree_expression free compiled) scanned taken
    · rename_i cut
      exact read?_eq_none cut compiled

/-- Words made of quotes, parentheses and names of operators. -/
def hostileWords : Query.TitleWords where
  required := ["say\"hi", "--"]
  optional := ["AND", " b) "]
  excluded := ["c\" OR \"d"]

/-- The hostile words are searched for as they are; the one without a letter drops out. -/
theorem hostileWords_mean_themselves :
    ofWords? hostileWords = some (.matching
        "\"say\"\"hi\" AND (\"AND\" OR \"b)\") NOT (\"c\"\" OR \"\"d\")") ∧
      ∃ tree, Expression.read?
          "\"say\"\"hi\" AND (\"AND\" OR \"b)\") NOT (\"c\"\" OR \"\"d\")" = some tree ∧
        ∀ truth, tree.holds truth = (kept hostileWords).holds truth := by
  have compiled : ofWords? hostileWords = some (.matching
      "\"say\"\"hi\" AND (\"AND\" OR \"b)\") NOT (\"c\"\" OR \"\"d\")") := by decide +kernel
  have free : KeptNullFree hostileWords := by decide +kernel
  rcases (expression_means_its_words hostileWords).2 _ compiled with
    ⟨_, tree, _, _, _, meaning, found⟩
  rw [if_pos free] at found
  exact ⟨compiled, tree, found, meaning⟩

end Match

end FullText
end Gallery
