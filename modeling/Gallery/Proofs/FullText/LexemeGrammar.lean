import Gallery.FullText.Lexemes
import Mathlib.Data.List.Basic
import Mathlib.Data.List.Forall2
import Mathlib.Tactic.Common

namespace Gallery
namespace FullText
namespace Lexemes

/-!
# The grammar of lexeme queries

A query over lexemes is text, which the database takes apart again with operators of its
own: `!` binds tightest, then `<->`, then `&`, then `|`, and all but the first group to
the left.  The grammar is stated twice.  `Writes` says which tokens stand for which tree,
one rule for each operator; `ofTokens?` is a machine that reads tokens from left to right
and keeps what waits for a right operand.  They are the same grammar, so tokens stand for
at most one tree.
-/

/-- A query as a tree. -/
inductive Tree where
  | lexeme (text : List Char)
  | not (operand : Tree)
  | follows (left right : Tree)
  | and (left right : Tree)
  | or (left right : Tree)
deriving DecidableEq, Repr

namespace Tree

/-- The lexemes of a query, in the order in which they are written. -/
def lexemes : Tree → List (List Char)
  | .lexeme text => [text]
  | .not operand => operand.lexemes
  | .follows left right | .and left right | .or left right => left.lexemes ++ right.lexemes

/-- A token of a query. -/
inductive Token where
  | lexeme (text : List Char)
  | not
  | follows
  | and
  | or
  | opening
  | closing
deriving DecidableEq, Repr

/-! ## Rules -/

/-- How much an operand may hold without parentheses around it. -/
inductive Level where
  | operand
  | phrase
  | product
  | sum

/-- Tokens that stand for a tree at a level. -/
inductive Writes : Level → List Token → Tree → Prop
  | lexeme (text : List Char) : Writes .operand [.lexeme text] (.lexeme text)
  | not {tokens : List Token} {tree : Tree} (operand : Writes .operand tokens tree) :
      Writes .operand (.not :: tokens) (.not tree)
  | group {tokens : List Token} {tree : Tree} (inner : Writes .sum tokens tree) :
      Writes .operand (.opening :: (tokens ++ [.closing])) tree
  | ofOperand {tokens : List Token} {tree : Tree} (operand : Writes .operand tokens tree) :
      Writes .phrase tokens tree
  | follows {before after : List Token} {left right : Tree} (leftSide : Writes .phrase before left)
      (rightSide : Writes .operand after right) :
      Writes .phrase (before ++ .follows :: after) (.follows left right)
  | ofPhrase {tokens : List Token} {tree : Tree} (phrase : Writes .phrase tokens tree) :
      Writes .product tokens tree
  | and {before after : List Token} {left right : Tree} (leftSide : Writes .product before left)
      (rightSide : Writes .phrase after right) :
      Writes .product (before ++ .and :: after) (.and left right)
  | ofProduct {tokens : List Token} {tree : Tree} (product : Writes .product tokens tree) :
      Writes .sum tokens tree
  | or {before after : List Token} {left right : Tree} (leftSide : Writes .sum before left)
      (rightSide : Writes .product after right) :
      Writes .sum (before ++ .or :: after) (.or left right)

/-! ## The machine -/

/-- The operands of a group that wait for what follows: the left side of `|`, then of
`&`, then of `<->`. -/
structure Pending where
  sum : Option Tree := none
  product : Option Tree := none
  phrase : Option Tree := none

/-- Joins a left operand, if there is one, with a right operand. -/
def joinLeft (connect : Tree → Tree → Tree) : Option Tree → Tree → Tree
  | none, right => right
  | some left, right => connect left right

/-- An operand under so many negations. -/
def negated : Nat → Tree → Tree
  | 0, operand => operand
  | count + 1, operand => .not (negated count operand)

namespace Pending

/-- The group up to an operand, as far as `<->` reaches. -/
def overPhrase (pending : Pending) (operand : Tree) : Tree :=
  joinLeft .follows pending.phrase operand

/-- The group up to an operand, as far as `&` reaches. -/
def overProduct (pending : Pending) (operand : Tree) : Tree :=
  joinLeft .and pending.product (pending.overPhrase operand)

/-- The whole group up to an operand. -/
def overSum (pending : Pending) (operand : Tree) : Tree :=
  joinLeft .or pending.sum (pending.overProduct operand)

end Pending

/-- Where the machine stands: before an operand, with the negations already read, or
after one.  The groups around the innermost one are kept from the inside out, each with
the negations in front of it. -/
inductive Reader where
  | before (pending : Pending) (negations : Nat) (around : List (Pending × Nat))
  | after (operand : Tree) (pending : Pending) (around : List (Pending × Nat))

/-- One step of the machine. -/
def Reader.step : Reader → Token → Option Reader
  | .before pending negations around, .lexeme text =>
      some (.after (negated negations (.lexeme text)) pending around)
  | .before pending negations around, .not => some (.before pending (negations + 1) around)
  | .before pending negations around, .opening =>
      some (.before {} 0 ((pending, negations) :: around))
  | .before _ _ _, _ => none
  | .after operand pending around, .follows =>
      some (.before { pending with phrase := some (pending.overPhrase operand) } 0 around)
  | .after operand pending around, .and =>
      some (.before { sum := pending.sum, product := some (pending.overProduct operand) } 0 around)
  | .after operand pending around, .or =>
      some (.before { sum := some (pending.overSum operand) } 0 around)
  | .after operand pending ((outer, negations) :: around), .closing =>
      some (.after (negated negations (pending.overSum operand)) outer around)
  | .after _ _ _, _ => none

/-- The machine after a list of tokens. -/
def Reader.run : Reader → List Token → Option Reader
  | reader, [] => some reader
  | reader, token :: tokens =>
      match reader.step token with
      | some next => next.run tokens
      | none => none

/-- The tree that a list of tokens stands for. -/
def ofTokens? (tokens : List Token) : Option Tree :=
  match Reader.run (.before {} 0 []) tokens with
  | some (.after operand pending []) => some (pending.overSum operand)
  | _ => none

/-! ## What the rules write, the machine reads -/

/-- What the machine does with tokens at a level: it takes them all, and what then waits
in its group joins with the last operand to the tree. -/
def Taken (tokens : List Token) (tree : Tree) : Level → Prop
  | .operand => ∀ pending negations around rest,
      Reader.run (.before pending negations around) (tokens ++ rest) =
        Reader.run (.after (negated negations tree) pending around) rest
  | .phrase => ∀ sum product around rest, ∃ phrase last,
      Reader.run (.before ⟨sum, product, none⟩ 0 around) (tokens ++ rest) =
        Reader.run (.after last ⟨sum, product, phrase⟩ around) rest ∧
      joinLeft .follows phrase last = tree
  | .product => ∀ sum around rest, ∃ product phrase last,
      Reader.run (.before ⟨sum, none, none⟩ 0 around) (tokens ++ rest) =
        Reader.run (.after last ⟨sum, product, phrase⟩ around) rest ∧
      Pending.overProduct ⟨sum, product, phrase⟩ last = tree
  | .sum => ∀ around rest, ∃ pending last,
      Reader.run (.before {} 0 around) (tokens ++ rest) =
        Reader.run (.after last pending around) rest ∧
      pending.overSum last = tree

theorem negated_not (count : Nat) (operand : Tree) :
    negated count (.not operand) = negated (count + 1) operand := by
  induction count with
  | zero => rfl
  | succ count inductionHypothesis => exact congrArg Tree.not inductionHypothesis

theorem taken_of_writes {level : Level} {tokens : List Token} {tree : Tree}
    (written : Writes level tokens tree) : Taken tokens tree level := by
  induction written with
  | lexeme text => exact fun _ _ _ _ => rfl
  | @not tokens tree _ inner =>
      intro pending negations around rest
      rw [negated_not]
      exact inner pending (negations + 1) around rest
  | @group tokens tree _ inner =>
      intro pending negations around rest
      rcases inner ((pending, negations) :: around) (.closing :: rest) with
        ⟨waiting, last, reached, rfl⟩
      have entered : Reader.run (.before pending negations around)
          ((.opening :: (tokens ++ [.closing])) ++ rest) =
          Reader.run (.before {} 0 ((pending, negations) :: around))
            (tokens ++ .closing :: rest) := by
        rw [List.cons_append, List.append_assoc]
        rfl
      rw [entered, reached]
      rfl
  | ofOperand _ inner =>
      intro sum product around rest
      exact ⟨none, _, inner _ 0 around rest, rfl⟩
  | @follows before after left right _ _ leftTaken rightTaken =>
      intro sum product around rest
      rcases leftTaken sum product around (.follows :: after ++ rest) with
        ⟨phrase, last, reached, rfl⟩
      refine ⟨some (joinLeft .follows phrase last), right, ?_, rfl⟩
      rw [List.append_assoc, reached]
      exact rightTaken ⟨sum, product, some (joinLeft .follows phrase last)⟩ 0 around rest
  | ofPhrase _ inner =>
      intro sum around rest
      rcases inner sum none around rest with ⟨phrase, last, reached, rfl⟩
      exact ⟨none, phrase, last, reached, rfl⟩
  | @and before after left right _ _ leftTaken rightTaken =>
      intro sum around rest
      rcases leftTaken sum around (.and :: after ++ rest) with ⟨product, phrase, last, reached, rfl⟩
      rcases rightTaken sum (some (Pending.overProduct ⟨sum, product, phrase⟩ last)) around rest with
        ⟨phrase', last', reachedLater, rfl⟩
      refine ⟨some (Pending.overProduct ⟨sum, product, phrase⟩ last), phrase', last', ?_, rfl⟩
      rw [List.append_assoc, reached]
      exact reachedLater
  | ofProduct _ inner =>
      intro around rest
      rcases inner none around rest with ⟨product, phrase, last, reached, rfl⟩
      exact ⟨⟨none, product, phrase⟩, last, reached, rfl⟩
  | @or before after left right _ _ leftTaken rightTaken =>
      intro around rest
      rcases leftTaken around (.or :: after ++ rest) with ⟨pending, last, reached, rfl⟩
      rcases rightTaken (some (pending.overSum last)) around rest with
        ⟨product, phrase, last', reachedLater, rfl⟩
      refine ⟨⟨some (pending.overSum last), product, phrase⟩, last', ?_, rfl⟩
      rw [List.append_assoc, reached]
      exact reachedLater

/-! ## What the machine reads, the rules write -/

/-- Tokens of a left operand that waits, with the operator behind it. -/
def Waits (level : Level) (operator : Token) (left : Option Tree) (tokens : List Token) : Prop :=
  match left with
  | none => tokens = []
  | some tree => ∃ operand, tokens = operand ++ [operator] ∧ Writes level operand tree

/-- Tokens of a group up to an operand. -/
def Pending.Holds (pending : Pending) (tokens : List Token) : Prop :=
  ∃ sums products phrases, tokens = sums ++ (products ++ phrases) ∧
    Waits .sum .or pending.sum sums ∧ Waits .product .and pending.product products ∧
    Waits .phrase .follows pending.phrase phrases

/-- Tokens of the groups around the innermost one. -/
def Surrounds : List (Pending × Nat) → List Token → Prop
  | [], tokens => tokens = []
  | (pending, negations) :: around, tokens =>
      ∃ outer group, Surrounds around outer ∧ pending.Holds group ∧
        tokens = outer ++ (group ++ (List.replicate negations .not ++ [.opening]))

/-- The tokens that the machine has taken. -/
def Reader.Holds : Reader → List Token → Prop
  | .before pending negations around, tokens =>
      ∃ outer group, Surrounds around outer ∧ pending.Holds group ∧
        tokens = outer ++ (group ++ List.replicate negations .not)
  | .after operand pending around, tokens =>
      ∃ outer group written, Surrounds around outer ∧ pending.Holds group ∧
        Writes .operand written operand ∧ tokens = outer ++ (group ++ written)

theorem holds_nothing : Pending.Holds {} [] := ⟨[], [], [], rfl, rfl, rfl, rfl⟩

theorem Writes.negated {tokens : List Token} {tree : Tree} (written : Writes .operand tokens tree)
    (count : Nat) :
    Writes .operand (List.replicate count .not ++ tokens) (negated count tree) := by
  induction count with
  | zero => exact written
  | succ count inductionHypothesis => exact inductionHypothesis.not

/-- An operand takes what waits in its group, operator by operator. -/
theorem Pending.Holds.over {pending : Pending} {group tokens : List Token} {operand : Tree}
    (holds : pending.Holds group) (written : Writes .operand tokens operand) :
    ∃ sums products phrases, group ++ tokens = sums ++ (products ++ (phrases ++ tokens)) ∧
      Waits .sum .or pending.sum sums ∧ Waits .product .and pending.product products ∧
      Writes .phrase (phrases ++ tokens) (pending.overPhrase operand) ∧
      Writes .product (products ++ (phrases ++ tokens)) (pending.overProduct operand) ∧
      Writes .sum (group ++ tokens) (pending.overSum operand) := by
  rcases holds with ⟨sums, products, phrases, rfl, sumWaits, productWaits, phraseWaits⟩
  have phrase : Writes .phrase (phrases ++ tokens) (pending.overPhrase operand) := by
    rw [overPhrase]
    cases waiting : pending.phrase with
    | none =>
        rw [waiting] at phraseWaits
        rw [show phrases = [] from phraseWaits]
        exact written.ofOperand
    | some left =>
        rw [waiting] at phraseWaits
        rcases phraseWaits with ⟨leftTokens, rfl, leftWritten⟩
        rw [List.append_assoc]
        exact leftWritten.follows written
  have product : Writes .product (products ++ (phrases ++ tokens)) (pending.overProduct operand) := by
    rw [overProduct]
    cases waiting : pending.product with
    | none =>
        rw [waiting] at productWaits
        rw [show products = [] from productWaits]
        exact phrase.ofPhrase
    | some left =>
        rw [waiting] at productWaits
        rcases productWaits with ⟨leftTokens, rfl, leftWritten⟩
        rw [List.append_assoc]
        exact leftWritten.and phrase
  have grouped : (sums ++ (products ++ phrases)) ++ tokens =
      sums ++ (products ++ (phrases ++ tokens)) := by
    rw [List.append_assoc, List.append_assoc]
  refine ⟨sums, products, phrases, grouped, sumWaits, productWaits, phrase, product, ?_⟩
  rw [grouped, overSum]
  cases waiting : pending.sum with
  | none =>
      rw [waiting] at sumWaits
      rw [show sums = [] from sumWaits]
      exact product.ofProduct
  | some left =>
      rw [waiting] at sumWaits
      rcases sumWaits with ⟨leftTokens, rfl, leftWritten⟩
      rw [List.append_assoc]
      exact leftWritten.or product

/-- One step takes one token more. -/
theorem Reader.Holds.step {reader next : Reader} {token : Token} {tokens : List Token}
    (holds : reader.Holds tokens) (taken : reader.step token = some next) :
    next.Holds (tokens ++ [token]) := by
  cases reader with
  | before pending negations around =>
      rcases holds with ⟨outer, group, surrounds, inGroup, rfl⟩
      cases token with
      | lexeme text =>
          cases taken
          refine ⟨outer, group, _, surrounds, inGroup, (Writes.lexeme text).negated negations, ?_⟩
          rw [List.append_assoc, List.append_assoc]
      | not =>
          cases taken
          refine ⟨outer, group, surrounds, inGroup, ?_⟩
          rw [List.append_assoc, List.append_assoc, List.replicate_succ']
      | opening =>
          cases taken
          refine ⟨_, [], ⟨outer, group, surrounds, inGroup, rfl⟩, holds_nothing, ?_⟩
          rw [List.append_assoc, List.append_assoc, List.replicate_zero, List.append_nil,
            List.append_nil]
      | follows | and | or | closing => cases taken
  | after operand pending around =>
      rcases holds with ⟨outer, group, written, surrounds, inGroup, writes, rfl⟩
      rcases inGroup.over writes with
        ⟨sums, products, phrases, grouped, sumWaits, productWaits, phrase, product, sum⟩
      cases token with
      | lexeme _ | not | opening => cases taken
      | follows =>
          cases taken
          refine ⟨outer, _, surrounds, ⟨sums, products, phrases ++ written ++ [.follows], rfl,
            sumWaits, productWaits, _, rfl, phrase⟩, ?_⟩
          rw [grouped]
          simp only [List.append_assoc, List.replicate_zero, List.append_nil]
      | and =>
          cases taken
          refine ⟨outer, _, surrounds, ⟨sums, products ++ (phrases ++ written) ++ [.and], [], rfl,
            sumWaits, ⟨_, rfl, product⟩, rfl⟩, ?_⟩
          rw [grouped]
          simp only [List.append_assoc, List.replicate_zero, List.append_nil]
      | or =>
          cases taken
          refine ⟨outer, _, surrounds, ⟨group ++ written ++ [.or], [], [], rfl,
            ⟨_, rfl, sum⟩, rfl, rfl⟩, ?_⟩
          simp only [List.append_assoc, List.replicate_zero, List.append_nil]
      | closing =>
          cases around with
          | nil => cases taken
          | cons enclosing around =>
              cases taken
              rcases surrounds with ⟨further, enclosingGroup, surroundsToo, inEnclosing, rfl⟩
              refine ⟨further, enclosingGroup, _, surroundsToo, inEnclosing,
                sum.group.negated enclosing.2, ?_⟩
              simp only [List.append_assoc, List.cons_append, List.nil_append]

theorem Reader.Holds.run {reader next : Reader} {tokens more : List Token}
    (holds : reader.Holds tokens) (taken : reader.run more = some next) :
    next.Holds (tokens ++ more) := by
  induction more generalizing reader tokens with
  | nil =>
      cases taken
      rwa [List.append_nil]
  | cons token more inductionHypothesis =>
      rw [Reader.run] at taken
      cases stepped : reader.step token with
      | none =>
          rw [stepped] at taken
          cases taken
      | some between =>
          rw [stepped] at taken
          rw [← List.singleton_append, ← List.append_assoc]
          exact inductionHypothesis (holds.step stepped) taken

/-- The machine and the rules are one grammar. -/
theorem ofTokens?_eq_some_iff {tokens : List Token} {tree : Tree} :
    ofTokens? tokens = some tree ↔ Writes .sum tokens tree := by
  constructor
  · intro read
    rw [ofTokens?] at read
    split at read
    · rename_i operand pending reached
      cases read
      have start : Reader.Holds (.before {} 0 []) [] := ⟨[], [], rfl, holds_nothing, rfl⟩
      rcases start.run reached with ⟨outer, group, written, rfl, inGroup, writes, whole⟩
      rcases inGroup.over writes with ⟨_, _, _, _, _, _, _, _, sum⟩
      rw [show tokens = group ++ written from whole]
      exact sum
    · cases read
  · intro written
    rcases taken_of_writes written [] [] with ⟨pending, last, reached, rfl⟩
    rw [List.append_nil] at reached
    rw [ofTokens?, reached]
    rfl

end Tree
end Lexemes
end FullText
end Gallery
