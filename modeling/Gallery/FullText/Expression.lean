namespace Gallery
namespace FullText

/-!
# Reading match expressions

An expression is read with the precedence of its engine: `NOT` binds tighter
than `AND`, which binds tighter than `OR`, and all three group to the left.  The
reader is a machine that keeps, for every open parenthesis, the left operands
that still wait for their right ones.  The text ends at a null character, as
every text handed to the engine does.
-/

/-- A match expression as a tree. -/
inductive Expression where
  | phrase (text : List Char)
  | and (left right : Expression)
  | or (left right : Expression)
  | not (left right : Expression)
deriving DecidableEq, Repr

namespace Expression

/-- The truth of an expression when the truth of its phrases is given. -/
def holds (truth : List Char → Bool) : Expression → Bool
  | .phrase text => truth text
  | .and left right => left.holds truth && right.holds truth
  | .or left right => left.holds truth || right.holds truth
  | .not left right => left.holds truth && !right.holds truth

/-- A token of an expression. -/
inductive Token where
  | phrase (text : List Char)
  | and
  | or
  | not
  | opening
  | closing
deriving DecidableEq, Repr

/-- Where the scanner stands: between tokens, inside a connective, inside a
string literal, or after a quote in it, which ends the literal unless another
one follows.  What has been read of a token is kept backwards. -/
inductive Scanner where
  | between
  | word (read : List Char)
  | literal (read : List Char)
  | quote (read : List Char)

namespace Scanner

/-- The connective with the given letters. -/
def connective? (letters : List Char) : Option Token :=
  if letters = ['A', 'N', 'D'] then some .and
  else if letters = ['O', 'R'] then some .or
  else if letters = ['N', 'O', 'T'] then some .not
  else none

/-- Begins the token that `c` starts, on top of the tokens read. -/
def begin (tokens : List Token) (c : Char) : List Token × Scanner :=
  if c = ' ' then (tokens, .between)
  else if c = '(' then (.opening :: tokens, .between)
  else if c = ')' then (.closing :: tokens, .between)
  else if c = '"' then (tokens, .literal [])
  else (tokens, .word [c])

/-- Whether a connective may go on with the character. -/
def isLetter (c : Char) : Bool :=
  'A' ≤ c && c ≤ 'Z'

/-- One step of the scanner.  The tokens read so far are kept backwards. -/
def step (tokens : List Token) : Scanner → Char → Option (List Token × Scanner)
  | between, c => some (begin tokens c)
  | word read, c =>
      if isLetter c then some (tokens, .word (c :: read))
      else (connective? read.reverse).map fun token => begin (token :: tokens) c
  | literal read, c =>
      if c = '"' then some (tokens, .quote read) else some (tokens, .literal (c :: read))
  | quote read, c =>
      if c = '"' then some (tokens, .literal ('"' :: read))
      else some (begin (.phrase read.reverse :: tokens) c)

/-- The tokens at the end of the text, in order. -/
def finish (tokens : List Token) : Scanner → Option (List Token)
  | between => some tokens.reverse
  | word read => (connective? read.reverse).map fun token => (token :: tokens).reverse
  | literal _ => none
  | quote read => some (.phrase read.reverse :: tokens).reverse

/-- Reads the rest of the text. -/
def run (tokens : List Token) (scanner : Scanner) : List Char → Option (List Token)
  | [] => scanner.finish tokens
  | c :: text =>
      match scanner.step tokens c with
      | some (tokens, next) => run tokens next text
      | none => none

end Scanner

/-- The tokens of an expression. -/
def scan (text : List Char) : Option (List Token) :=
  Scanner.run [] .between text

/-- The operands of a group that wait for what follows: the left side of an
`OR`, then of an `AND`, then of a `NOT`. -/
structure Pending where
  sum : Option Expression := none
  product : Option Expression := none
  difference : Option Expression := none

/-- Joins a left operand, if there is one, with a right operand. -/
def joinLeft (join : Expression → Expression → Expression) :
    Option Expression → Expression → Expression
  | none, right => right
  | some left, right => join left right

namespace Pending

/-- The group up to an operand, as far as `NOT` reaches. -/
def overNot (pending : Pending) (operand : Expression) : Expression :=
  joinLeft .not pending.difference operand

/-- The group up to an operand, as far as `AND` reaches. -/
def overAnd (pending : Pending) (operand : Expression) : Expression :=
  joinLeft .and pending.product (pending.overNot operand)

/-- The whole group up to an operand. -/
def overOr (pending : Pending) (operand : Expression) : Expression :=
  joinLeft .or pending.sum (pending.overAnd operand)

end Pending

/-- Where the reader stands: before an operand or after one.  The groups around
the innermost one are kept from the inside out. -/
inductive Reader where
  | before (pending : Pending) (around : List Pending)
  | after (operand : Expression) (pending : Pending) (around : List Pending)

/-- One step of the reader. -/
def Reader.step : Reader → Token → Option Reader
  | .before pending around, .phrase text => some (.after (.phrase text) pending around)
  | .before pending around, .opening => some (.before {} (pending :: around))
  | .before _ _, _ => none
  | .after operand pending around, .not =>
      some (.before { pending with difference := some (pending.overNot operand) } around)
  | .after operand pending around, .and =>
      some (.before { sum := pending.sum, product := some (pending.overAnd operand) } around)
  | .after operand pending around, .or =>
      some (.before { sum := some (pending.overOr operand) } around)
  | .after operand pending (outer :: around), .closing =>
      some (.after (pending.overOr operand) outer around)
  | .after _ _ _, _ => none

/-- The reader after a list of tokens. -/
def Reader.run : Reader → List Token → Option Reader
  | reader, [] => some reader
  | reader, token :: tokens =>
      match reader.step token with
      | some next => next.run tokens
      | none => none

/-- The expression that a list of tokens spells. -/
def ofTokens? (tokens : List Token) : Option Expression :=
  match Reader.run (.before {} []) tokens with
  | some (.after operand pending []) => some (pending.overOr operand)
  | _ => none

/-- Reads an expression. -/
def read? (text : String) : Option Expression :=
  (scan (text.toList.takeWhile (· ≠ '\x00'))).bind ofTokens?

end Expression

end FullText
end Gallery
