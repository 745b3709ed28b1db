import Gallery.Text.Composed.Table

namespace Gallery
namespace Text
namespace Composed

/-!
# Composed form

A text is in composed form when letters and the marks on them are written with
single characters wherever Unicode has them.  The form is reached by taking
every character apart, sorting the marks after each letter by their class, and
putting together what composes.  Marks of equal class keep their order, because
their order shows.
-/

/-- The decomposition table. -/
def decompositions : List (List Nat) :=
  Hex.rows decompositionText

/-- The composition table. -/
def compositions : List (List Nat) :=
  Hex.rows compositionText

/-- The intervals of marks with their classes. -/
def classes : List (List Nat) :=
  Hex.rows classText

/-- The combining class of a code point, which is zero for letters. -/
def classOf (code : Nat) : Nat :=
  if code < 0x300 then 0
  else
    (classes.findSome? fun row =>
      match row with
      | [first, last, value] => if first ≤ code && code ≤ last then some value else none
      | _ => none).getD 0

/-- The first and the number of Hangul syllables, and what a syllable is made
of: a leading consonant, one of 21 vowels and one of 28 tails, the first of
which is no tail. -/
def isSyllable (code : Nat) : Bool :=
  0xAC00 ≤ code && code < 0xAC00 + 11172

/-- Takes a code point apart completely. -/
def decompose (code : Nat) : List Nat :=
  if code < 0xC0 then [code]
  else if isSyllable code then
    let index := code - 0xAC00
    let letters := [0x1100 + index / 588, 0x1161 + index % 588 / 28]
    if index % 28 = 0 then letters else letters ++ [0x11A7 + index % 28]
  else
    match decompositions.find? (·.head? == some code) with
    | some (_ :: parts) => parts
    | _ => [code]

/-- The code point that two others compose to. -/
def compose? (first second : Nat) : Option Nat :=
  if 0x1100 ≤ first && first < 0x1113 && 0x1161 ≤ second && second < 0x1176 then
    some (0xAC00 + (first - 0x1100) * 588 + (second - 0x1161) * 28)
  else if isSyllable first && (first - 0xAC00) % 28 = 0 && 0x11A8 ≤ second && second < 0x11C3 then
    some (first + (second - 0x11A7))
  else
    compositions.findSome? fun row =>
      match row with
      | [a, b, whole] => if a = first && b = second then some whole else none
      | _ => none

/-- Puts a mark in front of the marks of a greater class that stand before it in
a backwards list; a letter stays where it is. -/
def insertMark (mark : Nat) : List Nat → List Nat
  | [] => [mark]
  | last :: before =>
      if classOf mark ≠ 0 && classOf mark < classOf last then last :: insertMark mark before
      else mark :: last :: before

/-- The code points with the marks after each letter sorted by class. -/
def sortMarks (codes : List Nat) : List Nat :=
  (codes.foldl (fun sorted code => insertMark code sorted) []).reverse

/-- Composes the rest of a decomposed text.  The finished part and the marks
after the current letter stand backwards. -/
def composeFrom (done : List Nat) (letter : Option Nat) (marks : List Nat) : List Nat → List Nat
  | [] => (marks ++ letter.toList ++ done).reverse
  | code :: rest =>
      let free := match marks with
        | [] => true
        | mark :: _ => decide (classOf mark < classOf code)
      match letter with
      | none =>
          if classOf code = 0 then composeFrom done (some code) [] rest
          else composeFrom (code :: done) none [] rest
      | some first =>
          match (if free then compose? first code else none) with
          | some whole => composeFrom done (some whole) marks rest
          | none =>
              if classOf code = 0 then
                composeFrom (marks ++ first :: done) (some code) [] rest
              else composeFrom done (some first) (code :: marks) rest

/-- The composed form of a text. -/
def ofText (text : List Char) : List Char :=
  let codes := sortMarks (text.flatMap fun c => decompose c.toNat)
  (composeFrom [] none [] codes).map Char.ofNat

end Composed
end Text
end Gallery
