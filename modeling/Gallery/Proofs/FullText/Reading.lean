import Gallery.FullText.Expression
import Gallery.FullText.Match
import Mathlib.Data.List.Basic
import Mathlib.Data.List.Forall2
import Mathlib.Data.List.TakeWhile
import Mathlib.Tactic.Common

namespace Gallery
namespace FullText

/-!
# Reading back what a match writes

The expression of a match is text, and the index reads it with a scanner and an
operator grammar of its own.  The theorems here follow that text through both
machines and say what comes out: a tree whose truth is what the words were meant
to say.

The text is cut into operands, each a quoted word or a group in parentheses.  An
operand is followed by a blank, by a closing parenthesis or by nothing; the
scanner needs one of these to see that a literal has ended, since a further
quote would continue it.  `Spells` says of one operand that the two machines
take it as a whole, whatever has been read before and whatever follows.  Chains
of operands are then read by induction on their number.

`NOT` binds tighter than `AND`, so in `a AND b NOT c` the machine negates `c`
against `b` alone.  The tree differs from the one that the words suggest, but
not in its truth.
-/

namespace Expression

open Scanner

/-! ## The scanner -/

/-- Whether a text may follow an operand. -/
def EndsOperand : List Char → Prop
  | [] => True
  | c :: _ => c = ' ' ∨ c = ')'

/-- A text that the scanner reads as the given tokens, whatever it has read
before. -/
def Scans (text : List Char) (tokens : List Token) : Prop :=
  ∀ read rest, EndsOperand rest →
    run read .between (text ++ rest) = run (tokens.reverse ++ read) .between rest

/-- A connective with the blanks around it.  It asks nothing of what follows. -/
structure Connects (text : List Char) (token : Token) : Prop where
  blank : text.head? = some ' '
  scanned : ∀ read rest, run read .between (text ++ rest) = run (token :: read) .between rest

/-- Two operands with a connective between them. -/
theorem Scans.connect {first second connective : List Char} {before after : List Token}
    {token : Token} (left : Scans first before) (between : Connects connective token)
    (right : Scans second after) :
    Scans (first ++ (connective ++ second)) (before ++ token :: after) := by
  intro read rest ends
  have apart : EndsOperand (connective ++ (second ++ rest)) := by
    cases connective with
    | nil => cases between.blank
    | cons c tail => exact Or.inl (Option.some.inj between.blank)
  rw [List.append_assoc, List.append_assoc, left read _ apart, between.scanned, right _ rest ends,
    List.reverse_append, List.reverse_cons, List.append_assoc, List.append_assoc]
  rfl

theorem connects_and : Connects " AND ".toList .and := ⟨rfl, fun _ _ => rfl⟩

theorem connects_or : Connects " OR ".toList .or := ⟨rfl, fun _ _ => rfl⟩

theorem connects_not : Connects " NOT ".toList .not := ⟨rfl, fun _ _ => rfl⟩

private theorem run_escaped (word : List Char) (tokens : List Token) (read rest : List Char) :
    run tokens (.literal read)
        (word.flatMap (fun c => if c = '"' then ['"', '"'] else [c]) ++ rest) =
      run tokens (.literal (word.reverse ++ read)) rest := by
  induction word generalizing read with
  | nil => rfl
  | cons c word inductionHypothesis =>
      by_cases isQuote : c = '"'
      · subst isQuote
        simp only [List.flatMap_cons, if_true, List.cons_append, List.nil_append, run, step,
          inductionHypothesis, List.reverse_cons, List.append_assoc]
      · simp only [List.flatMap_cons, if_neg isQuote, List.cons_append, List.nil_append, run, step,
          inductionHypothesis, List.reverse_cons, List.append_assoc]

private theorem run_quote (word : List Char) (tokens : List Token) (rest : List Char)
    (ends : EndsOperand rest) :
    run tokens (.quote word) rest = run (.phrase word.reverse :: tokens) .between rest := by
  cases rest with
  | nil => rfl
  | cons c rest =>
      rcases ends with isBlank | isClosing
      · subst isBlank
        rfl
      · subst isClosing
        rfl

/-- A quoted word is one phrase, whatever characters the word has. -/
theorem scans_quote (word : List Char) : Scans (Match.quote word) [.phrase word] := by
  intro read rest ends
  have opened : run read .between (Match.quote word ++ rest) =
      run read (.literal [])
        (word.flatMap (fun c => if c = '"' then ['"', '"'] else [c]) ++ ('"' :: rest)) := by
    simp only [Match.quote, List.cons_append, List.append_assoc, List.nil_append, run, step,
      Scanner.begin, if_neg (show ¬ ('"' = ' ') by decide),
      if_neg (show ¬ ('"' = '(') by decide), if_neg (show ¬ ('"' = ')') by decide), if_true]
  have closed : run read (.literal (word.reverse ++ [])) ('"' :: rest) =
      run read (.quote word.reverse) rest := by
    simp only [List.append_nil, run, step, if_true]
  rw [opened, run_escaped, closed, run_quote _ _ _ ends, List.reverse_reverse]
  rfl

/-- Parentheses around a text that the scanner reads. -/
theorem Scans.parenthesize {text : List Char} {tokens : List Token} (inner : Scans text tokens) :
    Scans (FullText.parenthesize text) (.opening :: (tokens ++ [.closing])) := by
  intro read rest _
  have opened : run read .between (FullText.parenthesize text ++ rest) =
      run (.opening :: read) .between (text ++ (')' :: rest)) := by
    simp only [FullText.parenthesize, List.cons_append, List.append_assoc, List.nil_append]
    rfl
  rw [opened, inner (.opening :: read) (')' :: rest) (Or.inr rfl)]
  simp only [List.reverse_cons, List.reverse_append, List.append_assoc]
  rfl

/-! ## The operator grammar -/

/-- Tokens that the reader takes for one operand, wherever it expects one. -/
def Takes (tokens : List Token) (operand : Expression) : Prop :=
  ∀ pending around rest,
    Reader.run (.before pending around) (tokens ++ rest) =
      Reader.run (.after operand pending around) rest

/-- A text that stands for one operand. -/
def Spells (text : List Char) (operand : Expression) : Prop :=
  ∃ tokens, Scans text tokens ∧ Takes tokens operand

theorem spells_quote (word : List Char) : Spells (Match.quote word) (.phrase word) :=
  ⟨[.phrase word], scans_quote word, fun _ _ _ => rfl⟩

theorem join_cons_cons (separator : String) (first second : List Char) (parts : List (List Char)) :
    join separator (first :: second :: parts) =
      first ++ (separator.toList ++ join separator (second :: parts)) := by
  simp only [join, List.intercalate_cons_cons, List.append_assoc]

/-- A disjunction of operands inside a group.  The left operand that waits for
its right one is carried through the induction. -/
theorem exists_tokens_of_disjunction {part : List Char} {operand : Expression}
    {parts : List (List Char)} {operands : List Expression} (first : Spells part operand)
    (others : List.Forall₂ Spells parts operands) :
    ∃ tokens, Scans (join " OR " (part :: parts)) tokens ∧
      ∀ sum around rest, ∃ last sum',
        Reader.run (.before { sum := sum } around) (tokens ++ rest) =
          Reader.run (.after last { sum := sum' } around) rest ∧
        joinLeft .or sum' last = operands.foldl .or (joinLeft .or sum operand) := by
  induction others generalizing part operand with
  | nil =>
      rcases first with ⟨tokens, scanned, taken⟩
      refine ⟨tokens, ?_, fun sum around rest => ⟨operand, sum, taken _ _ _, rfl⟩⟩
      simpa only [join, List.intercalate_singleton] using scanned
  | @cons second next parts operands head _ inductionHypothesis =>
      rcases first with ⟨tokens, scanned, taken⟩
      rcases inductionHypothesis head with ⟨later, scannedLater, read⟩
      refine ⟨tokens ++ .or :: later, ?_, fun sum around rest => ?_⟩
      · rw [join_cons_cons]
        exact scanned.connect connects_or scannedLater
      · rcases read (some (joinLeft .or sum operand)) around rest with ⟨last, sum', reached, value⟩
        refine ⟨last, sum', ?_, value⟩
        rw [List.append_assoc, taken]
        exact reached

/-- A conjunction of operands, outside of any sum. -/
theorem exists_tokens_of_conjunction {part : List Char} {operand : Expression}
    {parts : List (List Char)} {operands : List Expression} (first : Spells part operand)
    (others : List.Forall₂ Spells parts operands) :
    ∃ tokens, Scans (join " AND " (part :: parts)) tokens ∧
      ∀ product around rest, ∃ last product',
        Reader.run (.before { product := product } around) (tokens ++ rest) =
          Reader.run (.after last { product := product' } around) rest ∧
        joinLeft .and product' last = operands.foldl .and (joinLeft .and product operand) := by
  induction others generalizing part operand with
  | nil =>
      rcases first with ⟨tokens, scanned, taken⟩
      refine ⟨tokens, ?_, fun product around rest => ⟨operand, product, taken _ _ _, rfl⟩⟩
      simpa only [join, List.intercalate_singleton] using scanned
  | @cons second next parts operands head _ inductionHypothesis =>
      rcases first with ⟨tokens, scanned, taken⟩
      rcases inductionHypothesis head with ⟨later, scannedLater, read⟩
      refine ⟨tokens ++ .and :: later, ?_, fun product around rest => ?_⟩
      · rw [join_cons_cons]
        exact scanned.connect connects_and scannedLater
      · rcases read (some (joinLeft .and product operand)) around rest with
            ⟨last, product', reached, value⟩
        refine ⟨last, product', ?_, value⟩
        rw [List.append_assoc, taken]
        exact reached

/-- A group of alternatives in parentheses is one operand again. -/
theorem spells_group {part : List Char} {operand : Expression} {parts : List (List Char)}
    {operands : List Expression} (first : Spells part operand)
    (others : List.Forall₂ Spells parts operands) :
    Spells (FullText.parenthesize (join " OR " (part :: parts))) (operands.foldl .or operand) := by
  rcases exists_tokens_of_disjunction first others with ⟨tokens, scanned, read⟩
  refine ⟨_, scanned.parenthesize, fun pending around rest => ?_⟩
  rcases read none (pending :: around) (.closing :: rest) with ⟨last, sum, reached, value⟩
  have entered : Reader.run (.before pending around)
      ((.opening :: (tokens ++ [.closing])) ++ rest) =
      Reader.run (.before {} (pending :: around)) (tokens ++ (.closing :: rest)) := by
    simp only [List.cons_append, List.append_assoc, List.nil_append, Reader.run, Reader.step]
  rw [entered, reached]
  change Reader.run (.after (joinLeft .or sum last) pending around) rest = _
  rw [value]
  rfl

/-! ## The truth of chains -/

theorem holds_foldl_and (truth : List Char → Bool) (first : Expression)
    (others : List Expression) :
    (others.foldl .and first).holds truth = (first :: others).all (·.holds truth) := by
  induction others generalizing first with
  | nil => simp only [List.foldl_nil, List.all_cons, List.all_nil, Bool.and_true]
  | cons second others inductionHypothesis =>
      simp only [List.foldl_cons, inductionHypothesis, List.all_cons, holds, Bool.and_assoc]

theorem holds_foldl_or (truth : List Char → Bool) (first : Expression)
    (others : List Expression) :
    (others.foldl .or first).holds truth = (first :: others).any (·.holds truth) := by
  induction others generalizing first with
  | nil => simp only [List.foldl_nil, List.any_cons, List.any_nil, Bool.or_false]
  | cons second others inductionHypothesis =>
      simp only [List.foldl_cons, inductionHypothesis, List.any_cons, holds, Bool.or_assoc]

theorem holds_joinLeft_and_not (truth : List Char → Bool) (left : Option Expression)
    (wanted unwanted : Expression) :
    (joinLeft .and left (.not wanted unwanted)).holds truth =
      ((joinLeft .and left wanted).holds truth && !unwanted.holds truth) := by
  cases left <;> simp only [joinLeft, holds, Bool.and_assoc]

/-- The phrases of an expression, in the order in which they are written. -/
def phrases : Expression → List (List Char)
  | .phrase text => [text]
  | .and left right | .or left right | .not left right => left.phrases ++ right.phrases

/-- A chain has the phrases of its operands, whatever joins them. -/
theorem phrases_foldl {connect : Expression → Expression → Expression}
    (ordered : ∀ left right, (connect left right).phrases = left.phrases ++ right.phrases)
    (first : Expression) (others : List Expression) :
    (others.foldl connect first).phrases = (first :: others).flatMap phrases := by
  induction others generalizing first with
  | nil => rw [List.foldl_nil, List.flatMap_singleton]
  | cons second others inductionHypothesis =>
      rw [List.foldl_cons, inductionHypothesis, List.flatMap_cons, ordered, List.append_assoc,
        List.flatMap_cons, List.flatMap_cons]

theorem flatMap_phrases_map (words : List (List Char)) :
    (words.map Expression.phrase).flatMap phrases = words := by
  rw [List.flatMap_map]
  exact List.flatMap_singleton' words

theorem phrases_joinLeft_and_not (left : Option Expression) (wanted unwanted : Expression) :
    (joinLeft .and left (.not wanted unwanted)).phrases =
      (joinLeft .and left wanted).phrases ++ unwanted.phrases := by
  cases left <;> simp only [joinLeft, phrases, List.append_assoc]

/-- The tree of alternatives, of which there is at least one. -/
def alternatives (first : List Char) (others : List (List Char)) : Expression :=
  (others.map .phrase).foldl .or (.phrase first)

theorem holds_alternatives (truth : List Char → Bool) (first : List Char)
    (others : List (List Char)) :
    (alternatives first others).holds truth = (first :: others).any truth := by
  rw [alternatives, holds_foldl_or, List.any_cons, List.any_cons, List.any_map]
  rfl

theorem phrases_alternatives (first : List Char) (others : List (List Char)) :
    (alternatives first others).phrases = first :: others := by
  rw [alternatives, phrases_foldl fun _ _ => rfl]
  exact flatMap_phrases_map (first :: others)

theorem forall₂_spells_quote (words : List (List Char)) :
    List.Forall₂ Spells (words.map Match.quote) (words.map .phrase) := by
  rw [List.forall₂_map_left_iff, List.forall₂_map_right_iff]
  exact List.forall₂_same.mpr fun word _ => spells_quote word

theorem spells_alternatives (first : List Char) (others : List (List Char)) :
    Spells (FullText.parenthesize (join " OR " ((first :: others).map Match.quote)))
      (alternatives first others) :=
  spells_group (spells_quote first) (forall₂_spells_quote others)

/-! ## Whole expressions -/

theorem scan_of_scans {text : List Char} {tokens : List Token} (scanned : Scans text tokens) :
    scan text = some tokens := by
  have complete := scanned [] [] trivial
  rw [List.append_nil, List.append_nil] at complete
  rw [scan, complete, run, finish, List.reverse_reverse]

theorem scan_ofList {text : List Char} {tokens : List Token} (scanned : Scans text tokens) :
    scan (String.ofList text).toList = some tokens := by
  rw [String.toList_ofList, scan_of_scans scanned]

theorem read?_of_scan {text : String} {tokens : List Token} {tree : Expression}
    (nullFree : '\x00' ∉ text.toList) (scanned : scan text.toList = some tokens)
    (taken : ofTokens? tokens = some tree) : read? text = some tree := by
  have whole : text.toList.takeWhile (· ≠ '\x00') = text.toList := by
    apply List.takeWhile_eq_self_iff.mpr
    intro c member
    exact decide_eq_true fun isNull => nullFree (isNull ▸ member)
  rw [read?, whole, scanned, Option.bind_some, taken]

theorem ofTokens?_of_takes {tokens : List Token} {tree : Expression}
    (taken : Takes tokens tree) : ofTokens? tokens = some tree := by
  have complete := taken {} [] []
  rw [List.append_nil] at complete
  simp only [ofTokens?, complete, Reader.run, Pending.overOr, Pending.overAnd, Pending.overNot,
    joinLeft]

end Expression

namespace Clauses

/-- Whether clauses hold when the truth of each term is given: all required
terms, one of the optional ones if there are any, and no excluded one. -/
def holds {α : Type} (clauses : Clauses α) (truth : α → Bool) : Bool :=
  clauses.required.all truth && (clauses.optional.isEmpty || clauses.optional.any truth) &&
    !clauses.excluded.any truth

end Clauses

end FullText
end Gallery
