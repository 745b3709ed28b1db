import Gallery.Proofs.Json.Numbers
import Gallery.Proofs.Json.Strings
import Mathlib.Data.List.Chain

namespace Gallery
namespace Json
namespace Token

/-!
# Scanning a layout

The scanner finds the tokens of a layout, and what it accepts is a layout of the tokens
that it finds.  One way goes through the written forms: each is taken as a whole, and the
scanner goes on with what follows.  Only a literal needs to know what that is, since it
ends where something follows that belongs to no literal.

The other way goes through the steps of the scanner.  At every place in a text, what has
been read is a layout of whole tokens with the beginning of another one behind it, and
each step adds one character to that.
-/

/-! ## Layouts are scanned -/

/-- The tokens that the scanner makes of a text, whatever it has read before. -/
def Reads (text : List Char) (tokens : List Token) : Prop :=
  ∀ before, scanFrom before .between text = some (before.reverse ++ tokens)

theorem scanFrom_of_step {tokens tokens' : List Token} {scanner scanner' : Scanner} {c : Char}
    (taken : step tokens scanner c = some (tokens', scanner')) (text : List Char) :
    scanFrom tokens scanner (c :: text) = scanFrom tokens' scanner' text := by
  cases scanner <;> simp only [scanFrom, taken]

theorem reads_nil : Reads [] [] := by
  intro before
  simp [scanFrom]

/-- Hexadecimal digits are collected up to the one that is still missing. -/
theorem scanFrom_hexadecimal {digits : List Char} {value : Nat}
    (spelled : Quoted.Hexadecimal digits value) (before : List Token) (codes : List Nat)
    (rest : List Char) {missing : Nat} (positive : 0 < missing) :
    scanFrom before (.hexadecimal codes 0 (digits.length + missing)) (digits ++ rest) =
      scanFrom before (.hexadecimal codes value missing) rest := by
  induction spelled generalizing rest missing with
  | nil => rw [List.length_nil, Nat.zero_add, List.nil_append]
  | @concat digits value digit c spelled isDigit inductionHypothesis =>
      have taken : step before (.hexadecimal codes value (missing + 1)) c =
          some (before, .hexadecimal codes (16 * value + digit) missing) := by
        simp only [step, isDigit, Option.map_some, Nat.add_sub_cancel]
        rw [if_neg (by omega)]
      rw [List.length_append, List.length_singleton, Nat.add_assoc, Nat.add_comm 1,
        List.append_assoc, List.singleton_append, inductionHypothesis _ (Nat.succ_pos _),
        scanFrom_of_step taken]

/-- Four hexadecimal digits are read as one code value. -/
theorem scanFrom_fourDigits {digits : List Char} {code : Nat} (four : digits.length = 4)
    (spelled : Quoted.Hexadecimal digits code) (before : List Token) (codes : List Nat)
    (rest : List Char) :
    scanFrom before (.hexadecimal codes 0 4) (digits ++ rest) =
      scanFrom before (.quoted (code :: codes)) rest := by
  cases spelled with
  | nil => cases four
  | @concat digits value digit c spelled isDigit =>
      have last : step before (.hexadecimal codes value 1) c =
          some (before, .quoted ((16 * value + digit) :: codes)) := by
        simp only [step, isDigit, Option.map_some, Nat.le_refl, if_true]
      have three : digits.length = 3 := by
        rw [List.length_append, List.length_singleton] at four
        omega
      have collected := scanFrom_hexadecimal spelled before codes (c :: rest) Nat.one_pos
      rw [three] at collected
      rw [List.append_assoc, List.singleton_append, collected, scanFrom_of_step last]

/-- What is written for code values is read as these. -/
theorem scanFrom_writes {codes : List Nat} {written : List Char}
    (writes : Quoted.Writes codes written) (before : List Token) (read : List Nat)
    (rest : List Char) :
    scanFrom before (.quoted read) (written ++ rest) =
      scanFrom before (.quoted (codes.reverse ++ read)) rest := by
  have opens (read : List Nat) : step before (.quoted read) '\\' = some (before, .escaped read) :=
    rfl
  induction writes generalizing read with
  | nil => rfl
  | @plain c codes written notQuote notBackslash notControl _ inductionHypothesis =>
      have taken : step before (.quoted read) c = some (before, .quoted (c.toNat :: read)) := by
        simp only [step, notQuote, notBackslash, Nat.not_lt.mpr notControl, if_false]
      rw [List.cons_append, scanFrom_of_step taken, inductionHypothesis, List.reverse_cons,
        List.append_assoc, List.singleton_append]
  | @short letter code codes written isShort _ inductionHypothesis =>
      have notHexadecimal : letter ≠ 'u' := by
        rintro rfl
        cases isShort
      have taken : step before (.escaped read) letter = some (before, .quoted (code :: read)) := by
        simp only [step, notHexadecimal, if_false, isShort, Option.map_some]
      rw [List.cons_append, List.cons_append, scanFrom_of_step (opens read), scanFrom_of_step taken,
        inductionHypothesis, List.reverse_cons, List.append_assoc, List.singleton_append]
  | @hexadecimal digits code codes written four spelled _ inductionHypothesis =>
      have begun : step before (.escaped read) 'u' = some (before, .hexadecimal read 0 4) := rfl
      simp only [List.cons_append, List.append_assoc]
      rw [scanFrom_of_step (opens read), scanFrom_of_step begun,
        scanFrom_fourDigits four spelled, inductionHypothesis, List.reverse_cons,
        List.append_assoc, List.singleton_append]

/-- Whether no literal goes on at the beginning of a text. -/
def Apart (text : List Char) : Prop :=
  ∀ c ∈ text.head?, isLiteralChar c = false

section Reading

variable {text : List Char} {tokens : List Token}

theorem Reads.space {c : Char} (isBlank : isSpace c = true) (reads : Reads text tokens) :
    Reads (c :: text) tokens := by
  intro before
  have skipped : step before .between c = some (before, .between) := by
    simp only [step, begin, isBlank, if_true]
  rw [scanFrom_of_step skipped, reads]

theorem Reads.punctuation {c : Char} {token : Token}
    (isToken : ∀ before, begin before c = some (token :: before, .between))
    (reads : Reads text tokens) : Reads (c :: text) (token :: tokens) := by
  intro before
  have begun : step before .between c = some (token :: before, .between) := isToken before
  rw [scanFrom_of_step begun, reads, List.reverse_cons, List.append_assoc, List.singleton_append]

theorem Reads.string {codes : List Nat} {written : List Char} (quoted : Quoted.Writes codes written)
    (reads : Reads text tokens) :
    Reads ('"' :: (written ++ ['"']) ++ text)
      (.string ((Quoted.join codes).map String.ofList) :: tokens) := by
  intro before
  have opens : step before .between '"' = some (before, .quoted []) := rfl
  have closes : step before (.quoted codes.reverse) '"' =
      some (.string ((Quoted.join codes).map String.ofList) :: before, .between) := by
    simp only [step, if_true, List.reverse_reverse]
  rw [List.cons_append, List.append_assoc, scanFrom_of_step opens, scanFrom_writes quoted,
    List.append_nil, List.singleton_append, scanFrom_of_step closes, reads, List.reverse_cons,
    List.append_assoc, List.singleton_append]

theorem isLiteralChar_of_isSpace {c : Char} (isBlank : isSpace c = true) :
    isLiteralChar c = false := by
  simp only [isSpace, Bool.or_eq_true, decide_eq_true_eq] at isBlank
  rcases isBlank with ((rfl | rfl) | rfl) | rfl <;> rfl

theorem begin_literal {c : Char} (isLiteral : isLiteralChar c = true) (before : List Token) :
    begin before c = some (before, .literal [c]) := by
  have notBlank : isSpace c = false := by
    apply Bool.eq_false_iff.mpr
    intro isBlank
    rw [isLiteralChar_of_isSpace isBlank] at isLiteral
    cases isLiteral
  have notQuote : c ≠ '"' := by
    rintro rfl
    exact absurd isLiteral (by decide)
  simp [begin, notBlank, notQuote, isLiteral]

theorem scanFrom_literal {literal : List Char} (isLiteral : ∀ c ∈ literal, isLiteralChar c = true)
    (before : List Token) (read rest : List Char) :
    scanFrom before (.literal read) (literal ++ rest) =
      scanFrom before (.literal (literal.reverse ++ read)) rest := by
  induction literal generalizing read with
  | nil => rfl
  | cons c others inductionHypothesis =>
      have goesOn : step before (.literal read) c = some (before, .literal (c :: read)) := by
        simp [step, isLiteral c List.mem_cons_self]
      rw [List.cons_append, scanFrom_of_step goesOn,
        inductionHypothesis fun other member => isLiteral other (List.mem_cons_of_mem c member)]
      simp

/-- A literal ends where something else follows. -/
theorem scanFrom_endLiteral {read : List Char} {value : Json}
    (isValue : literal? read.reverse = some value) (before : List Token) (apart : Apart text) :
    scanFrom before (.literal read) text = scanFrom (.literal value :: before) .between text := by
  have ended : endLiteral before read = some (.literal value :: before) := by
    simp [endLiteral, isValue]
  cases text with
  | nil => simp [scanFrom, ended]
  | cons c rest =>
      have notLiteral : isLiteralChar c = false := apart c rfl
      simp only [scanFrom, step, notLiteral, Bool.false_eq_true, if_false, ended, Option.bind_some]

theorem Reads.literal {literal : List Char} {value : Json} (isLiteral : WritesLiteral value literal)
    (apart : Apart text) (reads : Reads text tokens) :
    Reads (literal ++ text) (.literal value :: tokens) := by
  intro before
  obtain ⟨nonempty, spelled⟩ := isLiteral.spelled
  obtain ⟨c, others, rfl⟩ := List.exists_cons_of_ne_nil nonempty
  obtain ⟨first, rest⟩ := List.forall_mem_cons.mp spelled
  have begun : step before .between c = some (before, .literal [c]) := begin_literal first before
  have whole : literal? (others.reverse ++ [c]).reverse = some value := by
    rw [List.reverse_append, List.reverse_reverse, List.reverse_singleton, List.singleton_append]
    exact literal?_eq_some_iff.mpr isLiteral
  rw [List.cons_append, scanFrom_of_step begun, scanFrom_literal rest,
    scanFrom_endLiteral whole before apart, reads, List.reverse_cons, List.append_assoc,
    List.singleton_append]

end Reading

/-! ## Tokens that need nothing between them -/

/-- Whether a token is a literal. -/
def IsLiteral : Token → Prop
  | .literal _ => True
  | _ => False

/-- Whether no literal stands directly behind another one. -/
def Separate (tokens : List Token) : Prop :=
  tokens.IsChain fun token next => token.IsLiteral → ¬next.IsLiteral

theorem Layout.apart {tokens : List Token} {text : List Char} (layout : Layout tokens text)
    (other : ∀ token ∈ tokens.head?, ¬token.IsLiteral) : Apart text := by
  intro c first
  cases layout with
  | nil => cases first
  | blank isBlank _ =>
      cases first
      exact isLiteralChar_of_isSpace isBlank
  | token writes _ =>
      cases writes with
      | literal _ => exact absurd trivial (other _ rfl)
      | openArray | closeArray | openObject | closeObject | comma | colon | string _ _
      | garbled _ _ =>
          cases first
          rfl

theorem Layout.reads {tokens : List Token} {text : List Char} (layout : Layout tokens text)
    (separate : Separate tokens) : Reads text tokens := by
  induction layout with
  | nil => exact reads_nil
  | blank isBlank _ inductionHypothesis => exact (inductionHypothesis separate).space isBlank
  | @token token tokens written text writes layout inductionHypothesis =>
      obtain ⟨meets, others⟩ := List.isChain_cons.mp separate
      have reads := inductionHypothesis others
      cases writes with
      | openArray | closeArray | openObject | closeObject | comma | colon =>
          exact reads.punctuation fun _ => rfl
      | string encodes quoted =>
          have joined := (Quoted.join_eq_some_iff quoted.inRange).mpr encodes
          have string := reads.string quoted
          rwa [joined] at string
      | garbled noText quoted =>
          have notJoined := (Quoted.join_eq_none_iff quoted.inRange).mpr noText
          have string := reads.string quoted
          rwa [notJoined] at string
      | literal isLiteral =>
          exact reads.literal isLiteral (layout.apart fun next first => meets next first trivial)

/-- The scanner finds the tokens of a layout. -/
theorem Layout.scan {tokens : List Token} {text : List Char} (layout : Layout tokens text)
    (separate : Separate tokens) : Token.scan text = some tokens :=
  layout.reads separate []

/-! ## What is scanned is a layout -/

/-- What has been read of a text: whole tokens, and the beginning of another one.  The tokens
are kept backwards, and so is what the scanner collects. -/
inductive Reached (tokens : List Token) : Scanner → List Char → Prop
  | between {text : List Char} (layout : Layout tokens.reverse text) :
      Reached tokens .between text
  | literal {text read : List Char} (layout : Layout tokens.reverse text) :
      Reached tokens (.literal read) (text ++ read.reverse)
  | quoted {text written : List Char} {codes : List Nat} (layout : Layout tokens.reverse text)
      (writes : Quoted.Writes codes.reverse written) :
      Reached tokens (.quoted codes) (text ++ '"' :: written)
  | escaped {text written : List Char} {codes : List Nat} (layout : Layout tokens.reverse text)
      (writes : Quoted.Writes codes.reverse written) :
      Reached tokens (.escaped codes) (text ++ '"' :: (written ++ ['\\']))
  | hexadecimal {text written digits : List Char} {codes : List Nat} {value missing : Nat}
      (layout : Layout tokens.reverse text) (writes : Quoted.Writes codes.reverse written)
      (spelled : Quoted.Hexadecimal digits value) (four : digits.length + missing = 4)
      (positive : 0 < missing) :
      Reached tokens (.hexadecimal codes value missing)
        (text ++ '"' :: (written ++ '\\' :: 'u' :: digits))

section Steps

variable {tokens tokens' : List Token} {scanner scanner' : Scanner} {text : List Char} {c : Char}

theorem Layout.concat {token : Token} {written : List Char} (layout : Layout tokens.reverse text)
    (writes : Writes token written) : Layout (token :: tokens).reverse (text ++ written) := by
  have more := layout.append (.token writes .nil)
  rwa [List.append_nil, ← List.reverse_cons] at more

theorem writes_of_punctuation {token : Token} (isToken : punctuation? c = some token) :
    Writes token [c] := by
  unfold punctuation? at isToken
  split at isToken
  · subst c
    cases isToken
    exact .openArray
  split at isToken
  · subst c
    cases isToken
    exact .closeArray
  split at isToken
  · subst c
    cases isToken
    exact .openObject
  split at isToken
  · subst c
    cases isToken
    exact .closeObject
  split at isToken
  · subst c
    cases isToken
    exact .comma
  split at isToken
  · subst c
    cases isToken
    exact .colon
  · cases isToken

theorem Layout.begin (layout : Layout tokens.reverse text)
    (begun : Token.begin tokens c = some (tokens', scanner')) :
    Reached tokens' scanner' (text ++ [c]) := by
  unfold Token.begin at begun
  split at begun
  · rename_i isBlank
    cases begun
    have more := layout.append (.blank isBlank .nil)
    rw [List.append_nil] at more
    exact .between more
  split at begun
  · rename_i isQuote
    cases begun
    rw [isQuote]
    exact .quoted layout .nil
  split at begun
  · cases begun
    exact .literal layout
  · obtain ⟨token, isToken, reached⟩ := Option.map_eq_some_iff.mp begun
    cases reached
    exact .between (layout.concat (writes_of_punctuation isToken))

theorem Layout.endLiteral {read : List Char} (layout : Layout tokens.reverse text)
    (ended : Token.endLiteral tokens read = some tokens') :
    Layout tokens'.reverse (text ++ read.reverse) := by
  obtain ⟨value, isValue, rfl⟩ := Option.map_eq_some_iff.mp ended
  exact layout.concat (.literal (literal?_eq_some_iff.mp isValue))

/-- What stands between quotes is a string, whether there is a text for it or not. -/
theorem writes_string {codes : List Nat} {written : List Char}
    (writes : Quoted.Writes codes written) :
    Writes (.string ((Quoted.join codes).map String.ofList)) ('"' :: (written ++ ['"'])) := by
  cases joined : Quoted.join codes with
  | none => exact .garbled ((Quoted.join_eq_none_iff writes.inRange).mp joined) writes
  | some text => exact .string ((Quoted.join_eq_some_iff writes.inRange).mp joined) writes

section Strings

variable {written : List Char} {codes : List Nat}

theorem Reached.stepQuoted (layout : Layout tokens.reverse text)
    (writes : Quoted.Writes codes.reverse written)
    (taken : Token.step tokens (.quoted codes) c = some (tokens', scanner')) :
    Reached tokens' scanner' (text ++ '"' :: (written ++ [c])) := by
  rw [Token.step] at taken
  split at taken
  · rename_i isQuote
    cases taken
    rw [isQuote]
    exact .between (layout.concat (writes_string writes))
  split at taken
  · rename_i isBackslash
    cases taken
    rw [isBackslash]
    exact .escaped layout writes
  split at taken
  · cases taken
  · rename_i notQuote notBackslash notControl
    cases taken
    refine .quoted layout ?_
    rw [List.reverse_cons]
    exact writes.append (.plain notQuote notBackslash (Nat.not_lt.mp notControl) .nil)

theorem Reached.stepEscaped (layout : Layout tokens.reverse text)
    (writes : Quoted.Writes codes.reverse written)
    (taken : Token.step tokens (.escaped codes) c = some (tokens', scanner')) :
    Reached tokens' scanner' (text ++ '"' :: (written ++ ['\\', c])) := by
  rw [Token.step] at taken
  split at taken
  · rename_i isHexadecimal
    cases taken
    rw [isHexadecimal]
    exact .hexadecimal layout writes .nil rfl (by decide)
  · obtain ⟨code, isShort, same⟩ := Option.map_eq_some_iff.mp taken
    cases same
    refine .quoted layout ?_
    rw [List.reverse_cons]
    exact writes.append (.short isShort .nil)

theorem Reached.stepHexadecimal {digits : List Char} {value missing : Nat}
    (layout : Layout tokens.reverse text) (writes : Quoted.Writes codes.reverse written)
    (spelled : Quoted.Hexadecimal digits value) (four : digits.length + missing = 4)
    (positive : 0 < missing)
    (taken : Token.step tokens (.hexadecimal codes value missing) c = some (tokens', scanner')) :
    Reached tokens' scanner' (text ++ '"' :: (written ++ '\\' :: 'u' :: (digits ++ [c]))) := by
  rw [Token.step] at taken
  obtain ⟨digit, isDigit, same⟩ := Option.map_eq_some_iff.mp taken
  have longer := spelled.concat isDigit
  have length : (digits ++ [c]).length = digits.length + 1 := by
    rw [List.length_append, List.length_singleton]
  split at same
  · cases same
    refine .quoted layout ?_
    rw [List.reverse_cons]
    have last := Quoted.Writes.hexadecimal (by omega) longer .nil
    rw [List.append_nil] at last
    exact writes.append last
  · cases same
    exact .hexadecimal layout writes longer (by omega) (by omega)

end Strings

/-- Each step of the scanner adds one character to what has been read. -/
theorem Reached.step (reached : Reached tokens scanner text)
    (taken : Token.step tokens scanner c = some (tokens', scanner')) :
    Reached tokens' scanner' (text ++ [c]) := by
  cases reached with
  | between layout => exact layout.begin taken
  | literal layout =>
      rw [Token.step] at taken
      split at taken
      · cases taken
        rw [List.append_assoc, ← List.reverse_cons]
        exact .literal layout
      · obtain ⟨tokens, ended, begun⟩ := Option.bind_eq_some_iff.mp taken
        exact (layout.endLiteral ended).begin begun
  | quoted layout writes =>
      rw [List.append_assoc, List.cons_append]
      exact .stepQuoted layout writes taken
  | escaped layout writes =>
      rw [List.append_assoc, List.cons_append, List.append_assoc]
      exact .stepEscaped layout writes taken
  | hexadecimal layout writes spelled four positive =>
      rw [List.append_assoc, List.cons_append, List.append_assoc, List.cons_append,
        List.cons_append]
      exact .stepHexadecimal layout writes spelled four positive taken

end Steps

/-- What the scanner accepts is a layout of the tokens that it finds. -/
theorem Reached.layout {tokens result : List Token} {scanner : Scanner} {before text : List Char}
    (reached : Reached tokens scanner before)
    (scanned : scanFrom tokens scanner text = some result) : Layout result (before ++ text) := by
  induction text generalizing tokens scanner before with
  | nil =>
      rw [List.append_nil]
      cases reached with
      | between layout =>
          cases scanned
          exact layout
      | literal layout =>
          obtain ⟨ended, isEnd, rfl⟩ := Option.map_eq_some_iff.mp scanned
          exact layout.endLiteral isEnd
      | quoted | escaped | hexadecimal => cases scanned
  | cons c text inductionHypothesis =>
      cases taken : Token.step tokens scanner c with
      | none => simp [scanFrom, taken] at scanned
      | some next =>
          obtain ⟨tokens', scanner'⟩ := next
          rw [scanFrom_of_step taken] at scanned
          have whole := inductionHypothesis (reached.step taken) scanned
          rwa [List.append_assoc, List.singleton_append] at whole

theorem layout_of_scan {tokens : List Token} {text : List Char}
    (scanned : scan text = some tokens) : Layout tokens text := by
  have start : Reached [] .between [] := .between .nil
  exact start.layout scanned

end Token
end Json
end Gallery
