import Gallery.Proofs.Json.Grammar
import Gallery.Proofs.Text.Utf8

namespace Gallery
namespace Json
namespace Quoted

/-!
# Code values of strings

Between quotes stand code values, and the characters that they spell are found when the
string has ended.  No character is half of a surrogate pair, so a code value that is one
has to be joined with its partner, and every other one is a character by itself.
-/

/-! ## Characters -/

/-- No character is half of a surrogate pair. -/
theorem not_isSurrogate (c : Char) :
    isHighSurrogate c.toNat = false ∧ isLowSurrogate c.toNat = false := by
  have valid : c.toNat < 0xD800 ∨ 0xDFFF < c.toNat ∧ c.toNat < 0x110000 := c.valid
  unfold isHighSurrogate isLowSurrogate
  constructor <;> simp <;> omega

/-- Every other code value is a character. -/
theorem toNat_ofNat {code : Nat} (notHigh : isHighSurrogate code = false)
    (notLow : isLowSurrogate code = false) (inRange : code < 0x110000) :
    (Char.ofNat code).toNat = code := by
  simp only [isHighSurrogate, isLowSurrogate, Bool.and_eq_false_iff, decide_eq_false_iff_not]
    at notHigh notLow
  exact Text.toNat_ofNat_of_isValidChar (by unfold Nat.isValidChar; omega)

/-- A pair of surrogates is a character. -/
theorem toNat_ofNat_pair {high low : Nat} (isHigh : isHighSurrogate high = true)
    (isLow : isLowSurrogate low = true) :
    (Char.ofNat (0x10000 + (high - 0xD800) * 0x400 + (low - 0xDC00))).toNat =
      0x10000 + (high - 0xD800) * 0x400 + (low - 0xDC00) := by
  simp only [isHighSurrogate, isLowSurrogate, Bool.and_eq_true, decide_eq_true_eq] at isHigh isLow
  exact Text.toNat_ofNat_of_isValidChar (by unfold Nat.isValidChar; omega)

/-! ## Joining surrogates -/

theorem joinFrom_one (read : List Char) (c : Char) (codes : List Nat) :
    joinFrom read (c.toNat :: codes) = joinFrom (c :: read) codes := by
  obtain ⟨notHigh, notLow⟩ := not_isSurrogate c
  cases codes <;> simp [joinFrom, notHigh, notLow]

theorem joinFrom_pair {c : Char} {high low : Nat} (isHigh : isHighSurrogate high = true)
    (isLow : isLowSurrogate low = true)
    (isCode : c.toNat = 0x10000 + (high - 0xD800) * 0x400 + (low - 0xDC00)) (read : List Char)
    (codes : List Nat) : joinFrom read (high :: low :: codes) = joinFrom (c :: read) codes := by
  rw [joinFrom, if_pos isHigh, if_pos isLow, ← isCode, Char.ofNat_toNat]

theorem joinFrom_of_encodes {text : List Char} {codes : List Nat} (encodes : Encodes text codes)
    (read : List Char) : joinFrom read codes = some (read.reverse ++ text) := by
  induction encodes generalizing read with
  | nil => rw [joinFrom, List.append_nil]
  | one _ inductionHypothesis =>
      rw [joinFrom_one, inductionHypothesis, List.reverse_cons, List.append_assoc,
        List.singleton_append]
  | pair isHigh isLow isCode _ inductionHypothesis =>
      rw [joinFrom_pair isHigh isLow isCode, inductionHypothesis, List.reverse_cons,
        List.append_assoc, List.singleton_append]

theorem exists_encodes_of_joinFrom {read result : List Char} {codes : List Nat}
    (inRange : ∀ code ∈ codes, code < 0x110000) (joined : joinFrom read codes = some result) :
    ∃ text, result = read.reverse ++ text ∧ Encodes text codes := by
  -- A character that has been joined stands at the end of what has been read.
  have further {c : Char} {read : List Char} {codes read' : List Nat}
      (encoded : ∀ text, Encodes text codes → Encodes (c :: text) read')
      (later : ∃ text, result = (c :: read).reverse ++ text ∧ Encodes text codes) :
      ∃ text, result = read.reverse ++ text ∧ Encodes text read' := by
    obtain ⟨text, rfl, encodes⟩ := later
    exact ⟨c :: text, by simp, encoded text encodes⟩
  have single {code : Nat} {codes : List Nat} (notHigh : ¬isHighSurrogate code = true)
      (notLow : ¬isLowSurrogate code = true) (isCode : code < 0x110000) (text : List Char)
      (rest : Encodes text codes) : Encodes (Char.ofNat code :: text) (code :: codes) := by
    have same := toNat_ofNat (Bool.eq_false_iff.mpr notHigh) (Bool.eq_false_iff.mpr notLow) isCode
    have encodes : Encodes (Char.ofNat code :: text) ((Char.ofNat code).toNat :: codes) := .one rest
    rwa [same] at encodes
  fun_induction joinFrom read codes with
  | case1 read =>
      cases joined
      exact ⟨[], (List.append_nil _).symm, .nil⟩
  | case2 | case5 | case6 => cases joined
  | case3 read code notSurrogate =>
      rw [Bool.or_eq_true, not_or] at notSurrogate
      obtain ⟨isCode, _⟩ := List.forall_mem_cons.mp inRange
      cases joined
      exact further (single notSurrogate.1 notSurrogate.2 isCode)
        ⟨[], (List.append_nil _).symm, .nil⟩
  | case4 read high low rest isHigh isLow inductionHypothesis =>
      obtain ⟨_, others⟩ := List.forall_mem_cons.mp inRange
      obtain ⟨_, others⟩ := List.forall_mem_cons.mp others
      exact further (fun _ => .pair isHigh isLow (toNat_ofNat_pair isHigh isLow))
        (inductionHypothesis others joined)
  | case7 read code next rest notHigh notLow inductionHypothesis =>
      obtain ⟨isCode, others⟩ := List.forall_mem_cons.mp inRange
      exact further (single notHigh notLow isCode) (inductionHypothesis others joined)

/-- Code values are joined to the characters that they spell. -/
theorem join_eq_some_iff {codes : List Nat} (inRange : ∀ code ∈ codes, code < 0x110000)
    {text : List Char} : join codes = some text ↔ Encodes text codes := by
  constructor
  · intro joined
    obtain ⟨text, rfl, encodes⟩ := exists_encodes_of_joinFrom inRange joined
    exact encodes
  · intro encodes
    exact joinFrom_of_encodes encodes []

theorem join_eq_none_iff {codes : List Nat} (inRange : ∀ code ∈ codes, code < 0x110000) :
    join codes = none ↔ ∀ text, ¬Encodes text codes := by
  simp only [Option.eq_none_iff_forall_not_mem, Option.mem_def, join_eq_some_iff inRange]

/-! ## Escapes -/

theorem hexValue?_lt {c : Char} {digit : Nat} (isDigit : hexValue? c = some digit) :
    digit < 16 := by
  have zero : '0'.toNat = 48 := rfl
  have nine : '9'.toNat = 57 := rfl
  have small : 'a'.toNat = 97 ∧ 'f'.toNat = 102 := ⟨rfl, rfl⟩
  have capital : 'A'.toNat = 65 ∧ 'F'.toNat = 70 := ⟨rfl, rfl⟩
  unfold hexValue? at isDigit
  simp only [Bool.and_eq_true, decide_eq_true_eq, Char.le_def, UInt32.le_iff_toNat_le,
    Char.toNat_val] at isDigit
  split at isDigit
  · have := Option.some.inj isDigit
    omega
  split at isDigit
  · have := Option.some.inj isDigit
    omega
  split at isDigit
  · have := Option.some.inj isDigit
    omega
  · cases isDigit

theorem Hexadecimal.lt {digits : List Char} {value : Nat} (spelled : Hexadecimal digits value) :
    value < Nat.pow 16 digits.length := by
  induction spelled with
  | nil => exact Nat.one_pos
  | @concat digits value digit c _ isDigit inductionHypothesis =>
      have small := hexValue?_lt isDigit
      rw [List.length_append, List.length_singleton]
      change 16 * value + digit < Nat.pow 16 digits.length * 16
      omega

theorem shortEscape?_lt {letter : Char} {code : Nat} (isShort : shortEscape? letter = some code) :
    code < 0x110000 := by
  unfold shortEscape? at isShort
  split at isShort
  · rename_i itself
    simp only [Bool.or_eq_true, decide_eq_true_eq] at itself
    cases isShort
    rcases itself with (rfl | rfl) | rfl <;> decide
  · -- All other escapes are control characters.
    grind

/-- Whatever is written between quotes is a code point or half of a surrogate pair. -/
theorem Writes.inRange {codes : List Nat} {written : List Char} (writes : Writes codes written) :
    ∀ code ∈ codes, code < 0x110000 := by
  induction writes with
  | nil => exact List.forall_mem_nil _
  | @plain c _ _ _ _ _ _ inductionHypothesis =>
      have valid : c.toNat < 0xD800 ∨ 0xDFFF < c.toNat ∧ c.toNat < 0x110000 := c.valid
      exact List.forall_mem_cons.mpr ⟨by omega, inductionHypothesis⟩
  | short isShort _ inductionHypothesis =>
      exact List.forall_mem_cons.mpr ⟨shortEscape?_lt isShort, inductionHypothesis⟩
  | hexadecimal four spelled _ inductionHypothesis =>
      have small := spelled.lt
      rw [four] at small
      change _ < 0x10000 at small
      exact List.forall_mem_cons.mpr ⟨by omega, inductionHypothesis⟩

/-! ## Printed strings -/

theorem encodes_toNat (text : List Char) : Encodes text (text.map Char.toNat) := by
  induction text with
  | nil => exact .nil
  | cons c text inductionHypothesis => exact .one inductionHypothesis

theorem hexValue?_hexDigit : ∀ digit < 16, hexValue? (hexDigit digit) = some digit := by
  decide

theorem writes_escape (c : Char) : Writes [c.toNat] (escape c) := by
  unfold escape
  split
  · subst c
    exact .short rfl .nil
  split
  · subst c
    exact .short rfl .nil
  split
  · subst c
    exact .short rfl .nil
  split
  · subst c
    exact .short rfl .nil
  split
  · subst c
    exact .short rfl .nil
  split
  · subst c
    exact .short rfl .nil
  split
  · subst c
    exact .short rfl .nil
  split
  · rename_i isControl
    have zero : hexValue? '0' = some 0 := rfl
    have codePoint :
        16 * (16 * (16 * (16 * 0 + 0) + 0) + c.toNat / 16) + c.toNat % 16 = c.toNat := by omega
    have spelled := (((Hexadecimal.nil.concat zero).concat zero).concat
      (hexValue?_hexDigit (c.toNat / 16) (by omega))).concat
      (hexValue?_hexDigit (c.toNat % 16) (by omega))
    rw [codePoint] at spelled
    exact .hexadecimal rfl spelled .nil
  · rename_i notQuote notBackslash _ _ _ _ _ notControl
    exact .plain notQuote notBackslash (Nat.not_lt.mp notControl) .nil

theorem writes_escapes (text : List Char) :
    Writes (text.map Char.toNat) (text.flatMap escape) := by
  induction text with
  | nil => exact .nil
  | cons c text inductionHypothesis => exact (writes_escape c).append inductionHypothesis

end Quoted
end Json
end Gallery
