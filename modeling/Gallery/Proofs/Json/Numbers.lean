import Gallery.Json.Printer
import Gallery.Proofs.Json.Grammar
import Mathlib.Data.List.TakeWhile

namespace Gallery
namespace Json
namespace Token

/-!
# Literals

A run of letters, digits, signs and points is a literal exactly if the grammar has a
value for it.  A number is taken apart from the left: what is in front of the first
digit is its sign, the run of digits is its whole part, and the rest has to be a
fraction, an exponent or both.
-/

open Text (DenotesDigits)

/-! ## Digits -/

theorem isDigit_eq_isDigit (c : Char) : isDigit c = c.isDigit := by
  rw [Bool.eq_iff_iff, isDigit, Char.isDigit_iff_toNat]
  simp [Char.le_def, UInt32.le_iff_toNat_le]

theorem exists_denotes_iff {digits : List Char} :
    (∃ value, DenotesDigits digits value) ↔ (!digits.isEmpty && digits.all isDigit) = true := by
  simp only [Bool.and_eq_true, Bool.not_eq_true', List.isEmpty_eq_false_iff, List.all_eq_true,
    isDigit_eq_isDigit]
  constructor
  · rintro ⟨value, denotes⟩
    exact ⟨denotes.nonempty, denotes.digits⟩
  · rintro ⟨nonempty, digits⟩
    exact ⟨_, nonempty, digits, rfl⟩

/-! ## Exponents and fractions -/

/-- A sign that may stand in front of an exponent is taken off first. -/
theorem isExponent_cons {mark : Char} {sign digits : List Char}
    (isSign : sign = [] ∨ sign = ['+'] ∨ sign = ['-'])
    (unsigned : sign = [] → ∀ rest, digits ≠ '+' :: rest ∧ digits ≠ '-' :: rest) :
    isExponent (mark :: (sign ++ digits)) =
      ((mark = 'e' || mark = 'E') && !digits.isEmpty && digits.all isDigit) := by
  rcases isSign with rfl | rfl | rfl
  · rw [List.nil_append, isExponent]
    · exact fun rest => (unsigned rfl rest).1
    · exact fun rest => (unsigned rfl rest).2
  · rfl
  · rfl

theorem exists_sign (text : List Char) :
    ∃ sign digits, text = sign ++ digits ∧ (sign = [] ∨ sign = ['+'] ∨ sign = ['-']) ∧
      (sign = [] → ∀ rest, digits ≠ '+' :: rest ∧ digits ≠ '-' :: rest) := by
  by_cases plus : ∃ digits, text = '+' :: digits
  · obtain ⟨digits, rfl⟩ := plus
    exact ⟨['+'], digits, rfl, .inr (.inl rfl), fun noSign => absurd noSign (List.cons_ne_nil _ _)⟩
  by_cases minus : ∃ digits, text = '-' :: digits
  · obtain ⟨digits, rfl⟩ := minus
    exact ⟨['-'], digits, rfl, .inr (.inr rfl), fun noSign => absurd noSign (List.cons_ne_nil _ _)⟩
  · exact ⟨[], text, rfl, .inl rfl,
      fun _ rest => ⟨not_exists.mp plus rest, not_exists.mp minus rest⟩⟩

theorem isExponent_iff {text : List Char} : isExponent text = true ↔ ExponentPart text := by
  constructor
  · intro accepted
    cases text with
    | nil => exact .absent
    | cons mark rest =>
        obtain ⟨sign, digits, rfl, isSign, unsigned⟩ := exists_sign rest
        rw [isExponent_cons isSign unsigned, Bool.and_assoc, Bool.and_eq_true] at accepted
        obtain ⟨isMark, isPower⟩ := accepted
        obtain ⟨value, denotes⟩ := exists_denotes_iff.mpr isPower
        exact .present (by simpa using isMark) isSign denotes
  · rintro (_ | ⟨isMark, isSign, isPower⟩)
    · rfl
    · have noPlus := Text.Numeral.unsigned_of_denotes isPower (show '+'.isDigit = false from rfl)
      have noMinus := Text.Numeral.unsigned_of_denotes isPower (show '-'.isDigit = false from rfl)
      rw [isExponent_cons isSign fun _ rest => ⟨noPlus rest, noMinus rest⟩, Bool.and_assoc,
        exists_denotes_iff.mp ⟨_, isPower⟩, Bool.and_true]
      simpa using isMark

/-- Digits end where no digit follows. -/
theorem takeWhile_digits {digits rest : List Char} (isRun : ∀ c ∈ digits, isDigit c = true)
    (stops : ∀ c ∈ rest.head?, isDigit c = false) :
    (digits ++ rest).takeWhile isDigit = digits ∧ (digits ++ rest).dropWhile isDigit = rest := by
  have ends : rest.takeWhile isDigit = [] ∧ rest.dropWhile isDigit = rest := by
    cases rest with
    | nil => exact ⟨rfl, rfl⟩
    | cons c rest => simp [stops c rfl]
  rw [List.takeWhile_append_of_pos isRun, List.dropWhile_append_of_pos isRun, ends.1, ends.2]
  exact ⟨List.append_nil _, rfl⟩

theorem ExponentPart.stops {text : List Char} (isExponent : ExponentPart text) :
    ∀ c ∈ text.head?, isDigit c = false := by
  rcases isExponent with _ | ⟨rfl | rfl, _, _⟩
  · intro c member
    cases member
  · intro c member
    cases member
    rfl
  · intro c member
    cases member
    rfl

theorem FractionPart.stops {text : List Char} (isFraction : FractionPart text) :
    ∀ c ∈ text.head?, isDigit c = false := by
  rcases isFraction with isExponent | _
  · exact isExponent.stops
  · intro c member
    cases member
    rfl

theorem isFraction_iff {text : List Char} : isFraction text = true ↔ FractionPart text := by
  constructor
  · intro accepted
    by_cases point : ∃ rest, text = '.' :: rest
    · obtain ⟨rest, rfl⟩ := point
      rw [isFraction, Bool.and_eq_true, isExponent_iff] at accepted
      obtain ⟨nonempty, isExponent⟩ := accepted
      have isRun : (!(rest.takeWhile isDigit).isEmpty && (rest.takeWhile isDigit).all isDigit) =
          true := by
        rw [nonempty, List.all_takeWhile]
        rfl
      obtain ⟨value, denotes⟩ := exists_denotes_iff.mpr isRun
      have parts := FractionPart.present denotes isExponent
      rwa [List.takeWhile_append_dropWhile] at parts
    · rw [isFraction, isExponent_iff] at accepted
      · exact .absent accepted
      · exact not_exists.mp point
  · rintro (isExponent | ⟨denotes, isExponent⟩)
    · rw [isFraction]
      · exact isExponent_iff.mpr isExponent
      · rintro rest rfl
        rcases isExponent with _ | ⟨isMark, _⟩
        exact absurd isMark (by decide)
    · have isRun := exists_denotes_iff.mp ⟨_, denotes⟩
      rw [Bool.and_eq_true, List.all_eq_true] at isRun
      obtain ⟨run, behind⟩ := takeWhile_digits isRun.2 isExponent.stops
      rw [isFraction, run, behind, isRun.1, isExponent_iff.mpr isExponent]
      rfl

/-! ## Numbers -/

section Parts

variable {sign digits rest : List Char}

/-- A number is taken apart to its sign, its whole part and what follows. -/
theorem number?_append (isSign : sign = [] ∨ sign = ['-'])
    (isRun : ∀ c ∈ digits, isDigit c = true) (stops : ∀ c ∈ rest.head?, isDigit c = false)
    (unsigned : sign = [] → ∀ others, digits ++ rest ≠ '-' :: others) :
    number? (sign ++ (digits ++ rest)) =
      if 1 < digits.length && digits.head? == some '0' then none
      else (Text.Numeral.natural? digits).bind fun n =>
        if !isFraction rest then none
        else if !rest.isEmpty || sign == ['-'] && n == 0 then
          some (.real (String.ofList (sign ++ (digits ++ rest))))
        else if sign == ['-'] then some (.integer (-(n : Int)))
        else some (.integer n) := by
  obtain ⟨run, behind⟩ := takeWhile_digits isRun stops
  unfold number?
  extract_lets body whole others
  have isBody : body = digits ++ rest := by
    unfold body
    rcases isSign with rfl | rfl
    · rw [List.nil_append]
      split
      · rename_i heq
        exact absurd heq (unsigned rfl _)
      · rfl
    · rfl
  have isWhole : whole = digits := by
    unfold whole
    rw [isBody, run]
  have isRest : others = rest := by
    unfold others
    rw [isBody, behind]
  have isMinus : ((sign ++ (digits ++ rest)).head? == some '-') = (sign == ['-']) := by
    rcases isSign with rfl | rfl
    · rw [List.nil_append]
      cases body : digits ++ rest with
      | nil => rfl
      | cons c others =>
          have noMinus : c ≠ '-' := by
            rintro rfl
            exact unsigned rfl others body
          simp [noMinus]
    · rfl
  rw [isWhole, isRest, isMinus]
  split
  · rfl
  cases Text.Numeral.natural? digits with
  | none => rfl
  | some n =>
      cases isFraction rest <;> cases rest.isEmpty <;> cases sign == ['-'] <;>
        by_cases zero : n = 0 <;> simp [zero]

end Parts

theorem exists_parts (text : List Char) :
    ∃ sign digits rest, text = sign ++ (digits ++ rest) ∧ (sign = [] ∨ sign = ['-']) ∧
      (∀ c ∈ digits, isDigit c = true) ∧ (∀ c ∈ rest.head?, isDigit c = false) ∧
      (sign = [] → ∀ others, digits ++ rest ≠ '-' :: others) := by
  have split (body : List Char) : body = body.takeWhile isDigit ++ body.dropWhile isDigit ∧
      (∀ c ∈ body.takeWhile isDigit, isDigit c = true) ∧
      ∀ c ∈ (body.dropWhile isDigit).head?, isDigit c = false := by
    refine ⟨List.takeWhile_append_dropWhile.symm, fun c => List.mem_takeWhile_imp, ?_⟩
    intro c first
    have notDigit := List.head?_dropWhile_not isDigit body
    rw [first] at notDigit
    exact notDigit
  by_cases minus : ∃ body, text = '-' :: body
  · obtain ⟨body, rfl⟩ := minus
    obtain ⟨parts, isRun, stops⟩ := split body
    exact ⟨['-'], _, _, congrArg ('-' :: ·) parts, .inr rfl, isRun, stops,
      fun noSign => absurd noSign (List.cons_ne_nil _ _)⟩
  · obtain ⟨parts, isRun, stops⟩ := split text
    refine ⟨[], _, _, parts, .inl rfl, isRun, stops, fun _ others starts => ?_⟩
    exact minus ⟨others, parts.trans starts⟩

/-- A run of digits is a whole number unless it has a zero too many. -/
theorem denotesWhole_iff {digits : List Char} {n : Nat} :
    DenotesWhole digits n ↔ Text.Numeral.natural? digits = some n ∧
      (1 < digits.length && digits.head? == some '0') = false := by
  rw [Text.Numeral.natural?_eq_some_iff]
  constructor
  · intro whole
    refine ⟨whole.toDenotesDigits, ?_⟩
    by_cases first : digits.head? = some '0'
    · rw [whole.noLeadingZero first]
      rfl
    · simp [first]
  · rintro ⟨denotes, noZero⟩
    refine { denotes with noLeadingZero := fun first => ?_ }
    obtain ⟨others, rfl⟩ := List.head?_eq_some_iff.mp first
    cases others with
    | nil => rfl
    | cons c others => simp at noZero

theorem DenotesWhole.number? {sign digits rest : List Char} {n : Nat}
    (whole : DenotesWhole digits n) (isSign : sign = [] ∨ sign = ['-'])
    (isRest : FractionPart rest) :
    Token.number? (sign ++ (digits ++ rest)) =
      if !rest.isEmpty || sign == ['-'] && n == 0 then
        some (.real (String.ofList (sign ++ (digits ++ rest))))
      else if sign == ['-'] then some (.integer (-(n : Int)))
      else some (.integer n) := by
  have isRun : ∀ c ∈ digits, isDigit c = true := fun c member =>
    (isDigit_eq_isDigit c).trans (whole.digits c member)
  have unsigned : sign = [] → ∀ others, digits ++ rest ≠ '-' :: others := by
    intro _ others starts
    obtain ⟨c, digits, rfl⟩ := List.exists_cons_of_ne_nil whole.nonempty
    obtain rfl : c = '-' := (List.cons.inj starts).1
    exact absurd (isRun '-' List.mem_cons_self) (by decide)
  obtain ⟨value, noZero⟩ := denotesWhole_iff.mp whole
  rw [number?_append isSign isRun isRest.stops unsigned, noZero, value, Option.bind_some,
    isFraction_iff.mpr isRest]
  rfl

theorem number?_eq_some_iff {text : List Char} {value : Json} :
    number? text = some value ↔ WritesNumber value text := by
  constructor
  · intro accepted
    obtain ⟨sign, digits, rest, rfl, isSign, isRun, stops, unsigned⟩ := exists_parts text
    rw [number?_append isSign isRun stops unsigned] at accepted
    split at accepted
    · cases accepted
    rename_i noZero
    obtain ⟨n, isNumber, isValue⟩ := Option.bind_eq_some_iff.mp accepted
    have whole := denotesWhole_iff.mpr ⟨isNumber, Bool.eq_false_iff.mpr noZero⟩
    split at isValue
    · cases isValue
    rename_i hasFraction
    have isRest : FractionPart rest := isFraction_iff.mp (by simpa using hasFraction)
    split at isValue
    · rename_i isReal
      cases isValue
      exact .real isSign whole isRest (by simpa using isReal)
    · rename_i notReal
      obtain ⟨rfl, isNatural⟩ : rest = [] ∧ (sign = ['-'] → n ≠ 0) := by simpa using notReal
      rw [List.append_nil]
      rcases isSign with rfl | rfl
      · cases isValue
        exact .natural whole
      · cases isValue
        exact .negative whole (isNatural rfl)
  · rintro (whole | ⟨whole, nonzero⟩ | ⟨isSign, whole, isRest, isReal⟩)
    · have read := whole.number? (.inl rfl) (.absent .absent)
      rwa [List.append_nil] at read
    · have read := whole.number? (.inr rfl) (.absent .absent)
      rw [List.append_nil] at read
      simpa [nonzero] using read
    · rw [whole.number? isSign isRest, if_pos]
      simpa using isReal

/-! ## Literals -/

theorem isLiteralChar_of_isDigit {c : Char} (digit : c.isDigit = true) :
    isLiteralChar c = true := by
  simp [isLiteralChar, isDigit_eq_isDigit, digit]

section Characters

variable {text : List Char} {value : Json}

theorem ExponentPart.isLiteralChar_of_mem (isExponent : ExponentPart text) :
    ∀ c ∈ text, isLiteralChar c = true := by
  rcases isExponent with _ | ⟨isMark, isSign, isPower⟩
  · exact List.forall_mem_nil _
  · have mark : ∀ mark, mark = 'e' ∨ mark = 'E' → isLiteralChar mark = true := by
      rintro mark (rfl | rfl) <;> rfl
    have sign : ∀ sign, sign = [] ∨ sign = ['+'] ∨ sign = ['-'] →
        ∀ c ∈ sign, isLiteralChar c = true := by
      rintro sign (rfl | rfl | rfl) <;> exact List.all_eq_true.mp rfl
    exact List.forall_mem_cons.mpr ⟨mark _ isMark, List.forall_mem_append.mpr
      ⟨sign _ isSign, fun c member => isLiteralChar_of_isDigit (isPower.digits c member)⟩⟩

theorem FractionPart.isLiteralChar_of_mem (isFraction : FractionPart text) :
    ∀ c ∈ text, isLiteralChar c = true := by
  rcases isFraction with isExponent | ⟨denotes, isExponent⟩
  · exact isExponent.isLiteralChar_of_mem
  · exact List.forall_mem_cons.mpr ⟨rfl, List.forall_mem_append.mpr
      ⟨fun c member => isLiteralChar_of_isDigit (denotes.digits c member),
        isExponent.isLiteralChar_of_mem⟩⟩

theorem DenotesWhole.isLiteralChar_of_mem {n : Nat} (whole : DenotesWhole text n) :
    ∀ c ∈ text, isLiteralChar c = true :=
  fun c member => isLiteralChar_of_isDigit (whole.digits c member)

/-- A number begins with a minus or a digit, and only characters of literals follow. -/
theorem WritesNumber.spelled (writes : WritesNumber value text) :
    (∃ c rest, text = c :: rest ∧ (c = '-' ∨ c.isDigit = true)) ∧
      ∀ c ∈ text, isLiteralChar c = true := by
  have begins {digits : List Char} {n : Nat} (whole : DenotesWhole digits n) (rest : List Char) :
      ∃ c others, digits ++ rest = c :: others ∧ (c = '-' ∨ c.isDigit = true) := by
    obtain ⟨c, digits, rfl⟩ := List.exists_cons_of_ne_nil whole.nonempty
    exact ⟨c, digits ++ rest, rfl, .inr (whole.digits c List.mem_cons_self)⟩
  rcases writes with whole | ⟨whole, _⟩ | ⟨rfl | rfl, whole, isRest, _⟩
  · have first := begins whole []
    rw [List.append_nil] at first
    exact ⟨first, whole.isLiteralChar_of_mem⟩
  · exact ⟨⟨'-', _, rfl, .inl rfl⟩, List.forall_mem_cons.mpr ⟨rfl, whole.isLiteralChar_of_mem⟩⟩
  · rw [List.nil_append]
    exact ⟨begins whole _, List.forall_mem_append.mpr
      ⟨whole.isLiteralChar_of_mem, isRest.isLiteralChar_of_mem⟩⟩
  · rw [List.singleton_append]
    exact ⟨⟨'-', _, rfl, .inl rfl⟩, List.forall_mem_cons.mpr ⟨rfl, List.forall_mem_append.mpr
      ⟨whole.isLiteralChar_of_mem, isRest.isLiteralChar_of_mem⟩⟩⟩

theorem WritesLiteral.spelled (writes : WritesLiteral value text) :
    text ≠ [] ∧ ∀ c ∈ text, isLiteralChar c = true := by
  rcases writes with _ | _ | _ | writes
  · exact ⟨List.cons_ne_nil _ _, List.all_eq_true.mp rfl⟩
  · exact ⟨List.cons_ne_nil _ _, List.all_eq_true.mp rfl⟩
  · exact ⟨List.cons_ne_nil _ _, List.all_eq_true.mp rfl⟩
  · obtain ⟨⟨c, rest, rfl, _⟩, spelled⟩ := writes.spelled
    exact ⟨List.cons_ne_nil _ _, spelled⟩

theorem literal?_eq_some_iff : literal? text = some value ↔ WritesLiteral value text := by
  constructor
  · intro accepted
    unfold literal? at accepted
    split at accepted
    · subst text
      cases accepted
      exact .null
    split at accepted
    · subst text
      cases accepted
      exact .isTrue
    split at accepted
    · subst text
      cases accepted
      exact .isFalse
    · exact .number (number?_eq_some_iff.mp accepted)
  · rintro (_ | _ | _ | writes)
    · rfl
    · rfl
    · rfl
    · obtain ⟨⟨c, rest, rfl, first⟩, _⟩ := writes.spelled
      -- A number is none of the three names, since those begin with a letter.
      have noName {letter : Char} {name : List Char} (isLetter : letter ≠ '-')
          (notDigit : letter.isDigit = false) : c :: rest ≠ letter :: name := by
        intro same
        obtain rfl : c = letter := (List.cons.inj same).1
        rcases first with minus | digit
        · exact isLetter minus
        · rw [notDigit] at digit
          cases digit
      unfold literal?
      rw [if_neg (noName (by decide) rfl), if_neg (noName (by decide) rfl),
        if_neg (noName (by decide) rfl), number?_eq_some_iff.mpr writes]

end Characters

/-! ## Printed numbers -/

/-- No number is printed with a zero too many. -/
theorem denotesWhole_toDigits (n : Nat) : DenotesWhole (Nat.toDigits 10 n) n := by
  refine denotesWhole_iff.mpr ⟨Text.Numeral.natural?_toDigits n, ?_⟩
  rcases Nat.eq_zero_or_pos n with rfl | positive
  · rfl
  · simp [Text.Numeral.head?_toDigits positive]

/-- The decimal form of an integer is one of its written forms. -/
theorem writesNumber_decimal (n : Int) : WritesNumber (.integer n) (decimal n) := by
  unfold decimal
  split
  · rename_i negative
    have writes := WritesNumber.negative (denotesWhole_toDigits n.natAbs) (by omega)
    rwa [show -(n.natAbs : Int) = n by omega] at writes
  · rename_i natural
    have writes := WritesNumber.natural (denotesWhole_toDigits n.natAbs)
    rwa [show (n.natAbs : Int) = n by omega] at writes

end Token
end Json
end Gallery
