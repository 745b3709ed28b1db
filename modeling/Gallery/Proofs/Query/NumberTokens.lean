import Gallery.Proofs.Query.WordBoundaries
import Gallery.Proofs.Text.Digits

namespace Gallery
namespace Query

/-!
# What number tokens ask for

A number token names something to count and a number to compare it with.  The token asks
for a filter if the word is not taken for something else, the number fits, and a unit
stands only on a size.  `NumberToken.AsksFor` says so without looking at how a token is
read.

The recogniser takes decimal digits of every script for a number and the Kelvin sign for
a `k`.  The reader does not follow it there: it knows the digits of ASCII only, and the
Kelvin sign has no multiple of its own.  So tokens in other digits ask for something and
are left out, and a size in Kelvin signs is taken for a number of bytes.  For all other
tokens, reading and asking are the same.
-/

/-- Word characters, and at least one of them. -/
def IsWord (text : List Char) : Prop :=
  text ≠ [] ∧ ∀ c ∈ text, Text.isWordChar c = true

namespace NumberToken

/-! ## The parts of a token -/

/-- What the recogniser guarantees of the parts of a token. -/
structure Proper (token : NumberToken) : Prop where
  word : IsWord token.word
  counted : token.digits ≠ []
  decimal : ∀ c ∈ token.digits, Text.isDecimalDigit c = true
  unit : ∀ c ∈ token.unit, isUnit c = true

/-- A token as it stands in a line. -/
def written (token : NumberToken) : List Char :=
  token.word ++ (token.comparison.symbol.toList ++ (token.digits ++ token.unit.toList))

theorem recognise_written {token : NumberToken} {rest : List Char} (proper : token.Proper)
    (boundary : atBoundary rest = true) :
    recognise (token.written ++ rest) = some (token, token.written.length - 1) := by
  have found := recognise_parts token.comparison proper.word.1 proper.word.2 proper.counted
    proper.decimal proper.unit boundary
  have reached : token.written.length - 1 = token.word.length - 1 + token.comparison.symbol.length +
      token.digits.length + token.unit.toList.length := by
    have positive := List.length_pos_iff.mpr proper.word.1
    simp only [written, List.length_append, String.length_toList]
    omega
  rw [reached, ← found]
  simp only [written, List.append_assoc]

/-- A token is found where it is written and the word that it ends with does not go on. -/
theorem recognise_eq_some_iff {line : List Char} {token : NumberToken} {further : Nat} :
    recognise line = some (token, further) ↔
      token.Proper ∧ further = token.written.length - 1 ∧
        ∃ rest, line = token.written ++ rest ∧ atBoundary rest = true := by
  constructor
  · intro recognised
    have opens : Opens line := by
      rw [← recognise_ne_none_iff, recognised]
      exact Option.some_ne_none _
    rcases opens with ⟨word, comparison, digits, unit, rest, rfl, named, inWord, counted, isDigits,
      isUnits, boundary⟩
    have proper : Proper ⟨word, comparison, digits, unit⟩ :=
      ⟨⟨named, inWord⟩, counted, isDigits, isUnits⟩
    have same : word ++ (comparison.symbol.toList ++ (digits ++ (unit.toList ++ rest))) =
        written ⟨word, comparison, digits, unit⟩ ++ rest := by
      simp only [written, List.append_assoc]
    rw [same, recognise_written proper boundary] at recognised
    cases recognised
    exact ⟨proper, rfl, rest, same, boundary⟩
  · rintro ⟨proper, rfl, rest, rfl, boundary⟩
    exact recognise_written proper boundary

theorem proper_of_recognise {line : List Char} {token : NumberToken} {further : Nat}
    (recognised : recognise line = some (token, further)) : token.Proper :=
  (recognise_eq_some_iff.mp recognised).1

theorem proper_of_mem {line : List Char} {token : NumberToken}
    (member : token ∈ tokens (numberPieces line)) : token.Proper := by
  rcases exists_recognised_of_mem member with ⟨_, _, recognised⟩
  exact proper_of_recognise recognised

/-! ## What a word counts -/

/-- What the word of a token counts.  The words with a meaning of their own are known in any
case of their letters, and every other word counts the tags of the namespace spelled just so. -/
inductive Counts (word : List Char) : Subject → Prop
  | pages : Text.lowerAscii (String.ofList word) = "pages" → Counts word .pages
  | tags : Text.lowerAscii (String.ofList word) = "tags" → Counts word .tagCount
  | sources : Text.lowerAscii (String.ofList word) = "sources" → Counts word .sourceCount
  | size : Text.lowerAscii (String.ofList word) = "size" → Counts word .size
  | namespaced : Text.lowerAscii (String.ofList word) ∉ "pages" :: reservedScopes →
      Counts word (.namespaceCount (String.ofList word))

theorem subject?_eq_some_iff {word : List Char} {subject : Subject} :
    subject? word = some subject ↔ Counts word subject := by
  unfold subject?
  constructor
  · intro read
    dsimp only at read
    split at read
    · cases read
      exact .pages ‹_›
    · cases read
      exact .tags ‹_›
    · cases read
      exact .sources ‹_›
    · cases read
      exact .size ‹_›
    · rename_i noPages _ _ _
      split at read
      · cases read
      · rename_i unreserved
        cases read
        refine .namespaced fun reserved => ?_
        rcases List.mem_cons.mp reserved with isPages | isReserved
        · exact noPages isPages
        · exact unreserved (List.contains_iff_mem.mpr isReserved)
  · rintro (isPages | isTags | isSources | isSize | other)
    · simp only [isPages]
    · simp only [isTags]
    · simp only [isSources]
    · simp only [isSize]
    · dsimp only
      have unreserved : ∀ {text}, text ∈ "pages" :: reservedScopes →
          Text.lowerAscii (String.ofList word) ≠ text := fun member same => other (same ▸ member)
      split
      · exact absurd ‹_› (unreserved (by decide))
      · exact absurd ‹_› (unreserved (by decide))
      · exact absurd ‹_› (unreserved (by decide))
      · exact absurd ‹_› (unreserved (by decide))
      · rw [if_neg]
        intro reserved
        exact other (List.mem_cons_of_mem _ (List.contains_iff_mem.mp reserved))

/-! ## What a token asks for -/

/-- The filter that a token asks for.  Its number fits, its word counts something, a unit stands
only on a size, and the scaled number fits too, being the value of the filter. -/
structure AsksFor (token : NumberToken) (filter : NumberFilter) : Prop where
  fits : (Text.denoted token.digits : Int) ≤ Int64.maxValue.toInt
  counts : Counts token.word filter.subject
  unit : token.unit.isSome → filter.subject = .size
  comparison : filter.comparison = token.comparison
  value : filter.value.toInt = Text.denoted token.digits * multiplier token.unit

/-- A number written in the digits of ASCII. -/
def IsAscii (token : NumberToken) : Prop :=
  ∀ c ∈ token.digits, c.isDigit = true

theorem numberFilter?_eq (token : NumberToken) :
    token.numberFilter? =
      (Text.readInt64 token.digits).bind fun number =>
        (subject? token.word).bind fun subject =>
          (if subject = .size then Text.Numeral.int64? (number.toInt * multiplier token.unit)
          else if token.unit.isNone then some number
          else none).map fun value => ⟨subject, token.comparison, value⟩ := by
  unfold numberFilter?
  cases Text.readInt64 token.digits with
  | none => rfl
  | some number =>
      cases subject? token.word with
      | none => rfl
      | some subject =>
          change (if subject = .size then _ else _) = (ite _ _ _ : Option Int64).map _
          split
          · cases Text.Numeral.int64? (number.toInt * multiplier token.unit) <;> rfl
          · split <;> rfl

/-- A token is read as what it asks for, if it is written in the digits of ASCII, and not at all
if it is not. -/
theorem numberFilter?_eq_some_iff {token : NumberToken} {filter : NumberFilter}
    (proper : token.Proper) :
    token.numberFilter? = some filter ↔ token.AsksFor filter ∧ token.IsAscii := by
  have readNumber : ∀ {number}, Text.readInt64 token.digits = some number ↔
      token.IsAscii ∧ number.toInt = Text.denoted token.digits :=
    Text.readInt64_eq_some_iff proper.counted proper.decimal
  rw [numberFilter?_eq]
  constructor
  · intro read
    rcases Option.bind_eq_some_iff.mp read with ⟨number, isNumber, read⟩
    rcases Option.bind_eq_some_iff.mp read with ⟨subject, isSubject, read⟩
    rcases Option.map_eq_some_iff.mp read with ⟨value, isValue, rfl⟩
    rcases readNumber.mp isNumber with ⟨ascii, same⟩
    have fits : (Text.denoted token.digits : Int) ≤ Int64.maxValue.toInt :=
      same ▸ Text.Numeral.toInt_le_maxValue number
    have unitAndValue : (token.unit.isSome → subject = .size) ∧
        value.toInt = Text.denoted token.digits * multiplier token.unit := by
      split at isValue
      · rename_i isSize
        exact ⟨fun _ => isSize, same ▸ Text.Numeral.int64?_eq_some_iff.mp isValue⟩
      · split at isValue
        · rename_i unitless
          cases isValue
          rw [Option.isNone_iff_eq_none] at unitless
          rw [unitless]
          exact ⟨fun impossible => absurd impossible (by decide), same.trans (Int.mul_one _).symm⟩
        · cases isValue
    exact ⟨⟨fits, subject?_eq_some_iff.mp isSubject, unitAndValue.1, rfl, unitAndValue.2⟩, ascii⟩
  · rintro ⟨asks, ascii⟩
    rcases Text.Numeral.exists_toInt_eq (Int.natCast_nonneg _) asks.fits with ⟨number, same⟩
    rw [readNumber.mpr ⟨ascii, same⟩, Option.bind_some, subject?_eq_some_iff.mpr asks.counts,
      Option.bind_some, ← asks.comparison]
    refine Option.map_eq_some_iff.mpr ⟨filter.value, ?_, rfl⟩
    by_cases isSize : filter.subject = .size
    · rw [if_pos isSize, Text.Numeral.int64?_eq_some_iff, same]
      exact asks.value
    · have unitless : token.unit = none := by
        cases unit : token.unit with
        | none => rfl
        | some c => exact absurd (asks.unit (unit ▸ rfl)) isSize
      have value : filter.value.toInt = number.toInt := by
        rw [asks.value, unitless, same]
        exact Int.mul_one _
      rw [if_neg isSize, unitless, if_pos Option.isNone_none, Int64.toInt_inj.mp value]

theorem multiplier_nonneg (unit : Option Char) : 0 ≤ multiplier unit := by
  unfold multiplier
  split
  · split <;> decide
  · decide

/-- No token asks for a number below zero. -/
theorem AsksFor.value_nonneg {token : NumberToken} {filter : NumberFilter}
    (asks : token.AsksFor filter) : 0 ≤ filter.value.toInt := by
  rw [asks.value]
  exact Int.mul_nonneg (Int.natCast_nonneg _) (multiplier_nonneg _)

/-! ## Units of size -/

/-- The number of bytes that a unit stands for.  The Kelvin sign is a `k` up to case. -/
def bytes : Char → Int
  | 'k' | 'K' | '\u212a' => 1024
  | 'm' | 'M' => 1024 * 1024
  | 'g' | 'G' => 1024 * 1024 * 1024
  | _ => 1

theorem multiplier_of_isUnit {c : Char} (unit : isUnit c = true) (plain : c ≠ '\u212a') :
    multiplier (some c) = bytes c := by
  have letters : c ∈ ['k', 'K', 'm', 'M', 'g', 'G'] :=
    (List.mem_cons.mp (mem_of_isUnit unit)).resolve_left plain
  have checked : ['k', 'K', 'm', 'M', 'g', 'G'].all
      (fun d => multiplier (some d) = bytes d) = true := by decide
  exact of_decide_eq_true (List.all_eq_true.mp checked c letters)

theorem one_lt_bytes {c : Char} (unit : isUnit c = true) : 1 < bytes c := by
  have checked : ['\u212a', 'k', 'K', 'm', 'M', 'g', 'G'].all (fun d => 1 < bytes d) = true := by
    decide
  exact of_decide_eq_true (List.all_eq_true.mp checked c (mem_of_isUnit unit))

/-- A token with a unit is scaled: it stands for a size of exactly its number times the bytes of
its unit, or for nothing because this product is too large. -/
def Scales (token : NumberToken) (c : Char) : Prop :=
  let size := Text.denoted token.digits * bytes c
  (∃ value, token.numberFilter? = some ⟨.size, token.comparison, value⟩ ∧ value.toInt = size) ∨
    (token.numberFilter? = none ∧ Int64.maxValue.toInt < size)

section Units

variable {token : NumberToken} {c : Char}

/-- A size in the digits of ASCII is scaled by the multiple that the reader knows for its unit. -/
theorem scaled_by_multiplier (proper : token.Proper) (ascii : token.IsAscii)
    (counts : Counts token.word .size) (positive : 1 ≤ multiplier token.unit) :
    (∃ value, token.numberFilter? = some ⟨.size, token.comparison, value⟩ ∧
        value.toInt = Text.denoted token.digits * multiplier token.unit) ∨
      (token.numberFilter? = none ∧
        Int64.maxValue.toInt < Text.denoted token.digits * multiplier token.unit) := by
  have nonnegative : (0 : Int) ≤ Text.denoted token.digits := Int.natCast_nonneg _
  by_cases fits : Text.denoted token.digits * multiplier token.unit ≤ Int64.maxValue.toInt
  · have numberFits : (Text.denoted token.digits : Int) ≤ Int64.maxValue.toInt :=
      calc (Text.denoted token.digits : Int)
        _ = Text.denoted token.digits * 1 := (Int.mul_one _).symm
        _ ≤ Text.denoted token.digits * multiplier token.unit :=
          Int.mul_le_mul_of_nonneg_left positive nonnegative
        _ ≤ Int64.maxValue.toInt := fits
    rcases Text.Numeral.exists_toInt_eq (Int.mul_nonneg nonnegative (multiplier_nonneg _)) fits with
      ⟨value, same⟩
    exact Or.inl ⟨value, (numberFilter?_eq_some_iff proper).mpr
      ⟨⟨numberFits, counts, fun _ => rfl, rfl, same⟩, ascii⟩, same⟩
  · refine Or.inr ⟨Option.eq_none_iff_forall_ne_some.mpr fun filter read => fits ?_,
      Int.lt_of_not_ge fits⟩
    have asks := ((numberFilter?_eq_some_iff proper).mp read).1
    exact asks.value ▸ Text.Numeral.toInt_le_maxValue filter.value

/-- The units that the reader knows are scaled. -/
theorem scales_of_known (proper : token.Proper) (counts : Counts token.word .size)
    (unit : token.unit = some c) (ascii : token.IsAscii) (known : c ≠ '\u212a') :
    token.Scales c := by
  have isUnit : isUnit c = true := proper.unit c unit
  have multiple : multiplier token.unit = bytes c := by
    rw [unit]
    exact multiplier_of_isUnit isUnit known
  have scaled := scaled_by_multiplier proper ascii counts (multiple ▸ (one_lt_bytes isUnit).le)
  rwa [multiple] at scaled

/-- A number of kelvins is taken for a number of bytes. -/
theorem scales_kelvin_iff (proper : token.Proper) (counts : Counts token.word .size)
    (unit : token.unit = some '\u212a') (ascii : token.IsAscii) :
    token.Scales '\u212a' ↔
      Text.denoted token.digits = 0 ∨ Int64.maxValue.toInt < Text.denoted token.digits := by
  have multiple : multiplier token.unit = 1 := by
    rw [unit]
    decide
  have read := scaled_by_multiplier proper ascii counts multiple.ge
  have kilobytes : bytes '\u212a' = 1024 := rfl
  rw [multiple, Int.mul_one] at read
  rw [Scales, kilobytes]
  rcases read with ⟨value, found, same⟩ | ⟨nothing, large⟩
  · have fits := same ▸ Text.Numeral.toInt_le_maxValue value
    rw [found]
    constructor
    · rintro (⟨other, isOther, scaled⟩ | ⟨impossible, _⟩)
      · cases isOther
        omega
      · cases impossible
    · rintro (zero | large)
      · exact Or.inl ⟨value, rfl, by omega⟩
      · omega
  · refine iff_of_true (Or.inr ⟨nothing, ?_⟩) (Or.inr large)
    omega

/-- A number in other digits is dropped, whatever it is. -/
theorem scales_of_other_iff (proper : token.Proper) (other : ¬ token.IsAscii) :
    token.Scales c ↔ Int64.maxValue.toInt < Text.denoted token.digits * bytes c := by
  have nothing : token.numberFilter? = none :=
    Option.eq_none_iff_forall_ne_some.mpr fun filter read =>
      other ((numberFilter?_eq_some_iff proper).mp read).2
  rw [Scales, nothing]
  simp only [reduceCtorEq, false_and, exists_false, true_and, false_or]

/-- Sizes with a unit are scaled, unless the unit is the Kelvin sign or the digits are not those of
ASCII.  The Kelvin sign is passed over, which shows unless the number is zero or too large itself.
Other digits are dropped, which is right only where the size would be too large. -/
theorem sized_tokens_scale_iff (line : String) (found : token ∈ tokens (numberPieces line.toList))
    (size : Text.lowerAscii (String.ofList token.word) = "size") (unit : token.unit = some c) :
    token.Scales c ↔
      (token.IsAscii → c = '\u212a' →
        Text.denoted token.digits = 0 ∨ Int64.maxValue.toInt < Text.denoted token.digits) ∧
      (¬ token.IsAscii → Int64.maxValue.toInt < Text.denoted token.digits * bytes c) := by
  have proper := proper_of_mem found
  by_cases ascii : token.IsAscii
  · simp only [ascii, forall_const, not_true_eq_false, false_imp_iff, and_true]
    by_cases kelvin : c = '\u212a'
    · subst kelvin
      rw [scales_kelvin_iff proper (.size size) unit ascii]
      exact (imp_iff_right rfl).symm
    · exact iff_of_true (scales_of_known proper (.size size) unit ascii kelvin)
        fun same => absurd same kelvin
  · rw [scales_of_other_iff proper ascii]
    simp only [ascii, false_imp_iff, not_false_eq_true, forall_const, true_and]

/-- Both a size that fits and one that is just too large, in two spellings. -/
theorem gigabytes_scale :
    ∃ small large : NumberToken,
      tokens (numberPieces "SIZE<=8589934591g sIzE>8589934592G".toList) = [small, large] ∧
      small.Scales 'g' ∧ large.Scales 'G' ∧
      small.numberFilter? = some ⟨.size, .atMost, 9223372035781033984⟩ ∧
      large.numberFilter? = none := by
  have read : tokens (numberPieces "SIZE<=8589934591g sIzE>8589934592G".toList) =
      [⟨"SIZE".toList, .atMost, "8589934591".toList, some 'g'⟩,
        ⟨"sIzE".toList, .greater, "8589934592".toList, some 'G'⟩] := by decide +kernel
  have plain : ∀ {token : NumberToken} {c : Char}, token.digits.all Char.isDigit = true →
      c ≠ '\u212a' → (token.IsAscii → c = '\u212a' →
        Text.denoted token.digits = 0 ∨ Int64.maxValue.toInt < Text.denoted token.digits) ∧
      (¬ token.IsAscii → Int64.maxValue.toInt < Text.denoted token.digits * bytes c) :=
    fun ascii known => ⟨fun _ same => absurd same known,
      fun other => absurd (List.all_eq_true.mp ascii) other⟩
  refine ⟨_, _, read, ?_, ?_, by decide +kernel, by decide +kernel⟩
  · exact (sized_tokens_scale_iff "SIZE<=8589934591g sIzE>8589934592G" (read ▸ List.mem_cons_self)
      (by decide +kernel) rfl).mpr (plain (by decide) (by decide))
  · exact (sized_tokens_scale_iff "SIZE<=8589934591g sIzE>8589934592G"
      (read ▸ List.mem_cons_of_mem _ List.mem_cons_self) (by decide +kernel) rfl).mpr
        (plain (by decide) (by decide))

/-- Five kelvins are read as five bytes. -/
theorem kelvins_are_read_as_bytes :
    ∃ token : NumberToken,
      tokens (numberPieces "size>5\u212a".toList) = [token] ∧
      Text.lowerAscii (String.ofList token.word) = "size" ∧ token.unit = some '\u212a' ∧
      (parse "size>5\u212a").numbers = [⟨.size, .greater, 5⟩] ∧ ¬ token.Scales '\u212a' := by
  have read : tokens (numberPieces "size>5\u212a".toList) =
      [⟨"size".toList, .greater, ['5'], some '\u212a'⟩] := by decide +kernel
  have found : NumberToken.numberFilter? ⟨"size".toList, .greater, ['5'], some '\u212a'⟩ =
      some ⟨.size, .greater, 5⟩ := by decide +kernel
  refine ⟨_, read, by decide +kernel, rfl, by decide +kernel, ?_⟩
  rintro (⟨value, isValue, scaled⟩ | ⟨impossible, _⟩)
  · rw [found] at isValue
    cases isValue
    exact absurd scaled (by decide)
  · rw [found] at impossible
    cases impossible

end Units

end NumberToken

end Query
end Gallery
