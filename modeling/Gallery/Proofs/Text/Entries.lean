import Gallery.Proofs.Text.Digits
import Gallery.Text.Blank
import Gallery.Text.Split
import Mathlib.Data.List.TakeWhile

namespace Gallery
namespace Text

/-!
# Numbers and lists of entries, as they are written

A numeral is a run of ASCII digits with at most one sign in front of it, and reading is
the other way round: a number is read exactly if the text is one of its numerals.  The
same holds with blanks around the numeral.  A list is written with a separator between
its entries, none of which has the separator in it, and so it is split in one way only.
-/

/-! ## Numerals -/

/-- A nonempty run of ASCII digits and the number that it denotes. -/
structure DenotesDigits (text : List Char) (number : Nat) : Prop where
  nonempty : text ≠ []
  digits : ∀ c ∈ text, c.isDigit = true
  value : Nat.ofDigitChars 10 text 0 = number

/-- A numeral of a natural number, which may have a plus in front of it. -/
inductive DenotesNatural : List Char → Nat → Prop where
  | plain {text number} : DenotesDigits text number → DenotesNatural text number
  | plus {text number} : DenotesDigits text number → DenotesNatural ('+' :: text) number

/-- A numeral of an integer, which may have either sign in front of it. -/
inductive DenotesInteger : List Char → Int → Prop where
  | natural {text number} : DenotesNatural text number → DenotesInteger text number
  | minus {text number} : DenotesDigits text number → DenotesInteger ('-' :: text) (-number)

namespace Numeral

theorem natural?_eq_some_iff {text : List Char} {number : Nat} :
    natural? text = some number ↔ DenotesDigits text number := by
  constructor
  · intro read
    have nonempty : text ≠ [] := by
      rintro rfl
      cases read
    rw [natural?_eq nonempty] at read
    have digits : ∀ c ∈ text, c.isDigit = true := by
      intro c member
      by_contra other
      rw [valueFrom_of_other member (Bool.eq_false_iff.mpr other)] at read
      cases read
    rw [valueFrom_of_digits digits] at read
    exact ⟨nonempty, digits, Option.some.inj read⟩
  · intro denotes
    rw [natural?_eq denotes.nonempty, valueFrom_of_digits denotes.digits, denotes.value]

/-- A run of digits does not begin with a sign. -/
theorem unsigned_of_denotes {text : List Char} {number : Nat} (denotes : DenotesDigits text number)
    {sign : Char} (isSign : sign.isDigit = false) (rest : List Char) : text ≠ sign :: rest := by
  rintro rfl
  have digit := denotes.digits sign List.mem_cons_self
  rw [isSign] at digit
  cases digit

theorem unsigned?_eq_some_iff {text : List Char} {number : Nat} :
    unsigned? text = some number ↔ DenotesNatural text number := by
  constructor
  · intro read
    unfold unsigned? at read
    split at read
    · exact .plus (natural?_eq_some_iff.mp read)
    · exact .plain (natural?_eq_some_iff.mp read)
  · rintro (denotes | denotes)
    · unfold unsigned?
      split
      · exact absurd rfl (unsigned_of_denotes denotes (by decide) _)
      · exact natural?_eq_some_iff.mpr denotes
    · exact natural?_eq_some_iff.mpr denotes

theorem integer?_minus (text : List Char) :
    integer? ('-' :: text) = (natural? text).map fun n => -Int.ofNat n := by
  rw [integer?]
  cases natural? text <;> rfl

theorem integer?_plus (text : List Char) :
    integer? ('+' :: text) = (natural? text).map Int.ofNat := by
  rw [integer?]
  cases natural? text <;> rfl

theorem integer?_eq_some_iff {text : List Char} {number : Int} :
    integer? text = some number ↔ DenotesInteger text number := by
  constructor
  · intro read
    by_cases minus : ∃ rest, text = '-' :: rest
    · rcases minus with ⟨rest, rfl⟩
      rw [integer?_minus, Option.map_eq_some_iff] at read
      rcases read with ⟨n, isRead, rfl⟩
      exact .minus (natural?_eq_some_iff.mp isRead)
    by_cases plus : ∃ rest, text = '+' :: rest
    · rcases plus with ⟨rest, rfl⟩
      rw [integer?_plus, Option.map_eq_some_iff] at read
      rcases read with ⟨n, isRead, rfl⟩
      exact .natural (.plus (natural?_eq_some_iff.mp isRead))
    · rw [integer?_unsigned (not_exists.mp minus) (not_exists.mp plus),
        Option.map_eq_some_iff] at read
      rcases read with ⟨n, isRead, rfl⟩
      exact .natural (.plain (natural?_eq_some_iff.mp isRead))
  · rintro ((denotes | denotes) | denotes)
    · rw [integer?_unsigned (unsigned_of_denotes denotes (by decide))
        (unsigned_of_denotes denotes (by decide)), natural?_eq_some_iff.mpr denotes]
      rfl
    · rw [integer?_plus, natural?_eq_some_iff.mpr denotes]
      rfl
    · rw [integer?_minus, natural?_eq_some_iff.mpr denotes]
      rfl

theorem uint64?_eq_some_iff {n : Nat} {x : UInt64} : uint64? n = some x ↔ x.toNat = n := by
  constructor
  · intro found
    unfold uint64? at found
    split at found
    · rename_i bounds
      simp only [Bool.and_eq_true, decide_eq_true_eq] at bounds
      rw [← Option.some.inj found, Int.toNat_natCast]
      exact UInt64.toNat_ofNat_of_lt' (Int.ofNat_lt.mp bounds.2)
    · cases found
  · rintro rfl
    exact uint64?_toNat x

end Numeral

theorem readInt64_iff_denotes {text : List Char} {x : Int64} :
    readInt64 text = some x ↔ DenotesInteger text x.toInt := by
  rw [readInt64, Option.bind_eq_some_iff, ← Numeral.integer?_eq_some_iff]
  constructor
  · rintro ⟨n, read, fits⟩
    rw [read, Numeral.int64?_eq_some_iff.mp fits]
  · exact fun read => ⟨x.toInt, read, Numeral.int64?_eq_some_iff.mpr rfl⟩

theorem readUInt64_iff_denotes {text : List Char} {x : UInt64} :
    readUInt64 text = some x ↔ DenotesNatural text x.toNat := by
  rw [readUInt64, Option.bind_eq_some_iff, ← Numeral.unsigned?_eq_some_iff]
  constructor
  · rintro ⟨n, read, fits⟩
    rw [read, Numeral.uint64?_eq_some_iff.mp fits]
  · exact fun read => ⟨x.toNat, read, Numeral.uint64?_eq_some_iff.mpr rfl⟩

/-! ## Blanks around a text -/

/-- A text with nothing but blanks before and behind another one. -/
def Padded (text inner : List Char) : Prop :=
  ∃ before after, text = before ++ inner ++ after ∧ (∀ c ∈ before, isBlank c = true) ∧
    ∀ c ∈ after, isBlank c = true

theorem padded_trim (text : List Char) : Padded text (trim text) := by
  have start := List.takeWhile_append_dropWhile (p := isBlank) (l := text)
  have stop := List.takeWhile_append_dropWhile (p := isBlank) (l := (trimStart text).reverse)
  refine ⟨text.takeWhile isBlank, ((trimStart text).reverse.takeWhile isBlank).reverse, ?_,
    fun _ member => List.mem_takeWhile_imp member,
    fun _ member => List.mem_takeWhile_imp (List.mem_reverse.mp member)⟩
  calc
    text = text.takeWhile isBlank ++ trimStart text := start.symm
    _ = text.takeWhile isBlank ++ (trim text ++
        ((trimStart text).reverse.takeWhile isBlank).reverse) := by
      rw [trim, trimEnd, ← List.reverse_append, stop, List.reverse_reverse]
    _ = _ := (List.append_assoc _ _ _).symm

/-- Blanks are dropped up to the first character that is none. -/
theorem dropWhile_isBlank {before text : List Char} (blank : ∀ c ∈ before, isBlank c = true)
    (first : ∀ c, text.head? = some c → isBlank c = false) :
    (before ++ text).dropWhile isBlank = text := by
  rw [List.dropWhile_append_of_pos blank]
  cases text with
  | nil => rfl
  | cons c rest => exact List.dropWhile_cons_of_neg (Bool.eq_false_iff.mp (first c rfl))

/-- A text without blanks is what is left of it with blanks around it. -/
theorem trim_of_padded {text inner : List Char} (padded : Padded text inner)
    (free : ∀ c ∈ inner, isBlank c = false) : trim text = inner := by
  rcases padded with ⟨before, after, rfl, blankBefore, blankAfter⟩
  have blankReversed : ∀ c ∈ after.reverse, isBlank c = true := fun c member =>
    blankAfter c (List.mem_reverse.mp member)
  cases inner with
  | nil =>
      have allBlank : ∀ c ∈ before ++ [] ++ after, isBlank c = true := by
        rw [List.append_nil]
        exact List.forall_mem_append.mpr ⟨blankBefore, blankAfter⟩
      rw [trim, trimStart, List.dropWhile_eq_nil_iff.mpr allBlank]
      rfl
  | cons first rest =>
      have last : ∀ c, (first :: rest).reverse.head? = some c → isBlank c = false :=
        fun c isLast => free c (List.mem_reverse.mp (List.mem_of_mem_head? isLast))
      rw [trim, trimStart, List.append_assoc, dropWhile_isBlank blankBefore, trimEnd,
        List.reverse_append, dropWhile_isBlank blankReversed last, List.reverse_reverse]
      rintro c ⟨⟩
      exact free first List.mem_cons_self

/-- A text without blanks has none around it. -/
theorem trim_of_not_blank {text : List Char} (free : ∀ c ∈ text, isBlank c = false) :
    trim text = text :=
  trim_of_padded ⟨[], [], (List.append_nil text).symm, List.forall_mem_nil _,
    List.forall_mem_nil _⟩ free

theorem DenotesInteger.not_isBlank {text : List Char} {number : Int}
    (denotes : DenotesInteger text number) : ∀ c ∈ text, isBlank c = false := by
  have ofDigits : ∀ {text : List Char} {number : Nat}, DenotesDigits text number →
      ∀ c ∈ text, isBlank c = false := fun denotes c member =>
    isBlank_eq_false_of_isDigit (denotes.digits c member)
  have plus : isBlank '+' = false := by decide
  have minus : isBlank '-' = false := by decide
  rcases denotes with (denotes | denotes) | denotes
  · exact ofDigits denotes
  · exact List.forall_mem_cons.mpr ⟨plus, ofDigits denotes⟩
  · exact List.forall_mem_cons.mpr ⟨minus, ofDigits denotes⟩

/-- A trimmed text is read exactly if it is a numeral with blanks around it. -/
theorem readInt64_trim_iff {text : List Char} {x : Int64} :
    readInt64 (trim text) = some x ↔
      ∃ numeral, Padded text numeral ∧ DenotesInteger numeral x.toInt := by
  rw [readInt64_iff_denotes]
  constructor
  · exact fun denotes => ⟨trim text, padded_trim text, denotes⟩
  · rintro ⟨numeral, padded, denotes⟩
    rwa [trim_of_padded padded denotes.not_isBlank]

/-! ## Entries between separators -/

/-- The parts of a split text are made of its characters, the separators apart. -/
theorem of_mem_split {separates : Char → Bool} {text part : List Char} {c : Char}
    (isPart : part ∈ split separates text) (member : c ∈ part) :
    c ∈ text ∧ separates c = false := by
  induction text generalizing part with
  | nil =>
      rw [split, List.mem_singleton] at isPart
      rw [isPart] at member
      cases member
  | cons d text inductionHypothesis =>
      have later : ∀ part, part ∈ split separates text → c ∈ part →
          c ∈ d :: text ∧ separates c = false := fun part isPart member =>
        (inductionHypothesis isPart member).imp_left (List.mem_cons_of_mem d)
      have inSingle : separates d = false → c = d → c ∈ d :: text ∧ separates c = false := by
        rintro kept rfl
        exact ⟨List.mem_cons_self, kept⟩
      rw [split] at isPart
      split at isPart
      · rcases List.mem_cons.mp isPart with rfl | inRest
        · cases member
        · exact later part inRest member
      · rename_i kept
        have kept := Bool.eq_false_iff.mpr kept
        cases parts : split separates text with
        | nil =>
            rw [parts] at isPart
            rw [List.mem_singleton.mp isPart, List.mem_singleton] at member
            exact inSingle kept member
        | cons first others =>
            rw [parts] at isPart later
            rcases List.mem_cons.mp isPart with rfl | inRest
            · rcases List.mem_cons.mp member with same | inFirst
              · exact inSingle kept same
              · exact later first List.mem_cons_self inFirst
            · exact later part (List.mem_cons_of_mem _ inRest) member

theorem split_of_uncut {text : List Char} {separates : Char → Bool}
    (uncut : ∀ c ∈ text, separates c = false) : split separates text = [text] := by
  induction text with
  | nil => rfl
  | cons c text inductionHypothesis =>
      rcases List.forall_mem_cons.mp uncut with ⟨first, later⟩
      rw [split, if_neg (Bool.eq_false_iff.mp first), inductionHypothesis later]

theorem split_append_cut {part rest : List Char} {c : Char} {separates : Char → Bool}
    (uncut : ∀ d ∈ part, separates d = false) (cut : separates c = true) :
    split separates (part ++ c :: rest) = part :: split separates rest := by
  induction part with
  | nil => rw [List.nil_append, split, if_pos cut]
  | cons d part inductionHypothesis =>
      rcases List.forall_mem_cons.mp uncut with ⟨first, later⟩
      rw [List.cons_append, split, if_neg (Bool.eq_false_iff.mp first),
        inductionHypothesis later]

/-- The entries that are written in a text with a separator between each two of them. -/
structure Separated (separator : Char) (entries : List (List Char)) (text : List Char) :
    Prop where
  nonempty : entries ≠ []
  free : ∀ entry ∈ entries, separator ∉ entry
  joined : List.intercalate [separator] entries = text

theorem exists_separated (separator : Char) (text : List Char) :
    ∃ entries, Separated separator entries text := by
  induction text with
  | nil => exact ⟨[[]], by simp, by simp, rfl⟩
  | cons c text inductionHypothesis =>
      rcases inductionHypothesis with ⟨entries, nonempty, free, rfl⟩
      rcases List.exists_cons_of_ne_nil nonempty with ⟨entry, others, rfl⟩
      by_cases separates : c = separator
      · subst separates
        refine ⟨[] :: entry :: others, by simp, ?_, List.intercalate_cons_cons ..⟩
        exact List.forall_mem_cons.mpr ⟨List.not_mem_nil, free⟩
      · rcases List.forall_mem_cons.mp free with ⟨freeEntry, freeOthers⟩
        refine ⟨(c :: entry) :: others, by simp, ?_, ?_⟩
        · refine List.forall_mem_cons.mpr ⟨fun member => ?_, freeOthers⟩
          rcases List.mem_cons.mp member with same | inEntry
          · exact separates same.symm
          · exact freeEntry inEntry
        · cases others with
          | nil => rw [List.intercalate_singleton, List.intercalate_singleton]
          | cons other others =>
              rw [List.intercalate_cons_cons, List.intercalate_cons_cons]
              rfl

/-- Entries can be read off a text in one way only. -/
theorem Separated.split_eq {separator : Char} {entries : List (List Char)} {text : List Char}
    (separated : Separated separator entries text) : split (· = separator) text = entries := by
  rcases separated with ⟨nonempty, free, rfl⟩
  have uncut : ∀ entry ∈ entries, ∀ c ∈ entry, decide (c = separator) = false :=
    fun entry member c inEntry => decide_eq_false fun same => free entry member (same ▸ inEntry)
  clear free
  induction entries with
  | nil => exact absurd rfl nonempty
  | cons entry others inductionHypothesis =>
      rcases List.forall_mem_cons.mp uncut with ⟨first, later⟩
      cases others with
      | nil => rw [List.intercalate_singleton, split_of_uncut first]
      | cons other others =>
          rw [List.intercalate_cons_cons, List.append_assoc]
          exact (split_append_cut first (decide_eq_true rfl)).trans
            (congrArg (entry :: ·) (inductionHypothesis (List.cons_ne_nil _ _) later))

theorem separated_split (separator : Char) (text : List Char) :
    Separated separator (split (· = separator) text) text := by
  rcases exists_separated separator text with ⟨entries, separated⟩
  rw [separated.split_eq]
  exact separated

/-- What the entries of a list give, each at most one thing, in their order. -/
inductive Collected {α β : Type} (Gives : α → β → Prop) : List α → List β → Prop where
  | nil : Collected Gives [] []
  | given {entry entries item items} : Gives entry item → Collected Gives entries items →
      Collected Gives (entry :: entries) (item :: items)
  | skipped {entry entries items} : (∀ item, ¬ Gives entry item) →
      Collected Gives entries items → Collected Gives (entry :: entries) items

theorem filterMap_eq_iff_collected {α β : Type} {read : α → Option β} {Gives : α → β → Prop}
    (reads : ∀ entry item, read entry = some item ↔ Gives entry item) {entries : List α}
    {items : List β} : entries.filterMap read = items ↔ Collected Gives entries items := by
  constructor
  · rintro rfl
    induction entries with
    | nil => exact .nil
    | cons entry entries inductionHypothesis =>
        cases isRead : read entry with
        | none =>
            rw [List.filterMap_cons_none isRead]
            refine .skipped (fun item gives => ?_) inductionHypothesis
            rw [(reads entry item).mpr gives] at isRead
            cases isRead
        | some item =>
            rw [List.filterMap_cons_some isRead]
            exact .given ((reads entry item).mp isRead) inductionHypothesis
  · intro collected
    induction collected with
    | nil => rfl
    | given gives _ inductionHypothesis =>
        rw [List.filterMap_cons_some ((reads _ _).mpr gives), inductionHypothesis]
    | skipped nothing _ inductionHypothesis =>
        rw [List.filterMap_cons_none, inductionHypothesis]
        exact Option.eq_none_iff_forall_ne_some.mpr fun item isRead =>
          nothing item ((reads _ _).mp isRead)

end Text
end Gallery
