import Gallery.Query
import Mathlib.Data.List.TakeWhile
import Mathlib.Tactic.Common

namespace Gallery

/-!
# Queries side by side

Two queries with a blank between them are read as what each of them is read as
alone.  Only a quote can reach across the blank, so the first one must have none.
Both scans split at the blank for the same reason: what a recogniser reads stops
there, and a token never begins with a blank.  `Splits` collects what the scan
needs to know of a recogniser.

Number filters are the exception to mere concatenation.  A later filter takes the
place of an earlier one on the same subject, so filters of the first query may be
lost.
-/

namespace Query

/-! ## Scans -/

section Scans

variable {α : Type}

/-- What makes the scans of lines that satisfy `fits` split at a blank. -/
structure Splits (recognise : List Char → Option (α × Nat)) (fits : List Char → Prop) : Prop where
  tail : ∀ {c line}, fits (c :: line) → fits line
  inside : ∀ {line token further}, recognise line = some (token, further) → further < line.length
  across : ∀ {line} rest, fits line → recognise (line ++ ' ' :: rest) = recognise line
  blank : ∀ rest, recognise (' ' :: rest) = none

theorem isWordChar_blank : Text.isWordChar ' ' = false := by decide

/-- A scan splits at a character that no token of the first line reaches across. -/
theorem scanFrom_append_stop {recognise : List Char → Option (α × Nat)}
    (fits : List Char → Prop) {stop : Char}
    (tail : ∀ {c line}, fits (c :: line) → fits line)
    (inside : ∀ {line token further}, recognise line = some (token, further) → further < line.length)
    (across : ∀ {line} rest, fits line → recognise (line ++ stop :: rest) = recognise line)
    (noToken : ∀ rest, recognise (stop :: rest) = none) (noWord : Text.isWordChar stop = false)
    {line : List Char} (rest : List Char) (fitting : fits line) {passed : Nat}
    (inLine : passed ≤ line.length) (inWord : Bool) :
    scanFrom recognise passed inWord (line ++ stop :: rest) =
      scanFrom recognise passed inWord line ++ .char stop :: scan recognise rest := by
  induction line generalizing passed inWord with
  | nil =>
      have start : passed = 0 := Nat.le_zero.mp inLine
      simp only [start, List.nil_append, scanFrom, noWord, Bool.and_false, Bool.false_eq_true,
        if_false, noToken]
      rfl
  | cons c line inductionHypothesis =>
      have continued : ∀ {passed}, passed ≤ line.length → ∀ inWord,
          scanFrom recognise passed inWord (line ++ stop :: rest) =
            scanFrom recognise passed inWord line ++ .char stop :: scan recognise rest := by
        intro passed inLine inWord
        exact inductionHypothesis (tail fitting) inLine inWord
      cases passed with
      | succ passed => exact continued (Nat.le_of_succ_le_succ inLine) false
      | zero =>
          have same := across rest fitting
          rw [List.cons_append] at same
          rw [List.cons_append, scanFrom, scanFrom, same]
          cases found : if inWord && Text.isWordChar c then none else recognise (c :: line) with
          | none => exact congrArg _ (continued (Nat.zero_le _) _)
          | some token =>
              have within : token.2 ≤ line.length := by
                by_cases midWord : (inWord && Text.isWordChar c) = true
                · rw [if_pos midWord] at found
                  cases found
                · rw [if_neg midWord] at found
                  exact Nat.le_of_lt_succ (inside found)
              exact congrArg _ (continued within false)

theorem scanFrom_append_blank {recognise : List Char → Option (α × Nat)}
    {fits : List Char → Prop} (splits : Splits recognise fits) {line : List Char}
    (rest : List Char) (fitting : fits line) {passed : Nat} (inLine : passed ≤ line.length)
    (inWord : Bool) :
    scanFrom recognise passed inWord (line ++ ' ' :: rest) =
      scanFrom recognise passed inWord line ++ .char ' ' :: scan recognise rest :=
  scanFrom_append_stop fits splits.tail splits.inside splits.across splits.blank isWordChar_blank
    rest fitting inLine inWord

/-- The scan of two lines with a blank between them. -/
theorem scan_append_blank {recognise : List Char → Option (α × Nat)} {fits : List Char → Prop}
    (splits : Splits recognise fits) {line : List Char} (rest : List Char) (fitting : fits line) :
    scan recognise (line ++ ' ' :: rest) =
      scan recognise line ++ .char ' ' :: scan recognise rest :=
  scanFrom_append_blank splits rest fitting (Nat.zero_le _) false

theorem tokens_append_blank (first second : List (Piece α)) :
    tokens (first ++ .char ' ' :: second) = tokens first ++ tokens second := by
  rw [tokens, List.filterMap_append]
  rfl

theorem residue_append_blank (first second : List (Piece α)) :
    residue (first ++ .char ' ' :: second) = residue first ++ ' ' :: residue second := by
  rw [residue, List.map_append]
  rfl

/-- Every token of a scan was found at some place of the line. -/
theorem exists_recognised_of_mem {recognise : List Char → Option (α × Nat)} {passed : Nat}
    {inWord : Bool} {line : List Char} {token : α}
    (member : token ∈ tokens (scanFrom recognise passed inWord line)) :
    ∃ rest further, recognise rest = some (token, further) := by
  induction line generalizing passed inWord with
  | nil => cases passed <;> cases member
  | cons c line inductionHypothesis =>
      cases passed with
      | succ passed => exact inductionHypothesis member
      | zero =>
          rw [scanFrom] at member
          split at member
          · rename_i first further found
            rcases List.mem_cons.mp member with rfl | later
            · split at found
              · cases found
              · exact ⟨_, further, found⟩
            · exact inductionHypothesis later
          · exact inductionHypothesis member

end Scans

/-! ## Runs of characters -/

section Runs

variable {keeps : Char → Bool} {c : Char}

theorem takeWhile_append_stop (stops : keeps c = false) (line rest : List Char) :
    (line ++ c :: rest).takeWhile keeps = line.takeWhile keeps := by
  induction line with
  | nil => rw [List.nil_append, List.takeWhile_cons, stops]; rfl
  | cons d line inductionHypothesis =>
      rw [List.cons_append, List.takeWhile_cons, List.takeWhile_cons, inductionHypothesis]

theorem dropWhile_append_stop (stops : keeps c = false) (line rest : List Char) :
    (line ++ c :: rest).dropWhile keeps = line.dropWhile keeps ++ c :: rest := by
  induction line with
  | nil => rw [List.nil_append, List.dropWhile_cons, stops]; rfl
  | cons d line inductionHypothesis =>
      rw [List.cons_append, List.dropWhile_cons, List.dropWhile_cons, inductionHypothesis]
      split <;> rfl

theorem length_takeWhile_add_length_dropWhile (keeps : Char → Bool) (line : List Char) :
    (line.takeWhile keeps).length + (line.dropWhile keeps).length = line.length := by
  rw [← List.length_append, List.takeWhile_append_dropWhile]

end Runs

/-! ## Tag tokens -/

namespace TagToken

theorem valueOf_of_unquoted {line : List Char} (unquoted : line.head? ≠ some '"') :
    valueOf line = line.takeWhile (!Text.isBlank ·) := by
  unfold valueOf
  split
  · exact absurd rfl unquoted
  · rfl

/-- Without quotes a value stops at a blank. -/
theorem valueOf_append_blank {line : List Char} (rest : List Char) (quoteFree : '"' ∉ line) :
    valueOf (line ++ ' ' :: rest) = valueOf line := by
  have first : ∀ other, (line ++ other).head? = some '"' → other.head? = some '"' := by
    intro other starts
    cases line with
    | nil => exact starts
    | cons c line => exact absurd (Option.some.inj starts ▸ List.mem_cons_self) quoteFree
  have unquoted : line.head? ≠ some '"' := by
    intro starts
    cases first [] (by rwa [List.append_nil])
  rw [valueOf_of_unquoted unquoted, valueOf_of_unquoted fun starts =>
    absurd (first _ starts) (by simp)]
  exact takeWhile_append_stop (by decide) line rest

theorem length_valueOf_le (line : List Char) : (valueOf line).length ≤ line.length := by
  have plain : (line.takeWhile (!Text.isBlank ·)).length ≤ line.length :=
    (List.takeWhile_sublist _).length_le
  unfold valueOf
  split
  · rename_i rest
    split
    · rename_i closed
      -- The closing quote is not taken, so the text before it is shorter than the rest.
      have remains : rest.dropWhile (· ≠ '"') ≠ [] := by
        intro none_left
        have passed := List.dropWhile_eq_nil_iff.mp none_left '"' (List.contains_iff_mem.mp closed)
        simp at passed
      have positive := List.length_pos_iff.mpr remains
      have parts := length_takeWhile_add_length_dropWhile (· ≠ '"') rest
      simp only [List.length_cons, List.length_append, List.length_nil]
      omega
    · exact plain
  · exact plain

theorem length_sign (line : List Char) :
    (sign line).2.1 + (sign line).2.2.length = line.length := by
  unfold sign
  split
  · exact Nat.add_comm _ _
  · exact Nat.add_comm _ _
  · exact Nat.zero_add _

theorem sign_append_blank (line rest : List Char) :
    sign (line ++ ' ' :: rest) =
      ((sign line).1, (sign line).2.1, (sign line).2.2 ++ ' ' :: rest) := by
  cases line with
  | nil => rfl
  | cons c line =>
      by_cases minus : c = '-'
      · subst minus
        rfl
      · by_cases tilde : c = '~'
        · subst tilde
          rfl
        · have unsigned : ∀ text, sign (c :: text) = (.required, 0, c :: text) := by
            intro text
            unfold sign
            split
            · rename_i same
              exact absurd (List.cons.inj same).1 minus
            · rename_i same
              exact absurd (List.cons.inj same).1 tilde
            · rfl
          rw [List.cons_append, unsigned, unsigned]
          rfl

theorem mem_of_mem_sign {line : List Char} {c : Char} (member : c ∈ (sign line).2.2) : c ∈ line := by
  unfold sign at member
  split at member
  · exact List.mem_cons_of_mem _ member
  · exact List.mem_cons_of_mem _ member
  · exact member

/-- What follows a colon at the start of a line. -/
def afterColon? : List Char → Option (List Char)
  | ':' :: rest => some rest
  | _ => none

theorem afterColon?_cons_of_ne {c : Char} (other : c ≠ ':') (line : List Char) :
    afterColon? (c :: line) = none := by
  unfold afterColon?
  split
  · rename_i same
    exact absurd (List.cons.inj same).1 other
  · rfl

theorem afterColon?_append (line rest : List Char) :
    afterColon? (line ++ ' ' :: rest) = (afterColon? line).map (· ++ ' ' :: rest) := by
  cases line with
  | nil => rfl
  | cons c line =>
      by_cases colon : c = ':'
      · subst colon
        rfl
      · rw [List.cons_append, afterColon?_cons_of_ne colon, afterColon?_cons_of_ne colon]
        rfl

theorem eq_cons_of_afterColon? {line rest : List Char} (found : afterColon? line = some rest) :
    line = ':' :: rest := by
  unfold afterColon? at found
  split at found
  · rw [Option.some.inj found]
  · cases found

/-- A tag token as the sum of its parts. -/
theorem recognise_eq (line : List Char) :
    recognise line =
      if ((sign line).2.2.takeWhile Text.isWordChar).isEmpty then none
      else
        (afterColon? ((sign line).2.2.dropWhile Text.isWordChar)).bind fun rest =>
          if (valueOf rest).isEmpty then none
          else some (⟨(sign line).1, (sign line).2.2.takeWhile Text.isWordChar, valueOf rest⟩,
            (sign line).2.1 + ((sign line).2.2.takeWhile Text.isWordChar).length +
              (valueOf rest).length) := by
  simp only [recognise]
  split
  · rfl
  · cases (sign line).2.2.dropWhile Text.isWordChar with
    | nil => rfl
    | cons c rest =>
        by_cases colon : c = ':'
        · subst colon
          rfl
        · rw [afterColon?_cons_of_ne colon]
          split
          · rename_i same
            exact absurd (List.cons.inj same).1 colon
          · rfl

theorem length_of_recognise {line : List Char} {token : TagToken} {further : Nat}
    (recognised : recognise line = some (token, further)) : further < line.length := by
  have signed := length_sign line
  have parts := length_takeWhile_add_length_dropWhile Text.isWordChar (sign line).2.2
  rw [recognise_eq] at recognised
  split at recognised
  · cases recognised
  · rcases Option.bind_eq_some_iff.mp recognised with ⟨rest, found, recognised⟩
    have short := length_valueOf_le rest
    rw [eq_cons_of_afterColon? found, List.length_cons] at parts
    split at recognised
    · cases recognised
    · cases recognised
      omega

theorem splits : Splits recognise ('"' ∉ ·) where
  tail := fun free member => free (List.mem_cons_of_mem _ member)
  inside := length_of_recognise
  across := by
    intro line rest free
    have freeAfter : '"' ∉ (sign line).2.2 := fun member => free (mem_of_mem_sign member)
    rw [recognise_eq, recognise_eq, sign_append_blank]
    simp only [takeWhile_append_stop isWordChar_blank, dropWhile_append_stop isWordChar_blank,
      afterColon?_append]
    cases found : afterColon? ((sign line).2.2.dropWhile Text.isWordChar) with
    | none => rfl
    | some tail =>
        have freeTail : '"' ∉ tail := by
          intro member
          have inDropped : '"' ∈ (sign line).2.2.dropWhile Text.isWordChar := by
            rw [eq_cons_of_afterColon? found]
            exact List.mem_cons_of_mem _ member
          exact freeAfter ((List.dropWhile_sublist _).subset inDropped)
        simp only [Option.map_some, Option.bind_some, valueOf_append_blank rest freeTail]
  blank := by
    intro rest
    have unsigned : sign (' ' :: rest) = (.required, 0, ' ' :: rest) := rfl
    rw [recognise_eq, unsigned, List.takeWhile_cons, isWordChar_blank]
    rfl

end TagToken

/-! ## Number tokens -/

namespace NumberToken

theorem comparisonOf_append_blank (line rest : List Char) :
    comparisonOf (line ++ ' ' :: rest) =
      (comparisonOf line).map fun found => (found.1, found.2 ++ ' ' :: rest) := by
  cases line with
  | nil => rfl
  | cons c line =>
      by_cases strict : c = '>' ∨ c = '<'
      · -- Either of the two may be widened by an equality sign.
        cases line with
        | nil => rcases strict with rfl | rfl <;> rfl
        | cons d line =>
            by_cases widened : d = '='
            · subst widened
              rcases strict with rfl | rfl <;> rfl
            · rcases strict with rfl | rfl <;>
                simp only [List.cons_append, comparisonOf, List.cons.injEq, widened, false_and,
                  imp_self, implies_true, Option.map_some]
      rcases not_or.mp strict with ⟨greater, less⟩
      by_cases equal : c = '='
      · subst equal
        rfl
      · simp only [List.cons_append, comparisonOf, List.cons.injEq, greater, less, equal, false_and,
          imp_self, implies_true, Option.map_none]

theorem length_of_comparisonOf {line rest : List Char} {comparison : Comparison}
    (found : comparisonOf line = some (comparison, rest)) :
    comparison.symbol.length + rest.length = line.length := by
  unfold comparisonOf at found
  split at found
  all_goals cases found
  all_goals exact Nat.add_comm _ _

theorem unitOf_append_blank (line rest : List Char) :
    unitOf (line ++ ' ' :: rest) = unitOf line := by
  have boundary : ∀ text, atBoundary (text ++ ' ' :: rest) = atBoundary text := by
    intro text
    cases text with
    | nil => simp only [List.nil_append, atBoundary, isWordChar_blank, Bool.not_false]
    | cons c text => rfl
  cases line with
  | nil =>
      have noUnit : isUnit ' ' = false := by decide
      simp only [List.nil_append, unitOf, noUnit, Bool.false_and, Bool.false_eq_true, if_false,
        atBoundary, isWordChar_blank, Bool.not_false, if_true]
  | cons c line =>
      have whole := boundary (c :: line)
      rw [List.cons_append] at whole
      simp only [List.cons_append, unitOf, boundary, whole]

theorem length_of_unitOf {line : List Char} {unit : Option Char} (found : unitOf line = some unit) :
    unit.toList.length ≤ line.length := by
  unfold unitOf at found
  split at found
  · split at found
    · cases found
      exact Nat.succ_le_succ (Nat.zero_le _)
    · split at found
      · cases found
        exact Nat.zero_le _
      · cases found
  · cases found
    exact Nat.zero_le _

theorem length_of_recognise {line : List Char} {token : NumberToken} {further : Nat}
    (recognised : recognise line = some (token, further)) : further < line.length := by
  have parts := length_takeWhile_add_length_dropWhile Text.isWordChar line
  simp only [recognise] at recognised
  split at recognised
  · cases recognised
  rename_i someWord
  have word : 0 < (line.takeWhile Text.isWordChar).length :=
    List.length_pos_iff.mpr fun empty => someWord (List.isEmpty_iff.mpr empty)
  split at recognised
  · cases recognised
  rename_i comparison rest compared
  have afterWord := length_of_comparisonOf compared
  have afterSymbol := length_takeWhile_add_length_dropWhile Text.isDecimalDigit rest
  split at recognised
  · cases recognised
  split at recognised
  · cases recognised
  · rename_i unit measured
    have afterDigits := length_of_unitOf measured
    cases recognised
    omega

theorem splits : Splits recognise (fun _ => True) where
  tail := fun _ => trivial
  inside := length_of_recognise
  across := by
    intro line rest _
    simp only [recognise, takeWhile_append_stop isWordChar_blank,
      dropWhile_append_stop isWordChar_blank, comparisonOf_append_blank]
    cases comparisonOf (line.dropWhile Text.isWordChar) with
    | none => rfl
    | some found =>
        have noDigit : Text.isDecimalDigit ' ' = false := by decide
        simp only [Option.map_some, takeWhile_append_stop noDigit, dropWhile_append_stop noDigit,
          unitOf_append_blank]
  blank := by
    intro rest
    simp only [recognise, List.takeWhile_cons, isWordChar_blank]
    rfl

end NumberToken

/-! ## Words -/

theorem wordsFrom_append_blank (word first second : List Char) :
    Text.wordsFrom word (first ++ ' ' :: second) =
      Text.wordsFrom word first ++ Text.wordsFrom [] second := by
  induction first generalizing word with
  | nil =>
      have blank : Text.isBlank ' ' = true := by decide
      rw [List.nil_append, Text.wordsFrom, Text.wordsFrom, if_pos blank]
      split <;> rfl
  | cons c first inductionHypothesis =>
      rw [List.cons_append, Text.wordsFrom, Text.wordsFrom, inductionHypothesis,
        inductionHypothesis]
      split
      · split <;> rfl
      · rfl

/-- Title words together. -/
def TitleWords.both (first second : TitleWords) : TitleWords where
  required := first.required ++ second.required
  optional := first.optional ++ second.optional
  excluded := first.excluded ++ second.excluded

theorem TitleWords.ofText_append_blank (first second : List Char) :
    ofText (first ++ ' ' :: second) = (ofText first).both (ofText second) := by
  simp only [ofText, Text.words, wordsFrom_append_blank, List.map_append, List.filterMap_append, both]

/-! ## Number filters -/

namespace NumberFilter

theorem any_lastPerSubject (filters : List NumberFilter) (subject : Subject) :
    (lastPerSubject filters).any (·.subject = subject) = filters.any (·.subject = subject) := by
  induction filters with
  | nil => rfl
  | cons filter later inductionHypothesis =>
      rw [lastPerSubject, List.any_cons]
      split
      · rename_i repeated
        rw [inductionHypothesis]
        by_cases same : filter.subject = subject
        · rw [same] at repeated
          rw [repeated, Bool.or_true]
        · rw [decide_eq_false same, Bool.false_or]
      · rw [List.any_cons, inductionHypothesis]

/-- Later filters replace earlier ones on the same subjects. -/
theorem lastPerSubject_append (first second : List NumberFilter) :
    lastPerSubject (first ++ second) =
      ((lastPerSubject first).filter fun filter => !second.any (·.subject = filter.subject)) ++
        lastPerSubject second := by
  induction first with
  | nil => rfl
  | cons filter later inductionHypothesis =>
      rw [List.cons_append, lastPerSubject, lastPerSubject, List.any_append, inductionHypothesis]
      cases repeated : later.any (·.subject = filter.subject) with
      | true => rfl
      | false =>
          cases replaced : second.any (·.subject = filter.subject) with
          | true =>
              simp only [Bool.or_true, if_true, Bool.false_eq_true, if_false, List.filter_cons,
                replaced, Bool.not_true]
          | false =>
              simp only [Bool.or_false, Bool.false_eq_true, if_false, List.filter_cons, replaced,
                Bool.not_false, if_true, List.cons_append]

end NumberFilter

/-! ## Whole queries -/

/-- Two queries together.  Number filters of the first one stand only on subjects
that the second leaves alone. -/
def both (first second : Query) : Query where
  tags := first.tags ++ second.tags
  numbers := (first.numbers.filter fun filter =>
    !second.numbers.any (·.subject = filter.subject)) ++ second.numbers
  languages := first.languages ++ second.languages
  sources := first.sources ++ second.sources
  urls := first.urls ++ second.urls
  title := first.title.both second.title

/-- A query in front of another is read as both of them. -/
theorem ofChars_append_blank {first : List Char} (second : List Char) (quoteFree : '"' ∉ first) :
    ofChars (first ++ ' ' :: second) = (ofChars first).both (ofChars second) := by
  have tagsSplit : tagPieces (first ++ ' ' :: second) =
      tagPieces first ++ .char ' ' :: tagPieces second :=
    scan_append_blank TagToken.splits second quoteFree
  have numbersSplit : numberPieces (first ++ ' ' :: second) =
      numberPieces first ++ .char ' ' :: numberPieces second := by
    rw [numberPieces, tagsSplit, residue_append_blank]
    exact scan_append_blank NumberToken.splits _ trivial
  simp only [ofChars, tagsSplit, numbersSplit, tokens_append_blank, residue_append_blank,
    List.filterMap_append, NumberFilter.lastPerSubject_append, TitleWords.ofText_append_blank, both,
    NumberFilter.any_lastPerSubject]

theorem parse_empty : parse "" = {} := by
  decide

theorem parse_append_blank {first : String} (second : String) (quoteFree : '"' ∉ first.toList) :
    parse (first ++ " " ++ second) = (parse first).both (parse second) := by
  have characters : (first ++ " " ++ second).toList = first.toList ++ ' ' :: second.toList := by
    rw [String.toList_append, String.toList_append, List.append_assoc]
    rfl
  rw [parse, characters]
  exact ofChars_append_blank second.toList quoteFree

/-- The parts of two queries side by side.  All lists are put one behind the other,
apart from the number filters, of which the first query keeps those on subjects that
the second does not speak of. -/
theorem parse_side_by_side {first : String} (second : String) (quoteFree : '"' ∉ first.toList) :
    let whole := parse (first ++ " " ++ second)
    whole.tags = (parse first).tags ++ (parse second).tags ∧
    whole.languages = (parse first).languages ++ (parse second).languages ∧
    whole.sources = (parse first).sources ++ (parse second).sources ∧
    whole.urls = (parse first).urls ++ (parse second).urls ∧
    whole.title.required = (parse first).title.required ++ (parse second).title.required ∧
    whole.title.optional = (parse first).title.optional ++ (parse second).title.optional ∧
    whole.title.excluded = (parse first).title.excluded ++ (parse second).title.excluded ∧
    whole.numbers =
      ((parse first).numbers.filter fun filter =>
        filter.subject ∉ (parse second).numbers.map NumberFilter.subject) ++
        (parse second).numbers := by
  intro whole
  have split : whole = (parse first).both (parse second) := parse_append_blank second quoteFree
  rw [split]
  refine ⟨rfl, rfl, rfl, rfl, rfl, rfl, rfl, ?_⟩
  refine congrArg (· ++ (parse second).numbers) (List.filter_congr fun filter _ => ?_)
  rw [Bool.eq_iff_iff, Bool.not_eq_true', List.any_eq_false, decide_eq_true_eq, List.mem_map,
    not_exists]
  simp only [decide_eq_true_eq, not_and]

/-- A filter on pages is replaced by a later one, and a quoted value behind the blank
is read as it would be alone. -/
theorem parse_pages_side_by_side :
    '"' ∉ "~tag:red pages>3 size<2m -old".toList ∧
      (parse ("~tag:red pages>3 size<2m -old" ++ " " ++ "artist:\"a b\" pages<9")).numbers =
        [⟨.size, .less, 2097152⟩, ⟨.pages, .less, 9⟩] := by
  refine ⟨by decide, ?_⟩
  rw [(parse_side_by_side "artist:\"a b\" pages<9" (by decide)).2.2.2.2.2.2.2]
  decide +kernel

end Query
end Gallery
