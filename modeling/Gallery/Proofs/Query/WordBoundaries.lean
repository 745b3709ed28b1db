import Gallery.Proofs.Query.Concatenation
import Gallery.Proofs.Text.Alphanumeric

namespace Gallery
namespace Query

/-!
# Where a token can stand

Both recognisers begin with a word.  From this word they go on to its end and a little
further, over characters that are not blank, and whatever comes behind matters at most
through its first character.  So whether a token begins at some place is decided by the
text up to the next blank, and a token that ends at a word boundary is still found when
more text follows there.  `Wordwise` collects these facts.  They are all that is needed
to see that a scan leaves no token behind.

What a recogniser accepts is first written as a grammar, `TagToken.Opens` and
`NumberToken.Opens`, in which the facts can be read off.
-/

/-! ## Characters -/

theorem isBlank_eq_false_of_isWordChar {c : Char} (inWord : Text.isWordChar c = true) :
    Text.isBlank c = false := by
  by_contra blank
  rw [Text.isWordChar_of_isBlank (Bool.eq_true_of_not_eq_false blank)] at inWord
  cases inWord

theorem isWordChar_of_isDecimalDigit {c : Char} (digit : Text.isDecimalDigit c = true) :
    Text.isWordChar c = true := by
  rw [Text.isDecimalDigit] at digit
  simp only [Text.isWordChar, digit, Bool.or_true, Bool.true_or]

namespace NumberToken

/-- Units are the letters of three multiples, in either case, and the sign for one of them. -/
theorem mem_of_isUnit {c : Char} (unit : isUnit c = true) :
    c ∈ ['\u212a', 'k', 'K', 'm', 'M', 'g', 'G'] := by
  simp only [isUnit, Bool.or_eq_true, decide_eq_true_eq, List.contains_iff_mem, List.mem_cons,
    List.not_mem_nil, or_false] at unit
  rcases unit with kelvin | small | small | small
  · simp only [kelvin, List.mem_cons, true_or]
  · rcases Text.eq_or_eq_of_toLower_eq 'K' rfl small with rfl | rfl <;> simp
  · rcases Text.eq_or_eq_of_toLower_eq 'M' rfl small with rfl | rfl <;> simp
  · rcases Text.eq_or_eq_of_toLower_eq 'G' rfl small with rfl | rfl <;> simp

theorem isWordChar_of_isUnit {c : Char} (unit : isUnit c = true) : Text.isWordChar c = true := by
  have letters : ['\u212a', 'k', 'K', 'm', 'M', 'g', 'G'].all Text.isWordChar = true := by
    decide +kernel
  exact List.all_eq_true.mp letters c (mem_of_isUnit unit)

theorem isDecimalDigit_of_isUnit {c : Char} (unit : isUnit c = true) :
    Text.isDecimalDigit c = false := by
  have letters : ['\u212a', 'k', 'K', 'm', 'M', 'g', 'G'].all (!Text.isDecimalDigit ·) = true := by
    decide +kernel
  exact (Bool.not_eq_true' _).mp (List.all_eq_true.mp letters c (mem_of_isUnit unit))

end NumberToken

/-! ## Runs that stop -/

section Runs

variable {keeps : Char → Bool} {run rest : List Char}

theorem takeWhile_run_append (kept : ∀ c ∈ run, keeps c = true)
    (stops : rest.takeWhile keeps = []) : (run ++ rest).takeWhile keeps = run := by
  rw [List.takeWhile_append_of_pos kept, stops, List.append_nil]

theorem dropWhile_run_append (kept : ∀ c ∈ run, keeps c = true)
    (stops : rest.takeWhile keeps = []) : (run ++ rest).dropWhile keeps = rest := by
  have parts := List.takeWhile_append_dropWhile (p := keeps) (l := rest)
  rw [stops, List.nil_append] at parts
  rw [List.dropWhile_append_of_pos kept, parts]

end Runs

/-- The text up to its first blank. -/
def untilBlank (text : List Char) : List Char :=
  text.takeWhile (!Text.isBlank ·)

theorem untilBlank_cons_of_blank {c : Char} (blank : Text.isBlank c = true) (text : List Char) :
    untilBlank (c :: text) = [] := by
  rw [untilBlank, List.takeWhile_cons, blank]
  rfl

theorem untilBlank_cons {c : Char} (nonblank : Text.isBlank c = false) (text : List Char) :
    untilBlank (c :: text) = c :: untilBlank text := by
  rw [untilBlank, List.takeWhile_cons, nonblank]
  rfl

theorem untilBlank_append {word : List Char} (nonblank : ∀ c ∈ word, Text.isBlank c = false)
    (text : List Char) : untilBlank (word ++ text) = word ++ untilBlank text := by
  apply List.takeWhile_append_of_pos
  intro c member
  rw [nonblank c member]
  rfl

/-! ## Recognisers that read whole words -/

/-- Whether a text ends inside a word, given whether the text before it does. -/
def endsInWord (inWord : Bool) (text : List Char) : Bool :=
  text.foldl (fun _ c => Text.isWordChar c) inWord

theorem endsInWord_append_of_word {inWord : Bool} {word : List Char} (text : List Char)
    (nonempty : word ≠ []) (inside : ∀ c ∈ word, Text.isWordChar c = true) :
    endsInWord inWord (text ++ word) = true := by
  rcases List.eq_nil_or_concat' word with rfl | ⟨start, last, rfl⟩
  · exact absurd rfl nonempty
  · rw [endsInWord, ← List.append_assoc, List.foldl_append]
    exact inside last (List.mem_append_right _ (List.mem_singleton_self last))

/-- What the scan needs to know of a recogniser to leave none of its tokens behind. -/
structure Wordwise {α : Type} (recognise : List Char → Option (α × Nat)) : Prop where
  nothing : recognise [] = none
  beforeBlank : ∀ {line}, recognise line ≠ none → recognise (untilBlank line) ≠ none
  continued : ∀ {line rest},
    (endsInWord false line = true → NumberToken.atBoundary rest = true) →
      recognise line ≠ none → recognise (line ++ rest) ≠ none
  wholeWord : ∀ {c d line}, Text.isWordChar c = true → Text.isWordChar d = true →
    recognise (d :: line) ≠ none → recognise (c :: d :: line) ≠ none

theorem Wordwise.blank {α : Type} {recognise : List Char → Option (α × Nat)}
    (wordwise : Wordwise recognise) {c : Char} (isBlank : Text.isBlank c = true)
    (line : List Char) : recognise (c :: line) = none := by
  by_contra found
  apply wordwise.beforeBlank found
  rw [untilBlank_cons_of_blank isBlank]
  exact wordwise.nothing

/-! ## Tag tokens -/

/-- The sign that gives a token its role. -/
def Role.mark : Role → List Char
  | .required => []
  | .excluded => ['-']
  | .optional => ['~']

namespace TagToken

theorem mark_append_sign (line : List Char) : (sign line).1.mark ++ (sign line).2.2 = line := by
  unfold sign
  split <;> rfl

/-- A sign in front of a word is read as such, and no sign is read where there is none. -/
theorem sign_mark_append {c : Char} (role : Role) (inWord : Text.isWordChar c = true)
    (rest : List Char) : sign (role.mark ++ c :: rest) = (role, role.mark.length, c :: rest) := by
  cases role with
  | excluded | optional => rfl
  | required =>
      rw [Role.mark, List.nil_append, sign]
      · rfl
      · rintro other same
        cases same
        exact absurd inWord (by decide)
      · rintro other same
        cases same
        exact absurd inWord (by decide)

theorem valueOf_ne_nil_iff {line : List Char} :
    valueOf line ≠ [] ↔ ∃ first rest, line = first :: rest ∧ Text.isBlank first = false := by
  cases line with
  | nil => simp [valueOf]
  | cons first rest =>
      have plain : (first :: rest).takeWhile (!Text.isBlank ·) ≠ [] ↔
          Text.isBlank first = false := by
        rw [List.takeWhile_cons]
        cases Text.isBlank first <;> simp
      have started : valueOf (first :: rest) ≠ [] ↔ Text.isBlank first = false := by
        by_cases quote : first = '"'
        · subst quote
          rw [valueOf]
          split
          · exact iff_of_true (List.cons_ne_nil _ _) (by decide)
          · exact plain
        · have unquoted : (first :: rest).head? ≠ some '"' :=
            fun same => quote (Option.some.inj same)
          rw [valueOf_of_unquoted unquoted]
          exact plain
      rw [started]
      constructor
      · intro nonblank
        exact ⟨first, rest, rfl, nonblank⟩
      · rintro ⟨_, _, same, nonblank⟩
        cases same
        exact nonblank

/-- A token is read off its parts, whatever follows them. -/
theorem recognise_parts {scope rest : List Char} (role : Role) (named : scope ≠ [])
    (inWord : ∀ c ∈ scope, Text.isWordChar c = true) (valued : valueOf rest ≠ []) :
    recognise (role.mark ++ (scope ++ ':' :: rest)) =
      some (⟨role, scope, valueOf rest⟩,
        role.mark.length + scope.length + (valueOf rest).length) := by
  have signed : sign (role.mark ++ (scope ++ ':' :: rest)) =
      (role, role.mark.length, scope ++ ':' :: rest) := by
    cases scope with
    | nil => exact absurd rfl named
    | cons c scope => exact sign_mark_append role (inWord c List.mem_cons_self) _
  have colon : (':' :: rest).takeWhile Text.isWordChar = [] := by
    rw [List.takeWhile_cons, show Text.isWordChar ':' = false by decide]
    rfl
  have nonempty : scope.isEmpty = false := List.isEmpty_eq_false_iff.mpr named
  have found : (valueOf rest).isEmpty = false := List.isEmpty_eq_false_iff.mpr valued
  simp only [recognise_eq, signed, takeWhile_run_append inWord colon,
    dropWhile_run_append inWord colon, nonempty, afterColon?, Option.bind_some, found,
    Bool.false_eq_true, if_false]

/-- The lines that begin with a tag token: a sign or none, a scope, a colon, and at least one
character of the value. -/
def Opens (line : List Char) : Prop :=
  ∃ (role : Role) (scope : List Char) (first : Char) (rest : List Char),
    line = role.mark ++ (scope ++ ':' :: first :: rest) ∧ scope ≠ [] ∧
      (∀ c ∈ scope, Text.isWordChar c = true) ∧ Text.isBlank first = false

theorem recognise_ne_none_iff {line : List Char} : recognise line ≠ none ↔ Opens line := by
  constructor
  · intro found
    rw [recognise_eq] at found
    split at found
    · exact absurd rfl found
    rename_i named
    rcases Option.ne_none_iff_exists'.mp found with ⟨token, recognised⟩
    rcases Option.bind_eq_some_iff.mp recognised with ⟨rest, afterScope, valued⟩
    split at valued
    · cases valued
    rename_i nonempty
    rcases valueOf_ne_nil_iff.mp fun empty => nonempty (List.isEmpty_iff.mpr empty) with
      ⟨first, tail, rfl, nonblank⟩
    refine ⟨(sign line).1, (sign line).2.2.takeWhile Text.isWordChar, first, tail, ?_,
      fun empty => named (List.isEmpty_iff.mpr empty),
      fun c member => List.mem_takeWhile_imp member, nonblank⟩
    rw [← eq_cons_of_afterColon? afterScope, List.takeWhile_append_dropWhile, mark_append_sign]
  · rintro ⟨role, scope, first, rest, rfl, named, inWord, nonblank⟩
    rw [recognise_parts role named inWord (valueOf_ne_nil_iff.mpr ⟨first, rest, rfl, nonblank⟩)]
    exact Option.some_ne_none _

theorem wordwise : Wordwise recognise where
  nothing := rfl
  beforeBlank := by
    intro line found
    rcases recognise_ne_none_iff.mp found with
      ⟨role, scope, first, rest, rfl, named, inWord, nonblank⟩
    apply recognise_ne_none_iff.mpr
    refine ⟨role, scope, first, untilBlank rest, ?_, named, inWord, nonblank⟩
    have markNonblank : ∀ c ∈ role.mark, Text.isBlank c = false := by
      have checked : role.mark.all (!Text.isBlank ·) = true := by cases role <;> rfl
      simpa using checked
    rw [untilBlank_append markNonblank,
      untilBlank_append fun c member => isBlank_eq_false_of_isWordChar (inWord c member),
      untilBlank_cons (by decide), untilBlank_cons nonblank]
  continued := by
    intro line rest _ found
    rcases recognise_ne_none_iff.mp found with
      ⟨role, scope, first, tail, rfl, named, inWord, nonblank⟩
    apply recognise_ne_none_iff.mpr
    refine ⟨role, scope, first, tail ++ rest, ?_, named, inWord, nonblank⟩
    simp only [List.append_assoc, List.cons_append]
  wholeWord := by
    intro c d line before first found
    rcases recognise_ne_none_iff.mp found with
      ⟨role, scope, value, tail, same, named, inWord, nonblank⟩
    apply recognise_ne_none_iff.mpr
    -- A sign does not stand inside a word, so the token had none.
    cases role with
    | excluded | optional =>
        cases same
        exact absurd first (by decide)
    | required =>
        refine ⟨.required, c :: scope, value, tail, ?_, List.cons_ne_nil _ _, ?_, nonblank⟩
        · exact congrArg (c :: ·) same
        · exact List.forall_mem_cons.mpr ⟨before, inWord⟩

end TagToken

/-! ## Number tokens -/

namespace NumberToken

theorem comparisonOf_symbol_append {c : Char} (comparison : Comparison) (other : c ≠ '=')
    (rest : List Char) :
    comparisonOf (comparison.symbol.toList ++ c :: rest) = some (comparison, c :: rest) := by
  cases comparison with
  | atLeast | atMost | equal => rfl
  | greater =>
      change comparisonOf ('>' :: c :: rest) = _
      simp only [comparisonOf, List.cons.injEq, other, false_and, imp_self, implies_true]
  | less =>
      change comparisonOf ('<' :: c :: rest) = _
      simp only [comparisonOf, List.cons.injEq, other, false_and, imp_self, implies_true]

theorem eq_append_of_comparisonOf {line rest : List Char} {comparison : Comparison}
    (found : comparisonOf line = some (comparison, rest)) :
    line = comparison.symbol.toList ++ rest := by
  unfold comparisonOf at found
  split at found
  all_goals cases found
  all_goals rfl

/-- No word goes on into a comparison. -/
theorem atBoundary_symbol_append (comparison : Comparison) (rest : List Char) :
    atBoundary (comparison.symbol.toList ++ rest) = true := by
  cases comparison <;> rfl

theorem takeWhile_of_atBoundary {keeps : Char → Bool} {line : List Char}
    (inWords : ∀ {c}, keeps c = true → Text.isWordChar c = true)
    (boundary : atBoundary line = true) : line.takeWhile keeps = [] := by
  cases line with
  | nil => rfl
  | cons c line =>
      rw [List.takeWhile_cons, if_neg]
      intro kept
      rw [atBoundary, inWords kept] at boundary
      cases boundary

theorem unitOf_append {unit : Option Char} {rest : List Char} (isUnits : ∀ c ∈ unit, isUnit c = true)
    (boundary : atBoundary rest = true) : unitOf (unit.toList ++ rest) = some unit := by
  cases unit with
  | some c =>
      have whole : (isUnit c && atBoundary rest) = true := by
        rw [isUnits c rfl, boundary]
        rfl
      exact if_pos whole
  | none =>
      cases rest with
      | nil => rfl
      | cons c rest =>
          have noUnit : isUnit c = false := by
            by_contra unit
            rw [atBoundary, isWordChar_of_isUnit (Bool.eq_true_of_not_eq_false unit)] at boundary
            cases boundary
          change unitOf (c :: rest) = some none
          rw [unitOf, noUnit, boundary]
          rfl

theorem exists_of_unitOf {line : List Char} {unit : Option Char} (found : unitOf line = some unit) :
    ∃ rest, line = unit.toList ++ rest ∧ (∀ c ∈ unit, isUnit c = true) ∧
      atBoundary rest = true := by
  unfold unitOf at found
  split at found
  · rename_i c rest
    split at found
    · rename_i both
      cases found
      rcases Bool.and_eq_true_iff.mp both with ⟨isUnit, boundary⟩
      refine ⟨rest, rfl, fun d same => ?_, boundary⟩
      rwa [← Option.some.inj same]
    · split at found
      · rename_i boundary
        cases found
        exact ⟨c :: rest, rfl, fun d impossible => absurd impossible (Option.not_mem_none d), boundary⟩
      · cases found
  · cases found
    exact ⟨[], rfl, fun d impossible => absurd impossible (Option.not_mem_none d), rfl⟩

/-- A token is read off its parts, whatever follows them. -/
theorem recognise_parts {word digits rest : List Char} {unit : Option Char}
    (comparison : Comparison) (named : word ≠ [])
    (inWord : ∀ c ∈ word, Text.isWordChar c = true) (counted : digits ≠ [])
    (isDigits : ∀ c ∈ digits, Text.isDecimalDigit c = true) (isUnits : ∀ c ∈ unit, isUnit c = true)
    (boundary : atBoundary rest = true) :
    recognise (word ++ (comparison.symbol.toList ++ (digits ++ (unit.toList ++ rest)))) =
      some (⟨word, comparison, digits, unit⟩,
        word.length - 1 + comparison.symbol.length + digits.length + unit.toList.length) := by
  have behindWord := takeWhile_of_atBoundary id
    (atBoundary_symbol_append comparison (digits ++ (unit.toList ++ rest)))
  have compared : comparisonOf (comparison.symbol.toList ++ (digits ++ (unit.toList ++ rest))) =
      some (comparison, digits ++ (unit.toList ++ rest)) := by
    cases digits with
    | nil => exact absurd rfl counted
    | cons digit digits =>
        refine comparisonOf_symbol_append comparison ?_ _
        rintro rfl
        exact absurd (isDigits '=' List.mem_cons_self) (by decide)
  have behindDigits : (unit.toList ++ rest).takeWhile Text.isDecimalDigit = [] := by
    cases unit with
    | none => exact takeWhile_of_atBoundary isWordChar_of_isDecimalDigit boundary
    | some c =>
        change (c :: rest).takeWhile Text.isDecimalDigit = []
        rw [List.takeWhile_cons, isDecimalDigit_of_isUnit (isUnits c rfl)]
        rfl
  have someWord : word.isEmpty = false := List.isEmpty_eq_false_iff.mpr named
  have someDigit : digits.isEmpty = false := List.isEmpty_eq_false_iff.mpr counted
  simp only [recognise, takeWhile_run_append inWord behindWord,
    dropWhile_run_append inWord behindWord, someWord, compared,
    takeWhile_run_append isDigits behindDigits, dropWhile_run_append isDigits behindDigits,
    someDigit, unitOf_append isUnits boundary, Bool.false_eq_true, if_false]

/-- The lines that begin with a number token: a word, a comparison, digits, perhaps a unit, and
then the end of the word. -/
def Opens (line : List Char) : Prop :=
  ∃ (word : List Char) (comparison : Comparison) (digits : List Char) (unit : Option Char)
      (rest : List Char),
    line = word ++ (comparison.symbol.toList ++ (digits ++ (unit.toList ++ rest))) ∧
      word ≠ [] ∧ (∀ c ∈ word, Text.isWordChar c = true) ∧
      digits ≠ [] ∧ (∀ c ∈ digits, Text.isDecimalDigit c = true) ∧
      (∀ c ∈ unit, isUnit c = true) ∧ atBoundary rest = true

theorem recognise_ne_none_iff {line : List Char} : recognise line ≠ none ↔ Opens line := by
  constructor
  · intro found
    simp only [recognise] at found
    split at found
    · exact absurd rfl found
    rename_i named
    split at found
    · exact absurd rfl found
    rename_i comparison rest compared
    split at found
    · exact absurd rfl found
    rename_i counted
    split at found
    · exact absurd rfl found
    rename_i unit measured
    rcases exists_of_unitOf measured with ⟨behind, afterDigits, isUnits, boundary⟩
    refine ⟨line.takeWhile Text.isWordChar, comparison, rest.takeWhile Text.isDecimalDigit, unit,
      behind, ?_, fun empty => named (List.isEmpty_iff.mpr empty),
      fun c member => List.mem_takeWhile_imp member,
      fun empty => counted (List.isEmpty_iff.mpr empty),
      fun c member => List.mem_takeWhile_imp member, isUnits, boundary⟩
    rw [← afterDigits, List.takeWhile_append_dropWhile, ← eq_append_of_comparisonOf compared,
      List.takeWhile_append_dropWhile]
  · rintro ⟨word, comparison, digits, unit, rest, rfl, named, inWord, counted, isDigits, isUnits,
      boundary⟩
    rw [recognise_parts comparison named inWord counted isDigits isUnits boundary]
    exact Option.some_ne_none _

theorem wordwise : Wordwise recognise where
  nothing := rfl
  beforeBlank := by
    intro line found
    rcases recognise_ne_none_iff.mp found with ⟨word, comparison, digits, unit, rest, rfl, named,
      inWord, counted, isDigits, isUnits, boundary⟩
    apply recognise_ne_none_iff.mpr
    refine ⟨word, comparison, digits, unit, untilBlank rest, ?_, named, inWord, counted, isDigits,
      isUnits, ?_⟩
    · have symbolNonblank : ∀ c ∈ comparison.symbol.toList, Text.isBlank c = false := by
        have checked : comparison.symbol.toList.all (!Text.isBlank ·) = true := by
          cases comparison <;> rfl
        simpa using checked
      rw [untilBlank_append fun c member => isBlank_eq_false_of_isWordChar (inWord c member),
        untilBlank_append symbolNonblank,
        untilBlank_append fun c member => isBlank_eq_false_of_isWordChar
          (isWordChar_of_isDecimalDigit (isDigits c member)),
        untilBlank_append fun c member => isBlank_eq_false_of_isWordChar
          (isWordChar_of_isUnit (isUnits c (Option.mem_toList.mp member)))]
    · cases rest with
      | nil => rfl
      | cons c rest =>
          cases blank : Text.isBlank c with
          | true => rw [untilBlank_cons_of_blank blank]; rfl
          | false => rw [untilBlank_cons blank]; exact boundary
  continued := by
    intro line rest ends found
    rcases recognise_ne_none_iff.mp found with ⟨word, comparison, digits, unit, tail, rfl, named,
      inWord, counted, isDigits, isUnits, boundary⟩
    apply recognise_ne_none_iff.mpr
    refine ⟨word, comparison, digits, unit, tail ++ rest, by simp only [List.append_assoc], named,
      inWord, counted, isDigits, isUnits, ?_⟩
    cases tail with
    | cons c tail => exact boundary
    | nil =>
        -- The line ends with the digits or the unit, so it ends inside a word.
        apply ends
        rw [List.append_nil, ← List.append_assoc]
        apply endsInWord_append_of_word
        · exact fun empty => counted (List.append_eq_nil_iff.mp empty).1
        · intro c member
          rcases List.mem_append.mp member with inDigits | inUnit
          · exact isWordChar_of_isDecimalDigit (isDigits c inDigits)
          · exact isWordChar_of_isUnit (isUnits c (Option.mem_toList.mp inUnit))
  wholeWord := by
    intro c d line before _ found
    rcases recognise_ne_none_iff.mp found with ⟨word, comparison, digits, unit, rest, same, named,
      inWord, others⟩
    apply recognise_ne_none_iff.mpr
    exact ⟨c :: word, comparison, digits, unit, rest, congrArg (c :: ·) same,
      List.cons_ne_nil _ _, List.forall_mem_cons.mpr ⟨before, inWord⟩, others⟩

end NumberToken

end Query
end Gallery
