import Gallery.Proofs.Text.Alphanumeric
import Gallery.Text.Like
import Mathlib.Data.List.Infix

namespace Gallery
namespace Text

/-!
# What patterns match

The matcher goes through a pattern once and keeps all ends of the text that may be left
over.  `Like.Covers` says what it decides, one rule for each kind of character.  They
agree because the ends are kept in order: each is an end of all those before it, so the
ends of the first one are the ends of all, and a percent sign may forget the others.

A text is a pattern too.  If all its characters are plain it matches what is equal to it
up to the case of ASCII letters, and between percent signs it matches what contains it.
With any other character it always matches something else besides: what is left when the
percent signs are taken out and others stand for the characters that are not plain.
-/

/-- Whether two texts are equal up to the case of ASCII letters. -/
def equalUpToCase (first second : String) : Bool :=
  first.toList.map Char.toLower = second.toList.map Char.toLower

/-- Whether a text occurs in another one up to the case of ASCII letters. -/
def occursUpToCase (part whole : String) : Bool :=
  part.toList.map Char.toLower <:+: whole.toList.map Char.toLower

namespace Like

/-! ## The matcher -/

/-- A pattern that stands for a text. -/
inductive Covers : List Char → List Char → Prop
  | nil : Covers [] []
  | skip (skipped : List Char) {pattern text : List Char} (rest : Covers pattern text) :
      Covers ('%' :: pattern) (skipped ++ text)
  | accept {p c : Char} {pattern text : List Char} (single : p ≠ '%')
      (accepted : accepts p c = true) (rest : Covers pattern text) :
      Covers (p :: pattern) (c :: text)

theorem ends_eq_tails (text : List Char) : ends text = text.tails := by
  induction text with
  | nil => rfl
  | cons c text inductionHypothesis => rw [ends, inductionHypothesis, List.tails_cons]

theorem mem_ends_iff {left text : List Char} : left ∈ ends text ↔ left <:+ text := by
  rw [ends_eq_tails, List.mem_tails]

/-- Each kept end is an end of those before it. -/
abbrev Nested (left : List (List Char)) : Prop :=
  left.Pairwise fun longer shorter => shorter <:+ longer

theorem nested_ends (text : List Char) : Nested (ends text) := by
  induction text with
  | nil => exact List.pairwise_singleton _ _
  | cons c text inductionHypothesis =>
      refine List.pairwise_cons.mpr ⟨fun left member => ?_, inductionHypothesis⟩
      exact (mem_ends_iff.mp member).trans (List.suffix_cons c text)

theorem step?_eq_some_iff {p : Char} {text rest : List Char} :
    step? p text = some rest ↔ ∃ c, text = c :: rest ∧ accepts p c = true := by
  cases text with
  | nil => simp only [step?, reduceCtorEq, List.nil_eq, false_and, exists_false]
  | cons c text =>
      rw [step?, Option.ite_none_right_eq_some, Option.some.injEq]
      constructor
      · rintro ⟨accepted, rfl⟩
        exact ⟨c, rfl, accepted⟩
      · rintro ⟨d, same, accepted⟩
        rcases List.cons.inj same with ⟨rfl, rfl⟩
        exact ⟨accepted, rfl⟩

theorem Nested.step {left : List (List Char)} (nested : Nested left) (p : Char) :
    Nested (left.filterMap (step? p)) := by
  refine List.Pairwise.filterMap (step? p) (fun longer shorter suffix rest taken rest' taken' => ?_)
    nested
  rcases step?_eq_some_iff.mp taken with ⟨c, rfl, _⟩
  rcases step?_eq_some_iff.mp taken' with ⟨d, rfl, _⟩
  rcases List.suffix_cons_iff.mp suffix with same | within
  · rw [(List.cons.inj same).2]
  · exact (List.suffix_cons d rest').trans within

/-- The pattern covers one of the ends exactly if the matcher finds one that is used up. -/
theorem any_foldl_advance_iff {pattern : List Char} {left : List (List Char)}
    (nested : Nested left) :
    (pattern.foldl advance left).any List.isEmpty = true ↔ ∃ text ∈ left, Covers pattern text := by
  induction pattern generalizing left with
  | nil =>
      rw [List.foldl_nil, List.any_eq_true]
      constructor
      · rintro ⟨text, member, empty⟩
        rw [List.isEmpty_iff.mp empty] at member
        exact ⟨[], member, .nil⟩
      · rintro ⟨text, member, covered⟩
        cases covered
        exact ⟨[], member, rfl⟩
  | cons p pattern inductionHypothesis =>
      rw [List.foldl_cons]
      by_cases percent : p = '%'
      · subst percent
        cases left with
        | nil =>
            rw [advance, if_pos rfl, inductionHypothesis List.Pairwise.nil]
            simp only [List.not_mem_nil, false_and, exists_false]
        | cons longest others =>
            rw [advance, if_pos rfl, inductionHypothesis (nested_ends longest)]
            constructor
            · rintro ⟨text, member, covered⟩
              rcases mem_ends_iff.mp member with ⟨skipped, rfl⟩
              exact ⟨_, List.mem_cons_self, .skip skipped covered⟩
            · rintro ⟨text, member, covered⟩
              have suffix : text <:+ longest := by
                rcases List.mem_cons.mp member with rfl | later
                · exact List.suffix_rfl
                · exact (List.pairwise_cons.mp nested).1 text later
              cases covered with
              | skip skipped rest =>
                  exact ⟨_, mem_ends_iff.mpr ((List.suffix_append _ _).trans suffix), rest⟩
              | accept single => exact absurd rfl single
      · have advanced : advance left p = left.filterMap (step? p) := by
          simp only [advance, if_neg percent]
        rw [advanced, inductionHypothesis (nested.step p)]
        simp only [List.mem_filterMap, step?_eq_some_iff]
        constructor
        · rintro ⟨text, ⟨_, member, c, rfl, accepted⟩, covered⟩
          exact ⟨c :: text, member, .accept percent accepted covered⟩
        · rintro ⟨text, member, covered⟩
          cases covered with
          | skip => exact absurd rfl percent
          | accept _ accepted rest => exact ⟨_, ⟨_, member, _, rfl, accepted⟩, rest⟩

/-- The matcher decides which patterns stand for which texts. -/
theorem matchesChars_iff {pattern text : List Char} :
    matchesChars pattern text = true ↔ Covers pattern text := by
  rw [matchesChars, any_foldl_advance_iff (List.pairwise_singleton _ _)]
  simp only [List.mem_singleton, exists_eq_left]

/-! ## Plain patterns -/

/-- Whether a character of a pattern stands for itself only, up to case: it is no wildcard,
and no other character is read as it is. -/
def IsPlain (c : Char) : Prop := c ≠ '%' ∧ c ≠ '_' ∧ readChar c ≠ '\uFFFD'

instance (c : Char) : Decidable (IsPlain c) :=
  inferInstanceAs (Decidable (c ≠ '%' ∧ c ≠ '_' ∧ readChar c ≠ '\uFFFD'))

/-- Whether all characters of a text are plain. -/
def Plain (text : List Char) : Prop := ∀ c ∈ text, IsPlain c

instance (text : List Char) : Decidable (Plain text) :=
  decidable_of_iff ((text.all fun c => IsPlain c) = true) (by
    simp only [Plain, List.all_eq_true, decide_eq_true_eq])

theorem Plain.of_cons {c : Char} {text : List Char} (plain : Plain (c :: text)) : Plain text :=
  fun d member => plain d (List.mem_cons_of_mem c member)

/-- A character is read as itself, or it is one of the two that are not. -/
theorem readChar_eq (c : Char) :
    readChar c = c ∨ readChar c = '\uFFFD' ∧ (c = '\uFFFE' ∨ c = '\uFFFF') := by
  unfold readChar
  split
  · rename_i unread
    exact Or.inr ⟨rfl, by simpa using unread⟩
  · exact Or.inl rfl

theorem accepts_iff {p c : Char} (plain : IsPlain p) :
    accepts p c = true ↔ p.toLower = c.toLower := by
  have own : readChar p = p := (readChar_eq p).resolve_right fun unread => plain.2.2 unread.1
  rw [accepts, decide_eq_false plain.2.1, Bool.false_or, decide_eq_true_iff, own]
  rcases readChar_eq c with read | ⟨read, unread⟩
  · rw [read]
  · -- Neither what the character is read as nor the character itself is plain.
    have never : ∀ other, (other = '\uFFFD' ∨ other = '\uFFFE' ∨ other = '\uFFFF') →
        p.toLower ≠ other.toLower := by
      rintro other (rfl | rfl | rfl) lowered
      · exact plain.2.2 (by rw [eq_of_toLower_eq (by decide) lowered]; rfl)
      · exact plain.2.2 (by rw [eq_of_toLower_eq (by decide) lowered]; rfl)
      · exact plain.2.2 (by rw [eq_of_toLower_eq (by decide) lowered]; rfl)
    rw [read]
    exact iff_of_false (never _ (Or.inl rfl)) (never _ (Or.inr unread))

theorem covers_cons_iff {p : Char} {pattern text : List Char} (single : p ≠ '%') :
    Covers (p :: pattern) text ↔ ∃ c rest, text = c :: rest ∧ accepts p c = true ∧
      Covers pattern rest := by
  constructor
  · intro covered
    cases covered with
    | skip => exact absurd rfl single
    | accept _ accepted rest => exact ⟨_, _, rfl, accepted, rest⟩
  · rintro ⟨c, rest, rfl, accepted, covered⟩
    exact .accept single accepted covered

theorem covers_percent_iff {pattern text : List Char} :
    Covers ('%' :: pattern) text ↔ ∃ rest, rest <:+ text ∧ Covers pattern rest := by
  constructor
  · intro covered
    cases covered with
    | skip skipped rest => exact ⟨_, List.suffix_append _ _, rest⟩
    | accept single => exact absurd rfl single
  · rintro ⟨rest, ⟨skipped, rfl⟩, covered⟩
    exact .skip skipped covered

/-- A plain pattern stands for the texts that have its letters. -/
theorem covers_iff_of_plain {pattern text : List Char} (plain : Plain pattern) :
    Covers pattern text ↔ pattern.map Char.toLower = text.map Char.toLower := by
  induction pattern generalizing text with
  | nil =>
      constructor
      · intro covered
        cases covered
        rfl
      · intro same
        rw [List.map_eq_nil_iff.mp same.symm]
        exact .nil
  | cons p pattern inductionHypothesis =>
      have single := plain p List.mem_cons_self
      rw [covers_cons_iff single.1]
      simp only [accepts_iff single, inductionHypothesis plain.of_cons]
      cases text with
      | nil => simp only [List.nil_eq, reduceCtorEq, false_and, exists_false, List.map_cons,
          List.map_nil]
      | cons c text => simp only [List.cons.injEq, List.map_cons, and_assoc, exists_and_left,
          exists_eq_left']

theorem covers_append_percent_iff {pattern text : List Char} (plain : Plain pattern) :
    Covers (pattern ++ ['%']) text ↔ pattern.map Char.toLower <+: text.map Char.toLower := by
  induction pattern generalizing text with
  | nil =>
      rw [List.nil_append, covers_percent_iff]
      exact iff_of_true ⟨[], List.nil_suffix, .nil⟩ List.nil_prefix
  | cons p pattern inductionHypothesis =>
      have single := plain p List.mem_cons_self
      rw [List.cons_append, covers_cons_iff single.1]
      simp only [accepts_iff single, inductionHypothesis plain.of_cons]
      cases text with
      | nil => simp only [List.nil_eq, reduceCtorEq, false_and, exists_false, List.map_cons,
          List.map_nil, List.prefix_nil]
      | cons c text => simp only [List.cons.injEq, List.map_cons, List.cons_prefix_cons, and_assoc,
          exists_and_left, exists_eq_left']

/-- Between percent signs a plain pattern stands for the texts that contain it. -/
theorem covers_between_iff {pattern text : List Char} (plain : Plain pattern) :
    Covers ('%' :: (pattern ++ ['%'])) text ↔
      pattern.map Char.toLower <:+: text.map Char.toLower := by
  rw [covers_percent_iff, List.infix_iff_prefix_suffix]
  simp only [covers_append_percent_iff plain]
  constructor
  · rintro ⟨rest, suffix, starts⟩
    exact ⟨_, starts, suffix.map Char.toLower⟩
  · rintro ⟨letters, starts, suffix⟩
    rcases List.suffix_map_iff.mp suffix with ⟨rest, within, rfl⟩
    exact ⟨rest, within, starts⟩

/-! ## Patterns that are not plain -/

/-- What else a character of a pattern stands for, if it is not plain. -/
def standIn (c : Char) : Char :=
  if c = '_' then 'x' else if c = '\uFFFD' then '\uFFFE' else readChar c

/-- The pattern without percent signs, with others for the characters that are not plain. -/
def filled (pattern : List Char) : List Char :=
  (pattern.filter (· ≠ '%')).map standIn

theorem accepts_standIn (c : Char) : accepts c (standIn c) = true := by
  unfold standIn
  split
  · rename_i underscore
    rw [underscore]
    rfl
  split
  · rename_i replacement
    rw [replacement]
    rfl
  rw [accepts, Bool.or_eq_true, decide_eq_true_iff, decide_eq_true_iff]
  rcases readChar_eq c with read | ⟨read, _⟩
  · rw [read, read]
    exact Or.inr rfl
  · rw [read]
    exact Or.inr rfl

/-- Only what stands in for a plain character is that character. -/
theorem isPlain_of_toLower_standIn {c : Char} (single : c ≠ '%')
    (same : c.toLower = (standIn c).toLower) : IsPlain c := by
  refine ⟨single, ?_, ?_⟩
  · rintro rfl
    exact absurd same (by decide)
  · intro unread
    rcases readChar_eq c with own | ⟨_, rfl | rfl⟩
    · rw [own.symm.trans unread] at same
      exact absurd same (by decide)
    · exact absurd same (by decide)
    · exact absurd same (by decide)

theorem covers_filled (pattern : List Char) : Covers pattern (filled pattern) := by
  induction pattern with
  | nil => exact .nil
  | cons p pattern inductionHypothesis =>
      by_cases percent : p = '%'
      · subst percent
        exact .skip [] inductionHypothesis
      · have kept : filled (p :: pattern) = standIn p :: filled pattern := by
          simp only [filled, List.filter_cons, ne_eq, percent, not_false_eq_true, decide_true,
            if_true, List.map_cons]
        rw [kept]
        exact .accept percent (accepts_standIn p) inductionHypothesis

theorem filled_between (pattern : List Char) :
    filled ('%' :: (pattern ++ ['%'])) = filled pattern := by
  simp [filled]

/-- A pattern that is not plain does not occur in what it stands for when it is filled: it
is longer, or some of its characters are others. -/
theorem plain_of_infix_filled {pattern : List Char}
    (occurs : pattern.map Char.toLower <:+: (filled pattern).map Char.toLower) :
    Plain pattern := by
  have fits : pattern.length ≤ (pattern.filter (· ≠ '%')).length := by
    simpa only [filled, List.length_map] using occurs.length_le
  have whole : pattern.filter (· ≠ '%') = pattern :=
    List.filter_eq_self.mpr (List.length_filter_eq_length_iff.mp
      (Nat.le_antisymm (List.length_filter_le _ _) fits))
  rw [filled, whole] at occurs
  have same := occurs.eq_of_length (by simp only [List.length_map])
  rw [List.map_map, List.map_inj_left] at same
  intro c member
  have single : c ≠ '%' := of_decide_eq_true (List.filter_eq_self.mp whole c member)
  exact isPlain_of_toLower_standIn single (same c member)

theorem nullFree_filled {pattern : List Char} (free : '\x00' ∉ pattern) :
    '\x00' ∉ filled pattern := by
  intro member
  rcases List.mem_map.mp member with ⟨p, inPattern, isNull⟩
  unfold standIn at isNull
  split at isNull
  · exact absurd isNull (by decide)
  split at isNull
  · exact absurd isNull (by decide)
  rcases readChar_eq p with read | ⟨read, _⟩
  · exact free (read.symm.trans isNull ▸ (List.mem_filter.mp inPattern).1)
  · rw [read] at isNull
    exact absurd isNull (by decide)

end Like

/-! ## Texts as patterns -/

theorem untilNull_of_nullFree {text : List Char} (free : '\x00' ∉ text) : untilNull text = text := by
  apply List.takeWhile_eq_self_iff.mpr
  intro c member
  exact decide_eq_true fun isNull => free (isNull ▸ member)

theorem like_iff_of_nullFree {pattern text : String} (free : '\x00' ∉ pattern.toList)
    (freeText : '\x00' ∉ text.toList) :
    like pattern text = true ↔ Like.Covers pattern.toList text.toList := by
  rw [like, untilNull_of_nullFree free, untilNull_of_nullFree freeText, Like.matchesChars_iff]

/-- A text as a pattern is equality up to case exactly if it is plain. -/
theorem like_eq_equalUpToCase_iff {pattern : String} (free : '\x00' ∉ pattern.toList) :
    (∀ text : String, '\x00' ∉ text.toList → like pattern text = equalUpToCase pattern text) ↔
      Like.Plain pattern.toList := by
  constructor
  · intro literal
    have nullFree : '\x00' ∉ (String.ofList (Like.filled pattern.toList)).toList := by
      rw [String.toList_ofList]
      exact Like.nullFree_filled free
    have matched := (like_iff_of_nullFree free nullFree).mpr (by
      rw [String.toList_ofList]
      exact Like.covers_filled pattern.toList)
    rw [literal _ nullFree, equalUpToCase, String.toList_ofList] at matched
    exact Like.plain_of_infix_filled (of_decide_eq_true matched ▸ List.infix_rfl)
  · intro plain text nullFree
    rw [Bool.eq_iff_iff, like_iff_of_nullFree free nullFree,
      Like.covers_iff_of_plain plain, equalUpToCase, decide_eq_true_iff]

/-- A text between percent signs is containment up to case exactly if it is plain. -/
theorem like_eq_occursUpToCase_iff {part : String} (free : '\x00' ∉ part.toList) :
    (∀ text : String, '\x00' ∉ text.toList →
        like ("%" ++ part ++ "%") text = occursUpToCase part text) ↔
      Like.Plain part.toList := by
  have between : ("%" ++ part ++ "%").toList = '%' :: (part.toList ++ ['%']) := by
    rw [String.toList_append, String.toList_append]
    rfl
  have freeBetween : '\x00' ∉ ("%" ++ part ++ "%").toList := by
    rw [between]
    simp [free]
  constructor
  · intro literal
    have nullFree : '\x00' ∉ (String.ofList (Like.filled part.toList)).toList := by
      rw [String.toList_ofList]
      exact Like.nullFree_filled free
    have matched : like ("%" ++ part ++ "%") (String.ofList (Like.filled part.toList)) = true := by
      rw [like_iff_of_nullFree freeBetween nullFree, between, String.toList_ofList,
        ← Like.filled_between]
      exact Like.covers_filled _
    rw [literal _ nullFree, occursUpToCase, String.toList_ofList] at matched
    exact Like.plain_of_infix_filled (of_decide_eq_true matched)
  · intro plain text nullFree
    rw [Bool.eq_iff_iff, like_iff_of_nullFree freeBetween nullFree, between,
      Like.covers_between_iff plain, occursUpToCase, decide_eq_true_iff]

end Text
end Gallery
