import Gallery.Proofs.Query.NumberTokens
import Gallery.Proofs.Query.WellFormed
import Gallery.Proofs.Store.Keyed
import Mathlib.Data.List.Induction

namespace Gallery
namespace Query

/-!
# The last filter on a subject wins

A query keeps one number filter for each subject.  Taking up one more filter drops the
one that its subject had and puts the new one at the end, so the filters that are left
stand in the order of their tokens.  What one token does is `numbersOf_concat`; that the
filters of a whole line are those of the last accepted tokens follows by induction over
the tokens, from left to right, with the places of these tokens as the invariant.

Which tokens are accepted is a parameter of `LastWins`.  It holds of the tokens that are
read.  Of the tokens that ask for something it holds as long as none of them that comes
last on its subject is written in other digits than those of ASCII: such a token is
dropped, and an earlier one that it should have replaced stays in force.
-/

/-- The number tokens of a line, from left to right. -/
def numberTokens (line : String) : List NumberToken :=
  tokens (numberPieces line.toList)

/-- The number filters that are left of a run of tokens. -/
def numbersOf (tokens : List NumberToken) : List NumberFilter :=
  NumberFilter.lastPerSubject (tokens.filterMap NumberToken.numberFilter?)

/-! ## One more token -/

/-- A token that is not read changes nothing.  One that is read takes the place of the filter
on its subject and moves to the end. -/
theorem numbersOf_concat (earlier : List NumberToken) (token : NumberToken) :
    numbersOf (earlier ++ [token]) =
      match token.numberFilter? with
      | none => numbersOf earlier
      | some filter => (numbersOf earlier).filter (·.subject ≠ filter.subject) ++ [filter] := by
  unfold numbersOf
  rw [List.filterMap_append, NumberFilter.lastPerSubject_append]
  cases read : token.numberFilter? with
  | none =>
      rw [List.filterMap_cons_none read, List.filterMap_nil, NumberFilter.lastPerSubject,
        List.append_nil]
      exact List.filter_eq_self.mpr fun _ _ => rfl
  | some filter =>
      rw [List.filterMap_cons_some read, List.filterMap_nil, NumberFilter.lastPerSubject]
      refine congrArg (· ++ [filter]) (List.filter_congr fun other _ => ?_)
      rw [List.any_cons, List.any_nil, Bool.or_false, decide_not]
      exact congrArg _ (decide_eq_decide.mpr eq_comm)

/-! ## The last accepted tokens -/

section Accepted

variable {accepts : NumberToken → NumberFilter → Prop}

/-- The token at a place is accepted for a filter, and no later one is accepted for a filter on
the same subject. -/
structure LastAccepted (accepts : NumberToken → NumberFilter → Prop) (tokens : List NumberToken)
    (place : Nat) (filter : NumberFilter) : Prop where
  accepted : ∃ token, tokens[place]? = some token ∧ accepts token filter
  last : ∀ {later token other}, place < later → tokens[later]? = some token →
    accepts token other → other.subject ≠ filter.subject

theorem LastAccepted.lt_length {tokens : List NumberToken} {place : Nat} {filter : NumberFilter}
    (lastAccepted : LastAccepted accepts tokens place filter) : place < tokens.length := by
  rcases lastAccepted.accepted with ⟨_, found, _⟩
  exact (List.getElem?_eq_some_iff.mp found).1

/-- Where a token is accepted, that one or a later one is accepted last on its subject. -/
theorem exists_lastAccepted {tokens : List NumberToken} {place : Nat} {token : NumberToken}
    {filter : NumberFilter} (found : tokens[place]? = some token) (accepted : accepts token filter) :
    ∃ last other, place ≤ last ∧ other.subject = filter.subject ∧
      LastAccepted accepts tokens last other := by
  induction remaining : tokens.length - place using Nat.strongRecOn
    generalizing place token filter with
  | ind remaining inductionHypothesis =>
      by_cases replaced : ∃ later next other, place < later ∧ tokens[later]? = some next ∧
          accepts next other ∧ other.subject = filter.subject
      · rcases replaced with ⟨later, next, other, behind, atLater, isAccepted, sameSubject⟩
        have within := (List.getElem?_eq_some_iff.mp atLater).1
        rcases inductionHypothesis (tokens.length - later) (by omega) atLater isAccepted rfl with
          ⟨last, final, beyond, isSubject, lastAccepted⟩
        exact ⟨last, final, behind.le.trans beyond, isSubject.trans sameSubject, lastAccepted⟩
      · refine ⟨place, filter, Nat.le_refl _, rfl, ⟨token, found, accepted⟩,
          fun behind atLater isAccepted sameSubject => replaced ?_⟩
        exact ⟨_, _, _, behind, atLater, isAccepted, sameSubject⟩

/-- With one more token, the last accepted ones are this token, if it is accepted, and the
earlier ones that it does not replace. -/
theorem lastAccepted_concat_iff {earlier : List NumberToken} {token : NumberToken} {place : Nat}
    {filter : NumberFilter} :
    LastAccepted accepts (earlier ++ [token]) place filter ↔
      (LastAccepted accepts earlier place filter ∧
          ∀ other, accepts token other → other.subject ≠ filter.subject) ∨
        (place = earlier.length ∧ accepts token filter) := by
  constructor
  · rintro ⟨⟨found, atPlace, accepted⟩, last⟩
    have within := (List.getElem?_eq_some_iff.mp atPlace).1
    rw [List.length_append, List.length_singleton] at within
    rcases Nat.lt_or_eq_of_le (Nat.le_of_lt_succ within) with before | atEnd
    · rw [List.getElem?_append_left before] at atPlace
      refine Or.inl ⟨⟨⟨found, atPlace, accepted⟩, fun later atLater isAccepted => ?_⟩,
        fun other isAccepted => last before List.getElem?_concat_length isAccepted⟩
      have inEarlier := (List.getElem?_eq_some_iff.mp atLater).1
      exact last later ((List.getElem?_append_left inEarlier).trans atLater) isAccepted
    · subst atEnd
      rw [List.getElem?_concat_length] at atPlace
      cases atPlace
      exact Or.inr ⟨rfl, accepted⟩
  · rintro (⟨lastAccepted, unreplaced⟩ | ⟨rfl, accepted⟩)
    · rcases lastAccepted.accepted with ⟨found, atPlace, accepted⟩
      refine ⟨⟨found, ?_, accepted⟩, fun later atLater isAccepted => ?_⟩
      · rwa [List.getElem?_append_left lastAccepted.lt_length]
      · have within := (List.getElem?_eq_some_iff.mp atLater).1
        rw [List.length_append, List.length_singleton] at within
        rcases Nat.lt_or_eq_of_le (Nat.le_of_lt_succ within) with before | atEnd
        · rw [List.getElem?_append_left before] at atLater
          exact lastAccepted.last later atLater isAccepted
        · rw [atEnd, List.getElem?_concat_length] at atLater
          cases atLater
          exact unreplaced _ isAccepted
    · refine ⟨⟨token, List.getElem?_concat_length, accepted⟩, fun later atLater _ => ?_⟩
      have within := (List.getElem?_eq_some_iff.mp atLater).1
      rw [List.length_append, List.length_singleton] at within
      omega

/-- Two ways to accept tokens, one of them stricter, agree on the last accepted tokens as soon as
those of the other way are accepted by the stricter one too. -/
theorem lastAccepted_iff_of_stricter {stricter : NumberToken → NumberFilter → Prop}
    {tokens : List NumberToken}
    (weaken : ∀ {token filter}, token ∈ tokens → stricter token filter → accepts token filter)
    (lastStrict : ∀ {place token filter}, LastAccepted accepts tokens place filter →
      tokens[place]? = some token → accepts token filter → stricter token filter)
    (place : Nat) (filter : NumberFilter) :
    LastAccepted accepts tokens place filter ↔ LastAccepted stricter tokens place filter := by
  have weakenAt : ∀ {place token filter}, tokens[place]? = some token → stricter token filter →
      accepts token filter := fun found => weaken (List.mem_of_getElem? found)
  constructor
  · intro lastAccepted
    rcases lastAccepted.accepted with ⟨token, found, accepted⟩
    exact ⟨⟨token, found, lastStrict lastAccepted found accepted⟩, fun later atLater isStrict =>
      lastAccepted.last later atLater (weakenAt atLater isStrict)⟩
  · rintro ⟨⟨token, found, isStrict⟩, last⟩
    refine ⟨⟨token, found, weakenAt found isStrict⟩, fun later atLater accepted sameSubject => ?_⟩
    -- Whatever is accepted last on the subject is accepted by the stricter way, so it is in force.
    rcases exists_lastAccepted atLater accepted with ⟨final, other, beyond, isSubject, lastAccepted⟩
    rcases lastAccepted.accepted with ⟨finalToken, atFinal, finalAccepted⟩
    exact last (Nat.lt_of_lt_of_le later beyond) atFinal
      (lastStrict lastAccepted atFinal finalAccepted) (isSubject.trans sameSubject)

end Accepted

/-- A token is read as a filter. -/
def Reads (token : NumberToken) (filter : NumberFilter) : Prop :=
  token.numberFilter? = some filter

/-- The filters that are left are those of the last tokens that are read, in the order of these
tokens. -/
theorem exists_places (tokens : List NumberToken) :
    ∃ places : List (Nat × NumberFilter),
      places.Pairwise (fun first second => first.1 < second.1) ∧
      (∀ place filter, (place, filter) ∈ places ↔ LastAccepted Reads tokens place filter) ∧
      numbersOf tokens = places.map Prod.snd := by
  induction tokens using List.reverseRecOn with
  | nil =>
      refine ⟨[], List.Pairwise.nil, fun place filter => ?_, rfl⟩
      refine iff_of_false List.not_mem_nil fun lastAccepted => ?_
      exact absurd lastAccepted.lt_length (Nat.not_lt_zero place)
  | append_singleton earlier token inductionHypothesis =>
      rcases inductionHypothesis with ⟨places, ordered, placed, left⟩
      rw [numbersOf_concat]
      cases read : token.numberFilter? with
      | none =>
          have unread : ∀ filter, ¬ Reads token filter := by
            intro filter reads
            rw [Reads, read] at reads
            cases reads
          refine ⟨places, ordered, fun place filter => ?_, left⟩
          rw [placed, lastAccepted_concat_iff]
          constructor
          · exact fun lastAccepted => Or.inl ⟨lastAccepted, fun other reads =>
              absurd reads (unread other)⟩
          · exact fun found => found.elim And.left fun reads => absurd reads.2 (unread filter)
      | some taken =>
          have reads_iff : ∀ filter, Reads token filter ↔ filter = taken := by
            intro filter
            rw [Reads, read, Option.some.injEq, eq_comm]
          have before : ∀ entry ∈ places, entry.1 < earlier.length := fun entry member =>
            ((placed entry.1 entry.2).mp member).lt_length
          refine ⟨places.filter (·.2.subject ≠ taken.subject) ++ [(earlier.length, taken)], ?_, ?_, ?_⟩
          · refine List.pairwise_append.mpr ⟨ordered.filter _, List.pairwise_singleton _ _, ?_⟩
            intro entry member last isLast
            rw [List.mem_singleton.mp isLast]
            exact before entry (List.mem_of_mem_filter member)
          · intro place filter
            rw [List.mem_append, List.mem_filter, placed, List.mem_singleton, Prod.mk.injEq,
              lastAccepted_concat_iff, decide_eq_true_eq, reads_iff]
            refine or_congr (and_congr_right fun _ => ?_) Iff.rfl
            constructor
            · intro kept other reads
              rw [(reads_iff other).mp reads]
              exact kept ∘ Eq.symm
            · exact fun unreplaced => unreplaced taken ((reads_iff taken).mpr rfl) ∘ Eq.symm
          · rw [List.map_append, left]
            exact congrArg (· ++ [taken]) List.filter_map

/-! ## Whole lines -/

/-- The number filters of a query are those of the last accepted tokens, in the order of these
tokens.  Each of them is found under its subject, and tokens that are not accepted might as well
be missing. -/
structure LastWins (accepts : NumberToken → NumberFilter → Prop) (line : String) : Prop where
  listed : ∃ places : List (Nat × NumberFilter),
    places.Pairwise (fun first second => first.1 < second.1) ∧
    (∀ place filter, (place, filter) ∈ places ↔
      LastAccepted accepts (numberTokens line) place filter) ∧
    (parse line).numbers = places.map Prod.snd
  found : ∀ subject filter, (parse line).numberFor subject = some filter ↔
    filter.subject = subject ∧ ∃ place, LastAccepted accepts (numberTokens line) place filter
  unmoved : ∀ {before token after}, numberTokens line = before ++ token :: after →
    (∀ filter, ¬ accepts token filter) → (parse line).numbers = numbersOf (before ++ after)

/-- What is accepted has the last word if the last accepted tokens are those that are read last
and no token is read that is not accepted. -/
theorem lastWins_of_reads {accepts : NumberToken → NumberFilter → Prop} {line : String}
    (sameLast : ∀ place filter, LastAccepted accepts (numberTokens line) place filter ↔
      LastAccepted Reads (numberTokens line) place filter)
    (acceptsRead : ∀ token ∈ numberTokens line, ∀ filter, Reads token filter →
      accepts token filter) : LastWins accepts line := by
  have numbers : (parse line).numbers = numbersOf (numberTokens line) := rfl
  rcases exists_places (numberTokens line) with ⟨places, ordered, placed, left⟩
  have sameListed := fun place filter => (placed place filter).trans (sameLast place filter).symm
  refine ⟨⟨places, ordered, sameListed, numbers.trans left⟩, fun subject filter => ?_,
    fun {before token after} split rejected => ?_⟩
  · rw [numberFor, Store.find?_key_eq_some_iff (parse_wellFormed line).subjects, numbers, left,
      and_comm]
    refine and_congr_right fun _ => ?_
    constructor
    · intro member
      rcases List.mem_map.mp member with ⟨⟨place, other⟩, inPlaces, rfl⟩
      exact ⟨place, (sameLast _ _).mpr ((placed _ _).mp inPlaces)⟩
    · rintro ⟨place, lastAccepted⟩
      exact List.mem_map.mpr ⟨(place, filter), (placed _ _).mpr ((sameLast _ _).mp lastAccepted), rfl⟩
  · have unread : token.numberFilter? = none := by
      have member : token ∈ numberTokens line := by
        rw [split]
        exact List.mem_append_right _ List.mem_cons_self
      exact Option.eq_none_iff_forall_ne_some.mpr fun filter reads =>
        rejected filter (acceptsRead token member filter reads)
    rw [numbers, split, numbersOf, numbersOf, List.filterMap_append, List.filterMap_append,
      List.filterMap_cons_none unread]

/-- Tokens in the digits of ASCII are read as what they ask for. -/
theorem reads_iff {line : String} {token : NumberToken} {filter : NumberFilter}
    (member : token ∈ numberTokens line) :
    Reads token filter ↔ token.AsksFor filter ∧ token.IsAscii :=
  NumberToken.numberFilter?_eq_some_iff (NumberToken.proper_of_mem member)

/-- The last token in the digits of ASCII has the last word on its subject.  So it is with tokens
in any digits, as long as none of those that should have the last word is written in others. -/
theorem last_accepted_filters_win (line : String) :
    LastWins (fun token filter => token.AsksFor filter ∧ token.IsAscii) line ∧
      ((∀ place filter, LastAccepted NumberToken.AsksFor (numberTokens line) place filter →
          ∀ token, (numberTokens line)[place]? = some token → token.IsAscii) →
        LastWins NumberToken.AsksFor line) := by
  have acceptsRead : ∀ {token filter}, token ∈ numberTokens line → Reads token filter →
      token.AsksFor filter ∧ token.IsAscii := fun member => (reads_iff member).mp
  have readsAccepted : ∀ {place token filter}, (numberTokens line)[place]? = some token →
      token.AsksFor filter → token.IsAscii → Reads token filter :=
    fun found asks ascii => (reads_iff (List.mem_of_getElem? found)).mpr ⟨asks, ascii⟩
  constructor
  · exact lastWins_of_reads
      (lastAccepted_iff_of_stricter acceptsRead fun _ found accepted =>
        readsAccepted found accepted.1 accepted.2)
      fun _ member _ => acceptsRead member
  · intro lastInAscii
    exact lastWins_of_reads
      (lastAccepted_iff_of_stricter (fun member reads => (acceptsRead member reads).1)
        fun lastAsked found asks => readsAccepted found asks (lastInAscii _ _ lastAsked _ found))
      fun _ member _ reads => (acceptsRead member reads).1

/-- A unit on pages, a reserved word and a number that is too large leave the filters before them
where they are. -/
theorem rejected_tokens_leave_filters :
    LastWins NumberToken.AsksFor
        "pages>9 artist=2 PAGES<5 size>1k Artist=3 pages>7m url=1 Tags<9223372036854775808" ∧
      (parse "pages>9 artist=2 PAGES<5 size>1k Artist=3 pages>7m url=1 Tags<9223372036854775808").numbers =
        [⟨.namespaceCount "artist", .equal, 2⟩, ⟨.pages, .less, 5⟩, ⟨.size, .greater, 1024⟩,
          ⟨.namespaceCount "Artist", .equal, 3⟩] := by
  refine ⟨(last_accepted_filters_win _).2 fun place filter _ token found => ?_, by decide +kernel⟩
  have ascii : (numberTokens
      "pages>9 artist=2 PAGES<5 size>1k Artist=3 pages>7m url=1 Tags<9223372036854775808").all
        (·.digits.all Char.isDigit) = true := by decide +kernel
  exact List.all_eq_true.mp (List.all_eq_true.mp ascii token (List.mem_of_getElem? found))

/-- A wide five fits, but the filter before it stays in force. -/
theorem wide_five_loses_the_last_word :
    ¬ LastWins NumberToken.AsksFor "pages>9 pages<５" ∧
      (parse "pages>9 pages<５").numbers = [⟨.pages, .greater, 9⟩] := by
  have numbers : (parse "pages>9 pages<５").numbers = [⟨.pages, .greater, 9⟩] := by decide +kernel
  refine ⟨fun wins => ?_, numbers⟩
  have tokens : numberTokens "pages>9 pages<５" =
      [⟨"pages".toList, .greater, ['9'], none⟩, ⟨"pages".toList, .less, ['５'], none⟩] := by
    decide +kernel
  have asks : NumberToken.AsksFor ⟨"pages".toList, .less, ['５'], none⟩ ⟨.pages, .less, 5⟩ :=
    ⟨by decide, .pages (by decide +kernel), fun impossible => absurd impossible (by decide), rfl,
      by decide⟩
  have lastAsked : LastAccepted NumberToken.AsksFor (numberTokens "pages>9 pages<５") 1
      ⟨.pages, .less, 5⟩ := by
    rw [tokens]
    refine ⟨⟨_, rfl, asks⟩, fun later atLater _ => ?_⟩
    have within := (List.getElem?_eq_some_iff.mp atLater).1
    exact absurd within (Nat.not_lt_of_le later)
  have found := (wins.found .pages _).mpr ⟨rfl, 1, lastAsked⟩
  rw [numberFor, numbers] at found
  cases found

end Query
end Gallery
