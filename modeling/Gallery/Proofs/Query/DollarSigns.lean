import Gallery.Proofs.Query.LastFilters
import Gallery.Proofs.Text.Entries

namespace Gallery
namespace Query

/-!
# Dollar signs in free text

A dollar sign has no meaning in free text, so a line should read the same without its
dollar signs.  They are dropped from the words of the title, though, and not from the
line: when the line is scanned for number tokens they are still there.  A dollar sign is
no part of such a token.  It cuts the line like any other stop, and what stands on its
two sides may be a token that the whole is not, or no token where the whole is one.

Everything follows from one equation: a scan splits at each character that is no part of
a number token.  So a line falls into stretches in which nothing but dollar signs can
stop a token, and dollar signs are inert as soon as they are harmless to each stretch.
They are if they stand at its ends only, and if there is no token in it either way.
-/

/-! ## Text without dollar signs -/

/-- A text without its dollar signs. -/
def withoutDollars (text : List Char) : List Char :=
  text.filter (· ≠ '$')

theorem withoutDollars_append (first second : List Char) :
    withoutDollars (first ++ second) = withoutDollars first ++ withoutDollars second :=
  List.filter_append ..

theorem withoutDollars_cons {c : Char} (kept : c ≠ '$') (text : List Char) :
    withoutDollars (c :: text) = c :: withoutDollars text :=
  List.filter_cons_of_pos (decide_eq_true kept)

theorem withoutDollars_dollar (text : List Char) :
    withoutDollars ('$' :: text) = withoutDollars text :=
  List.filter_cons_of_neg (by decide)

theorem withoutDollars_of_free {text : List Char} (free : '$' ∉ text) : withoutDollars text = text :=
  List.filter_eq_self.mpr fun _ member => decide_eq_true fun same => free (same ▸ member)

theorem dollarFree_withoutDollars (text : List Char) : '$' ∉ withoutDollars text := fun member =>
  absurd (List.mem_filter.mp member).2 (by decide)

/-- The words of a text without dollar signs are those of the text, each without its dollar signs,
and words of nothing else are gone. -/
theorem wordsFrom_withoutDollars (read text : List Char) :
    Text.wordsFrom (withoutDollars read) (withoutDollars text) =
      ((Text.wordsFrom read text).map withoutDollars).filter (!·.isEmpty) := by
  have reversed : withoutDollars read.reverse = (withoutDollars read).reverse :=
    List.filter_reverse ..
  induction text generalizing read with
  | nil =>
      rw [show withoutDollars [] = [] from rfl, Text.wordsFrom, Text.wordsFrom]
      cases read with
      | nil => rfl
      | cons d read =>
          rw [List.isEmpty_cons, if_neg Bool.false_ne_true, List.map_singleton, List.filter_singleton,
            reversed, List.isEmpty_reverse]
          cases (withoutDollars (d :: read)).isEmpty <;> rfl
  | cons c text inductionHypothesis =>
      by_cases dollar : c = '$'
      · subst dollar
        have nonblank : Text.isBlank '$' = false := by decide
        have next := inductionHypothesis ('$' :: read) (List.filter_reverse ..)
        rw [withoutDollars_dollar] at next ⊢
        rw [next, Text.wordsFrom, if_neg (Bool.eq_false_iff.mp nonblank)]
      · rw [withoutDollars_cons dollar, Text.wordsFrom, Text.wordsFrom]
        cases blank : Text.isBlank c with
        | false =>
            have next := inductionHypothesis (c :: read) (List.filter_reverse ..)
            rwa [withoutDollars_cons dollar] at next
        | true =>
            have next := inductionHypothesis [] rfl
            cases read with
            | nil => exact next
            | cons d read =>
                rw [if_pos rfl, if_pos rfl, List.isEmpty_cons, if_neg Bool.false_ne_true,
                  List.map_cons, reversed]
                cases empty : (withoutDollars (d :: read)).isEmpty with
                | true =>
                    rw [List.filter_cons_of_neg (by simp [empty])]
                    exact next
                | false =>
                    rw [List.filter_cons_of_pos (by simp [empty])]
                    exact congrArg (List.cons _) next

/-- Free text has the same words without its dollar signs. -/
theorem TitleWords.ofText_withoutDollars (text : List Char) :
    ofText (withoutDollars text) = ofText text := by
  have words : Text.words (withoutDollars text) =
      ((Text.words text).map withoutDollars).filter (!·.isEmpty) := wordsFrom_withoutDollars [] text
  have dollarFree : ∀ word ∈ Text.words (withoutDollars text), '$' ∉ word := by
    rw [words]
    intro word member
    rcases List.mem_map.mp (List.mem_of_mem_filter member) with ⟨whole, _, rfl⟩
    exact dollarFree_withoutDollars whole
  -- What is left of a word that is nothing but dollar signs has no role.
  have roles : ∀ role, (Text.words (withoutDollars text)).filterMap (read? role) =
      ((Text.words text).map withoutDollars).filterMap (read? role) := by
    intro role
    rw [words, List.filterMap_filter]
    refine List.filterMap_congr fun word _ => ?_
    cases word with
    | nil => cases role <;> rfl
    | cons c word => rfl
  rw [ofText_of_dollarFree dollarFree, roles, roles, roles]
  rfl

/-! ## Stops of a scan -/

/-- The characters of comparisons. -/
def isSign (c : Char) : Bool :=
  ['<', '>', '='].contains c

/-- The characters that number tokens are made of. -/
def isTokenChar (c : Char) : Bool :=
  Text.isWordChar c || isSign c

namespace NumberToken

theorem isTokenChar_of_mem_written {token : NumberToken} {c : Char} (proper : token.Proper)
    (member : c ∈ token.written) : isTokenChar c = true := by
  have ofWord : ∀ {d}, Text.isWordChar d = true → isTokenChar d = true := fun inWord => by
    rw [isTokenChar, inWord, Bool.true_or]
  simp only [written, List.mem_append] at member
  rcases member with inWord | inSymbol | inDigits | inUnit
  · exact ofWord (proper.word.2 c inWord)
  · have symbols : token.comparison.symbol.toList.all isTokenChar = true := by
      cases token.comparison <;> decide
    exact List.all_eq_true.mp symbols c inSymbol
  · exact ofWord (isWordChar_of_isDecimalDigit (proper.decimal c inDigits))
  · exact ofWord (isWordChar_of_isUnit (proper.unit c (Option.mem_toList.mp inUnit)))

variable {stop : Char}

theorem not_isWordChar_of_stops (stops : isTokenChar stop = false) : Text.isWordChar stop = false :=
  (Bool.or_eq_false_iff.mp stops).1

/-- No token reaches across a stop, and none depends on what is behind it. -/
theorem recognise_append_stop (stops : isTokenChar stop = false) (line rest : List Char) :
    recognise (line ++ stop :: rest) = recognise line := by
  refine Option.ext fun found => ?_
  rcases found with ⟨token, further⟩
  rw [recognise_eq_some_iff, recognise_eq_some_iff]
  refine and_congr_right fun proper => and_congr_right fun _ => ?_
  have apart : stop ∉ token.written := fun member =>
    Bool.false_ne_true (stops.symm.trans (isTokenChar_of_mem_written proper member))
  constructor
  · rintro ⟨behind, same, boundary⟩
    rcases List.append_eq_append_iff.mp same with
      ⟨between, isWritten, isRest⟩ | ⟨between, isLine, isBehind⟩
    · -- The token would end with a part of what begins at the stop.
      cases between with
      | nil => exact ⟨[], by rw [isWritten, List.append_nil, List.append_nil], rfl⟩
      | cons c between =>
          cases isRest
          rw [isWritten] at apart
          exact absurd (List.mem_append_right _ List.mem_cons_self) apart
    · refine ⟨between, isLine, ?_⟩
      cases between with
      | nil => rfl
      | cons c between =>
          rw [isBehind] at boundary
          exact boundary
  · rintro ⟨behind, rfl, boundary⟩
    refine ⟨behind ++ stop :: rest, List.append_assoc .., ?_⟩
    cases behind with
    | nil =>
        rw [List.nil_append, atBoundary, not_isWordChar_of_stops stops]
        rfl
    | cons c behind => exact boundary

theorem recognise_stop (stops : isTokenChar stop = false) (rest : List Char) :
    recognise (stop :: rest) = none :=
  (recognise_append_stop stops [] rest).trans wordwise.nothing

/-- A scan for number tokens splits at every stop. -/
theorem scan_append_stop (stops : isTokenChar stop = false) (line rest : List Char) :
    scan recognise (line ++ stop :: rest) =
      scan recognise line ++ .char stop :: scan recognise rest :=
  scanFrom_append_stop (fun _ => True) (fun _ => trivial) splits.inside
    (fun {line} rest _ => recognise_append_stop stops line rest) (recognise_stop stops)
    (not_isWordChar_of_stops stops) rest trivial (Nat.zero_le _) false

end NumberToken

/-! ## Pieces without dollar signs -/

/-- Whether a piece of a line is left when the dollar signs are dropped. -/
def Piece.remains {α : Type} : Piece α → Bool
  | .char c => c ≠ '$'
  | .token _ => true

theorem tokens_filter_remains {α : Type} (pieces : List (Piece α)) :
    tokens (pieces.filter Piece.remains) = tokens pieces := by
  rw [tokens, tokens, List.filterMap_filter]
  refine List.filterMap_congr fun piece _ => ?_
  cases piece with
  | char c => exact ite_self none
  | token t => rfl

theorem residue_filter_remains {α : Type} (pieces : List (Piece α)) :
    residue (pieces.filter Piece.remains) = withoutDollars (residue pieces) := by
  rw [residue, residue, withoutDollars, List.filter_map]
  refine congrArg _ (List.filter_congr fun piece _ => ?_)
  cases piece <;> rfl

theorem filter_remains_map_char {α : Type} (text : List Char) :
    (text.map Piece.char).filter (Piece.remains (α := α)) = (withoutDollars text).map .char := by
  rw [List.filter_map]
  rfl

/-- A scan of a line without dollar signs has none to drop. -/
theorem filter_remains_of_free {α : Type} {recognise : List Char → Option (α × Nat)} {passed : Nat}
    {inWord : Bool} {line : List Char} (free : '$' ∉ line) :
    (scanFrom recognise passed inWord line).filter Piece.remains =
      scanFrom recognise passed inWord line := by
  induction line generalizing passed inWord with
  | nil => cases passed <;> rfl
  | cons c line inductionHypothesis =>
      rcases not_or.mp (List.mem_cons.not.mp free) with ⟨first, later⟩
      cases passed with
      | succ passed => exact inductionHypothesis later
      | zero =>
          rw [scanFrom]
          split
          · exact congrArg _ (inductionHypothesis later)
          · have kept : Piece.remains (.char c : Piece α) = true := decide_eq_true (Ne.symm first)
            rw [List.filter_cons_of_pos kept, inductionHypothesis later]

/-! ## Stretches -/

/-- What cuts a line into stretches: a stop other than a dollar sign. -/
def cuts (c : Char) : Bool :=
  !isTokenChar c && c ≠ '$'

/-- Dollar signs are harmless to a stretch if they stand at its ends only, or if no number token
begins in it, neither as it stands nor without its dollar signs. -/
def Harmless (stretch : List Char) : Prop :=
  (∃ before core after, stretch = before ++ (core ++ after) ∧ (∀ c ∈ before, c = '$') ∧
    '$' ∉ core ∧ ∀ c ∈ after, c = '$') ∨
  (TokenFree NumberToken.recognise stretch ∧
    TokenFree NumberToken.recognise (withoutDollars stretch))

/-- No number token begins in a text without comparison signs. -/
theorem NumberToken.tokenFree_of_signFree {text : List Char} (signFree : text.any isSign = false) :
    TokenFree recognise text := by
  rintro rest suffix
  by_contra found
  rcases recognise_ne_none_iff.mp found with ⟨word, comparison, digits, unit, behind, rfl, _⟩
  have sign : comparison.symbol.toList.any isSign = true := by cases comparison <;> rfl
  rcases List.any_eq_true.mp sign with ⟨c, inSymbol, isSign⟩
  refine List.any_eq_false.mp signFree c (suffix.subset ?_) isSign
  simp only [List.mem_append, inSymbol, true_or, or_true]

/-- Wherever they stand, dollar signs are harmless to a stretch without comparison signs. -/
theorem harmless_of_signFree {stretch : List Char} (signFree : stretch.any isSign = false) :
    Harmless stretch := by
  have still : (withoutDollars stretch).any isSign = false :=
    List.any_eq_false.mpr fun c member =>
      List.any_eq_false.mp signFree c (List.mem_of_mem_filter member)
  exact Or.inr ⟨NumberToken.tokenFree_of_signFree signFree, NumberToken.tokenFree_of_signFree still⟩

theorem dollar_stops : isTokenChar '$' = false := by decide

theorem scan_dollars_append {dollars : List Char} (isDollars : ∀ c ∈ dollars, c = '$')
    (rest : List Char) :
    scan NumberToken.recognise (dollars ++ rest) =
      dollars.map .char ++ scan NumberToken.recognise rest := by
  induction dollars with
  | nil => rfl
  | cons c dollars inductionHypothesis =>
      rcases List.forall_mem_cons.mp isDollars with ⟨rfl, others⟩
      rw [List.cons_append, List.map_cons, List.cons_append, ← inductionHypothesis others]
      exact NumberToken.scan_append_stop dollar_stops [] (dollars ++ rest)

theorem scan_append_dollars {dollars : List Char} (isDollars : ∀ c ∈ dollars, c = '$')
    (line : List Char) :
    scan NumberToken.recognise (line ++ dollars) =
      scan NumberToken.recognise line ++ dollars.map .char := by
  cases dollars with
  | nil => rw [List.append_nil, List.map_nil, List.append_nil]
  | cons c dollars =>
      rcases List.forall_mem_cons.mp isDollars with ⟨rfl, others⟩
      have alone := scan_dollars_append others []
      rw [List.append_nil] at alone
      rw [NumberToken.scan_append_stop dollar_stops, alone]
      exact congrArg _ (congrArg _ (List.append_nil _))

/-- A stretch is scanned the same way without harmless dollar signs. -/
theorem scan_withoutDollars_of_harmless {stretch : List Char} (harmless : Harmless stretch) :
    scan NumberToken.recognise (withoutDollars stretch) =
      (scan NumberToken.recognise stretch).filter Piece.remains := by
  rcases harmless with ⟨before, core, after, rfl, isBefore, free, isAfter⟩ | ⟨free, freeWithout⟩
  · have dropped : ∀ {dollars : List Char}, (∀ c ∈ dollars, c = '$') → withoutDollars dollars = [] :=
      fun isDollars => List.filter_eq_nil_iff.mpr fun c member => by simp [isDollars c member]
    rw [scan_dollars_append isBefore, scan_append_dollars isAfter, List.filter_append,
      List.filter_append, filter_remains_map_char, filter_remains_map_char, dropped isBefore,
      dropped isAfter, withoutDollars_append, withoutDollars_append, dropped isBefore,
      dropped isAfter, withoutDollars_of_free free, List.append_nil, List.nil_append]
    exact ((List.append_nil _).trans (filter_remains_of_free free)).symm
  · rw [scan, scan, scanFrom_of_tokenFree free, scanFrom_of_tokenFree freeWithout,
      filter_remains_map_char]

/-- A line is scanned the same way without dollar signs that are harmless to its stretches. -/
theorem scan_withoutDollars {line : List Char}
    (harmless : ∀ stretch ∈ Text.split cuts line, Harmless stretch) :
    scan NumberToken.recognise (withoutDollars line) =
      (scan NumberToken.recognise line).filter Piece.remains := by
  induction isSize : line.length using Nat.strongRecOn generalizing line with
  | ind size inductionHypothesis =>
      have uncut : ∀ c ∈ line.takeWhile (!cuts ·), cuts c = false := fun c member =>
        (Bool.not_eq_true' _).mp (List.mem_takeWhile_imp (p := (!cuts ·)) member)
      have parts := List.takeWhile_append_dropWhile (p := (!cuts ·)) (l := line)
      cases remaining : line.dropWhile (!cuts ·) with
      | nil =>
          rw [remaining, List.append_nil] at parts
          rw [parts] at uncut
          rw [Text.split_of_uncut uncut] at harmless
          exact scan_withoutDollars_of_harmless (harmless line List.mem_cons_self)
      | cons c rest =>
          have cut : cuts c = true := by
            have stopped := List.head?_dropWhile_not (!cuts ·) line
            rw [remaining] at stopped
            simpa using stopped
          rw [remaining] at parts
          generalize line.takeWhile (!cuts ·) = part at parts uncut
          subst parts
          rcases Bool.and_eq_true_iff.mp cut with ⟨stops, noDollar⟩
          rw [Text.split_append_cut uncut cut] at harmless
          rcases List.forall_mem_cons.mp harmless with ⟨first, later⟩
          have smaller : rest.length < size := by
            rw [← isSize, List.length_append, List.length_cons]
            omega
          have kept : Piece.remains (.char c : Piece NumberToken) = true := noDollar
          rw [withoutDollars_append, withoutDollars_cons (of_decide_eq_true noDollar),
            NumberToken.scan_append_stop ((Bool.not_eq_true' _).mp stops),
            NumberToken.scan_append_stop ((Bool.not_eq_true' _).mp stops), List.filter_append,
            List.filter_cons_of_pos kept, scan_withoutDollars_of_harmless first,
            inductionHypothesis _ smaller later rfl]

/-! ## Lines without colons -/

/-- Without a colon there are no tag tokens. -/
theorem TagToken.tokenFree_of_colonFree {line : List Char} (colonFree : ':' ∉ line) :
    TokenFree recognise line := by
  rintro rest suffix
  by_contra found
  rcases recognise_ne_none_iff.mp found with ⟨role, scope, first, tail, rfl, _⟩
  apply colonFree
  apply suffix.subset
  simp only [List.mem_append, List.mem_cons, true_or, or_true]

theorem ofChars_of_colonFree {line : List Char} (colonFree : ':' ∉ line) :
    ofChars line = {
      numbers := numbersOf (tokens (scan NumberToken.recognise line))
      title := TitleWords.ofText (residue (scan NumberToken.recognise line)) } := by
  have noTags := TagToken.tokenFree_of_colonFree colonFree
  have tags : tokens (tagPieces line) = [] := tokens_scan_of_tokenFree noTags
  have left : residue (tagPieces line) = line := residue_scan_of_tokenFree noTags
  simp only [ofChars, numberPieces, tags, left]
  rfl

/-- Dollar signs are inert in a line without colons, as long as they are harmless to the stretches
of characters between the stops. -/
theorem dollar_signs_are_inert {line : String} (colonFree : ':' ∉ line.toList)
    (harmless : ∀ stretch ∈ Text.split cuts line.toList, Harmless stretch) :
    parse line = parse (String.ofList (withoutDollars line.toList)) := by
  have stillFree : ':' ∉ withoutDollars line.toList := fun member =>
    colonFree (List.mem_of_mem_filter member)
  rw [parse, parse, String.toList_ofList, ofChars_of_colonFree colonFree,
    ofChars_of_colonFree stillFree, scan_withoutDollars harmless, tokens_filter_remains,
    residue_filter_remains, TitleWords.ofText_withoutDollars]

/-- Dollar signs in the middle of a word, around a number token and behind the sign of a word. -/
theorem dollars_of_title_are_inert :
    ':' ∉ "A$AP $pages>5$ -$$new".toList ∧
      parse "A$AP $pages>5$ -$$new" = parse "AAP pages>5 -new" := by
  have colonFree : ':' ∉ "A$AP $pages>5$ -$$new".toList := by decide
  have stretches : Text.split cuts "A$AP $pages>5$ -$$new".toList =
      ["A$AP".toList, "$pages>5$".toList, [], "$$new".toList] := by decide +kernel
  have bare : String.ofList (withoutDollars "A$AP $pages>5$ -$$new".toList) = "AAP pages>5 -new" := by
    decide +kernel
  refine ⟨colonFree, bare ▸ dollar_signs_are_inert colonFree fun stretch member => ?_⟩
  rw [stretches] at member
  simp only [List.mem_cons, List.not_mem_nil, or_false] at member
  rcases member with rfl | rfl | rfl | rfl
  · exact harmless_of_signFree (by decide)
  · have dollar : ∀ c ∈ ['$'], c = '$' := fun c member => List.mem_singleton.mp member
    exact Or.inl ⟨['$'], "pages>5".toList, ['$'], by decide, dollar, by decide, dollar⟩
  · exact harmless_of_signFree rfl
  · exact harmless_of_signFree (by decide)

/-- A dollar sign between two digits cuts the number. -/
theorem dollar_sign_cuts_number :
    ':' ∉ "pages>1$0".toList ∧
      parse "pages>1$0" =
        { numbers := [⟨.pages, .greater, 1⟩], title := { required := ["0"] } } ∧
      parse (String.ofList (withoutDollars "pages>1$0".toList)) =
        { numbers := [⟨.pages, .greater, 10⟩] } ∧
      parse "pages>1$0" ≠ parse (String.ofList (withoutDollars "pages>1$0".toList)) := by
  have cut : parse "pages>1$0" =
      { numbers := [⟨.pages, .greater, 1⟩], title := { required := ["0"] } } := by decide +kernel
  have bare : parse (String.ofList (withoutDollars "pages>1$0".toList)) =
      { numbers := [⟨.pages, .greater, 10⟩] } := by decide +kernel
  refine ⟨by decide, cut, bare, ?_⟩
  rw [cut, bare]
  exact fun same => absurd (congrArg (·.title.required) same) (by decide)

end Query
end Gallery
