import Gallery.Proofs.FullText.LexemeGrammar
import Gallery.Proofs.FullText.Reading
import Gallery.Proofs.Text.Entries

namespace Gallery

/-!
# The tree of a lexeme query

A query is written as text and read again by the database, so it is only as good as the
tree that comes out there.  The theorems here follow the text through a scanner and the
grammar of lexeme queries.  Whatever the words are made of, what is read is the
conjunction of the required words as one phrase, of the optional ones as alternatives,
and of the excluded ones as negated alternatives, as far as there are any.

The text is a chain of chains: lexemes make words, words make clauses and clauses make
the query, and each chain may have no member at all.  One statement about chains,
`spells_chain`, serves at every level; an empty chain has neither a text nor a tree.  The
words of the required clause are joined as the lexemes of one word are, so there the
chain of chains is a single one.
-/

namespace FullText
namespace Lexemes

/-! ## Lexemes -/

/-- A lexeme that stands for itself in a query. -/
structure Plain (lexeme : List Char) : Prop where
  nonempty : lexeme ≠ []
  alphanumeric : lexeme.any Text.isAlphanumeric = true
  blankFree : ∀ c ∈ lexeme, Text.isBlank c = false
  apostropheFree : ∀ c ∈ lexeme, isApostrophe c = false
  operatorFree : ∀ c ∈ lexeme, c ∉ operators

theorem plain_of_mem_ofWord {word lexeme : List Char} (member : lexeme ∈ ofWord word) :
    Plain lexeme := by
  rcases List.mem_filter.mp member with ⟨isPart, alphanumeric⟩
  have clean : ∀ c ∈ lexeme, c ∉ operators ∧ Text.isBlank c = false := by
    intro c inLexeme
    have kept := (List.mem_filter.mp (Text.of_mem_split isPart inLexeme).1).2
    rw [Bool.and_eq_true, Bool.not_eq_true', Bool.not_eq_true'] at kept
    refine ⟨fun operator => ?_, kept.2⟩
    cases kept.1.symm.trans (List.contains_iff_mem.mpr operator)
  exact {
    nonempty := fun empty => by rw [empty] at alphanumeric; cases alphanumeric
    alphanumeric := alphanumeric
    blankFree := fun c inLexeme => (clean c inLexeme).2
    apostropheFree := fun c inLexeme => (Text.of_mem_split isPart inLexeme).2
    operatorFree := fun c inLexeme => (clean c inLexeme).1 }

namespace Tree

/-! ## The scanner -/

/-- Whether a character may stand in a lexeme that is not quoted. -/
def isLexemeChar (c : Char) : Bool :=
  !operators.contains c && !Text.isBlank c && c != '\''

/-- Where the scanner stands: between tokens, inside a lexeme, or inside the arrow of
`<->`.  What has been read of a lexeme is kept backwards. -/
inductive Scanner where
  | between
  | lexeme (read : List Char)
  | arrowHead
  | arrowShaft

namespace Scanner

/-- Begins the token that `c` starts, on top of the tokens read. -/
def begin (tokens : List Token) (c : Char) : Option (List Token × Scanner) :=
  if c = '&' then some (.and :: tokens, .between)
  else if c = '|' then some (.or :: tokens, .between)
  else if c = '!' then some (.not :: tokens, .between)
  else if c = '(' then some (.opening :: tokens, .between)
  else if c = ')' then some (.closing :: tokens, .between)
  else if c = '<' then some (tokens, .arrowHead)
  else if Text.isBlank c then some (tokens, .between)
  else if isLexemeChar c then some (tokens, .lexeme [c])
  else none

/-- One step of the scanner.  The tokens read so far are kept backwards. -/
def step (tokens : List Token) : Scanner → Char → Option (List Token × Scanner)
  | between, c => begin tokens c
  | lexeme read, c =>
      if isLexemeChar c then some (tokens, .lexeme (c :: read))
      else begin (.lexeme read.reverse :: tokens) c
  | arrowHead, c => if c = '-' then some (tokens, .arrowShaft) else none
  | arrowShaft, c => if c = '>' then some (.follows :: tokens, .between) else none

/-- The tokens at the end of the text, in order. -/
def finish (tokens : List Token) : Scanner → Option (List Token)
  | between => some tokens.reverse
  | lexeme read => some (.lexeme read.reverse :: tokens).reverse
  | arrowHead | arrowShaft => none

/-- Reads the rest of the text. -/
def run (tokens : List Token) (scanner : Scanner) : List Char → Option (List Token)
  | [] => scanner.finish tokens
  | c :: text =>
      match scanner.step tokens c with
      | some (tokens, next) => run tokens next text
      | none => none

end Scanner

open Scanner

/-- The tokens of a query. -/
def scan (text : List Char) : Option (List Token) :=
  Scanner.run [] .between text

/-- Reads a query. -/
def read? (text : String) : Option Tree :=
  (scan text.toList).bind ofTokens?

/-- Whether a lexeme ends before the text. -/
def Stops (text : List Char) : Prop :=
  ∀ c ∈ text.head?, isLexemeChar c = false

theorem stops_nil : Stops [] := by
  intro c member
  cases member

theorem stops_closing (rest : List Char) : Stops (')' :: rest) := by
  intro c member
  cases member
  rfl

/-- A text that the scanner reads as the given tokens, whatever it has read before, if no
lexeme goes on behind it. -/
def Scans (text : List Char) (tokens : List Token) : Prop :=
  ∀ read rest, Stops rest →
    run read .between (text ++ rest) = run (tokens.reverse ++ read) .between rest

/-- An operator with the blanks around it.  It asks nothing of what follows. -/
structure Connects (text : List Char) (token : Token) : Prop where
  stops : ∀ rest, Stops (text ++ rest)
  scanned : ∀ read rest, run read .between (text ++ rest) = run (token :: read) .between rest

theorem isBlank_space : Text.isBlank ' ' = true := by decide +kernel

theorem stops_space (rest : List Char) : Stops (' ' :: rest) := by
  intro c member
  cases member
  rw [isLexemeChar, isBlank_space, Bool.not_true, Bool.and_false, Bool.false_and]

theorem run_space (read : List Token) (rest : List Char) :
    run read .between (' ' :: rest) = run read .between rest := by
  have skipped : step read .between ' ' = some (read, .between) := by
    simp only [step, Scanner.begin, isBlank_space, if_true]
    rfl
  rw [run, skipped]

theorem connects_and : Connects " & ".toList .and where
  stops := fun _ => stops_space _
  scanned := fun read rest => by
    change run read .between (' ' :: '&' :: ' ' :: rest) = _
    rw [run_space]
    exact run_space (.and :: read) rest

theorem connects_or : Connects " | ".toList .or where
  stops := fun _ => stops_space _
  scanned := fun read rest => by
    change run read .between (' ' :: '|' :: ' ' :: rest) = _
    rw [run_space]
    exact run_space (.or :: read) rest

theorem connects_follows : Connects " <-> ".toList .follows where
  stops := fun _ => stops_space _
  scanned := fun read rest => by
    change run read .between (' ' :: '<' :: '-' :: '>' :: ' ' :: rest) = _
    rw [run_space]
    exact run_space (.follows :: read) rest

theorem Scans.connect {first second connective : List Char} {before after : List Token}
    {token : Token} (left : Scans first before) (between : Connects connective token)
    (right : Scans second after) :
    Scans (first ++ (connective ++ second)) (before ++ token :: after) := by
  intro read rest stops
  rw [List.append_assoc, List.append_assoc, left read _ (between.stops _), between.scanned,
    right _ rest stops, List.reverse_append, List.reverse_cons, List.append_assoc,
    List.append_assoc]
  rfl

theorem isLexemeChar_of_plain {lexeme : List Char} (plain : Plain lexeme) {c : Char}
    (member : c ∈ lexeme) : isLexemeChar c = true := by
  have outside : operators.contains c = false := by
    rw [Bool.eq_false_iff, ne_eq, List.contains_iff_mem]
    exact plain.operatorFree c member
  have unquoted : c ≠ '\'' := by
    intro quote
    have apostrophe := plain.apostropheFree c member
    rw [quote] at apostrophe
    cases apostrophe
  rw [isLexemeChar, outside, plain.blankFree c member, bne_iff_ne.mpr unquoted]
  rfl

theorem begin_of_isLexemeChar {c : Char} (isChar : isLexemeChar c = true) (read : List Token) :
    Scanner.begin read c = some (read, .lexeme [c]) := by
  have whole := isChar
  rw [isLexemeChar, Bool.and_eq_true, Bool.and_eq_true, Bool.not_eq_true', Bool.not_eq_true'] at whole
  have differs : ∀ d ∈ operators, c ≠ d := by
    intro d operator same
    cases whole.1.1.symm.trans (List.contains_iff_mem.mpr (same ▸ operator))
  simp only [Scanner.begin, if_neg (differs '&' (by decide)), if_neg (differs '|' (by decide)),
    if_neg (differs '!' (by decide)), if_neg (differs '(' (by decide)),
    if_neg (differs ')' (by decide)), if_neg (differs '<' (by decide)), whole.1.2, isChar,
    Bool.false_eq_true, if_false, if_true]

private theorem run_lexeme {text : List Char} (each : ∀ c ∈ text, isLexemeChar c = true)
    (tokens : List Token) (read rest : List Char) :
    run tokens (.lexeme read) (text ++ rest) =
      run tokens (.lexeme (text.reverse ++ read)) rest := by
  induction text generalizing read with
  | nil => rfl
  | cons c text inductionHypothesis =>
      have later : ∀ c ∈ text, isLexemeChar c = true := fun c member =>
        each c (List.mem_cons_of_mem _ member)
      rw [List.cons_append, run, step, if_pos (each c List.mem_cons_self), List.reverse_cons,
        List.append_assoc]
      exact inductionHypothesis later (c :: read)

private theorem run_stops {rest : List Char} (stops : Stops rest) (tokens : List Token)
    (read : List Char) :
    run tokens (.lexeme read) rest = run (.lexeme read.reverse :: tokens) .between rest := by
  cases rest with
  | nil => rfl
  | cons c rest =>
      have ended : isLexemeChar c = false := stops c rfl
      rw [run, run, step, step, ended, if_neg Bool.false_ne_true]

/-- A plain lexeme is one token. -/
theorem scans_plain {lexeme : List Char} (plain : Plain lexeme) : Scans lexeme [.lexeme lexeme] := by
  intro read rest stops
  cases lexeme with
  | nil => exact absurd rfl plain.nonempty
  | cons c lexeme =>
      have begun := begin_of_isLexemeChar (isLexemeChar_of_plain plain List.mem_cons_self) read
      have later : ∀ c ∈ lexeme, isLexemeChar c = true := fun c member =>
        isLexemeChar_of_plain plain (List.mem_cons_of_mem _ member)
      rw [List.cons_append, run, step, begun]
      change run read (.lexeme [c]) (lexeme ++ rest) = _
      rw [run_lexeme later, run_stops stops, List.reverse_append, List.reverse_reverse]
      rfl

theorem Scans.parenthesize {text : List Char} {tokens : List Token} (inner : Scans text tokens) :
    Scans (FullText.parenthesize text) (.opening :: (tokens ++ [.closing])) := by
  intro read rest _
  have opened : run read .between (FullText.parenthesize text ++ rest) =
      run (.opening :: read) .between (text ++ (')' :: rest)) := by
    rw [FullText.parenthesize, List.cons_append, List.append_assoc]
    rfl
  rw [opened, inner (.opening :: read) (')' :: rest) (stops_closing rest)]
  simp only [List.reverse_cons, List.reverse_append, List.append_assoc]
  rfl

theorem Scans.negate {text : List Char} {tokens : List Token} (operand : Scans text tokens) :
    Scans ('!' :: text) (.not :: tokens) := by
  intro read rest stops
  have negated : run read .between ('!' :: text ++ rest) =
      run (.not :: read) .between (text ++ rest) := rfl
  rw [negated, operand _ rest stops, List.reverse_cons, List.append_assoc]
  rfl

theorem scan_of_scans {text : List Char} {tokens : List Token} (scanned : Scans text tokens) :
    scan text = some tokens := by
  have complete := scanned [] [] stops_nil
  rw [List.append_nil, List.append_nil] at complete
  rw [scan, complete, run, finish, List.reverse_reverse]

/-! ## Chains -/

/-- A text that stands for a tree at a level. -/
def Spells (level : Level) (text : List Char) (tree : Tree) : Prop :=
  ∃ tokens, Scans text tokens ∧ Writes level tokens tree

theorem spells_plain {lexeme : List Char} (plain : Plain lexeme) :
    Spells .operand lexeme (.lexeme lexeme) :=
  ⟨_, scans_plain plain, .lexeme lexeme⟩

theorem Spells.ofOperand {text : List Char} {tree : Tree} (spelled : Spells .operand text tree) :
    Spells .phrase text tree :=
  spelled.imp fun _ => And.imp_right Writes.ofOperand

theorem Spells.ofPhrase {text : List Char} {tree : Tree} (spelled : Spells .phrase text tree) :
    Spells .product text tree :=
  spelled.imp fun _ => And.imp_right Writes.ofPhrase

theorem Spells.ofProduct {text : List Char} {tree : Tree} (spelled : Spells .product text tree) :
    Spells .sum text tree :=
  spelled.imp fun _ => And.imp_right Writes.ofProduct

theorem Spells.group {text : List Char} {tree : Tree} (spelled : Spells .sum text tree) :
    Spells .operand (FullText.parenthesize text) tree := by
  rcases spelled with ⟨tokens, scanned, written⟩
  exact ⟨_, scanned.parenthesize, written.group⟩

theorem Spells.negate {text : List Char} {tree : Tree} (spelled : Spells .operand text tree) :
    Spells .operand ('!' :: text) (.not tree) := by
  rcases spelled with ⟨tokens, scanned, written⟩
  exact ⟨_, scanned.negate, written.not⟩

/-- A text between two separators, if there is anything to separate. -/
def joined? (separator : String) (parts : List (List Char)) : Option (List Char) :=
  if parts.isEmpty then none else some (join separator parts)

theorem toList_joined? (separator : String) (changed : List Char → List Char)
    (parts : List (List Char)) :
    ((joined? separator parts).map changed).toList =
      if parts.isEmpty then [] else [changed (join separator parts)] := by
  rw [joined?]
  split <;> rfl

/-- Operands one after the other, if there are any. -/
def chain? (connect : Tree → Tree → Tree) : List Tree → Option Tree
  | [] => none
  | first :: others => some (others.foldl connect first)

/-- The first two parts of a chain are joined before the others. -/
theorem join_regroup (separator : String) (first second : List Char) (parts : List (List Char)) :
    join separator (first :: second :: parts) =
      join separator ((first ++ (separator.toList ++ second)) :: parts) := by
  cases parts with
  | nil =>
      rw [Expression.join_cons_cons, join, join, List.intercalate_singleton,
        List.intercalate_singleton]
  | cons third parts =>
      rw [Expression.join_cons_cons, Expression.join_cons_cons, Expression.join_cons_cons,
        List.append_assoc, List.append_assoc]

theorem join_append (separator : String) {first second : List (List Char)}
    (some_first : first ≠ []) (some_second : second ≠ []) :
    join separator (first ++ second) =
      join separator first ++ (separator.toList ++ join separator second) := by
  induction first with
  | nil => exact absurd rfl some_first
  | cons part parts inductionHypothesis =>
      cases parts with
      | nil =>
          cases second with
          | nil => exact absurd rfl some_second
          | cons other others =>
              rw [List.singleton_append, Expression.join_cons_cons, join, join,
                List.intercalate_singleton]
      | cons next parts =>
          rw [List.cons_append, List.cons_append, Expression.join_cons_cons,
            ← List.cons_append, inductionHypothesis (List.cons_ne_nil _ _),
            Expression.join_cons_cons, List.append_assoc, List.append_assoc]

/-- A chain of chains with one separator is a single chain. -/
theorem joined?_filterMap {α : Type} (separator : String) (parts : α → List (List Char))
    (items : List α) :
    joined? separator (items.filterMap fun item => joined? separator (parts item)) =
      joined? separator (items.flatMap parts) := by
  induction items with
  | nil => rfl
  | cons item items inductionHypothesis =>
      rw [List.flatMap_cons, List.filterMap_cons]
      generalize (items.filterMap fun item => joined? separator (parts item)) = texts
        at inductionHypothesis ⊢
      generalize items.flatMap parts = others at inductionHypothesis ⊢
      cases parts item with
      | nil => exact inductionHypothesis
      | cons part more =>
          change joined? separator (join separator (part :: more) :: texts) = _
          cases texts with
          | nil =>
              cases others with
              | nil =>
                  rw [List.append_nil]
                  exact congrArg some (List.intercalate_singleton ..)
              | cons _ _ => cases inductionHypothesis
          | cons text texts =>
              cases others with
              | nil => cases inductionHypothesis
              | cons other others =>
                  have joined : join separator (text :: texts) = join separator (other :: others) :=
                    Option.some.inj inductionHypothesis
                  have whole := join_append separator (List.cons_ne_nil part more)
                    (List.cons_ne_nil other others)
                  rw [← joined, ← Expression.join_cons_cons] at whole
                  exact congrArg some whole.symm

section Chains

variable {level below : Level} {separator : String} {token : Token} {connect : Tree → Tree → Tree}
  {parts : List (List Char)} {trees : List Tree}

/-- What is read so far takes one operand after the other for its right side. -/
theorem Spells.foldl {part : List Char} {tree : Tree} (first : Spells level part tree)
    (between : Connects separator.toList token)
    (link : ∀ {before after left right}, Writes level before left → Writes below after right →
      Writes level (before ++ token :: after) (connect left right))
    (others : List.Forall₂ (Spells below) parts trees) :
    Spells level (join separator (part :: parts)) (trees.foldl connect tree) := by
  induction others generalizing part tree with
  | nil =>
      rw [join, List.intercalate_singleton]
      exact first
  | cons second _ inductionHypothesis =>
      rcases first with ⟨before, scanned, written⟩
      rcases second with ⟨after, scannedSecond, writtenSecond⟩
      rw [join_regroup]
      exact inductionHypothesis
        ⟨_, scanned.connect between scannedSecond, link written writtenSecond⟩

/-- What is spelled at one level, joined by the operator of the next, is a chain there. -/
theorem spells_chain (between : Connects separator.toList token)
    (lift : ∀ {tokens tree}, Writes below tokens tree → Writes level tokens tree)
    (link : ∀ {before after left right}, Writes level before left → Writes below after right →
      Writes level (before ++ token :: after) (connect left right))
    (spelled : List.Forall₂ (Spells below) parts trees) :
    Option.Rel (Spells level) (joined? separator parts) (chain? connect trees) := by
  cases spelled with
  | nil => exact Option.Rel.none
  | cons first others =>
      have lifted := first.imp fun _ => And.imp_right lift
      exact Option.Rel.some (Spells.foldl lifted between link others)

end Chains

theorem forall₂_toList {α β : Type} {related : α → β → Prop} {first : Option α}
    {second : Option β} (both : Option.Rel related first second) :
    List.Forall₂ related first.toList second.toList := by
  cases both with
  | none => exact List.Forall₂.nil
  | some related => exact List.Forall₂.cons related List.Forall₂.nil

theorem rel_map {α β : Type} {related relatedToo : α → β → Prop} {first : Option α}
    {second : Option β} (changed : α → α) (changedToo : β → β)
    (both : Option.Rel related first second)
    (step : ∀ {item other}, related item other → relatedToo (changed item) (changedToo other)) :
    Option.Rel relatedToo (first.map changed) (second.map changedToo) := by
  cases both with
  | none => exact Option.Rel.none
  | some related => exact Option.Rel.some (step related)

section Ordered

variable {connect : Tree → Tree → Tree}
  (ordered : ∀ left right, (connect left right).lexemes = left.lexemes ++ right.lexemes)
include ordered

theorem lexemes_foldl (first : Tree) (others : List Tree) :
    (others.foldl connect first).lexemes = first.lexemes ++ others.flatMap lexemes := by
  induction others generalizing first with
  | nil => exact (List.append_nil _).symm
  | cons second others inductionHypothesis =>
      rw [List.foldl_cons, inductionHypothesis, ordered, List.flatMap_cons, List.append_assoc]

/-- The lexemes of a chain are those of its operands. -/
theorem lexemes_chain? (trees : List Tree) :
    (chain? connect trees).toList.flatMap lexemes = trees.flatMap lexemes := by
  cases trees with
  | nil => rfl
  | cons first others =>
      rw [chain?, Option.toList_some, List.flatMap_singleton, lexemes_foldl ordered,
        List.flatMap_cons]

end Ordered

end Tree

/-! ## What words are meant to become -/

open Lexemes.Tree (chain? joined? Spells)

/-- Lexemes that follow each other. -/
def phrase? (lexemes : List (List Char)) : Option Tree :=
  chain? .follows (lexemes.map .lexeme)

/-- The tree that words are meant to become: all lexemes of the required words as one
phrase, the optional words as alternatives and the excluded ones as negated
alternatives, as far as there are any.  A word is the phrase of its lexemes. -/
def intended? (words : Query.TitleWords) : Option Tree :=
  let alternatives (words : List String) : Option Tree :=
    chain? .or (words.filterMap fun word => phrase? (ofWord word.toList))
  chain? .and
    ((phrase? (words.required.flatMap fun word => ofWord word.toList)).toList ++
      (alternatives words.optional).toList ++ ((alternatives words.excluded).map .not).toList)

theorem lexemes_phrase? (lexemes : List (List Char)) :
    (phrase? lexemes).toList.flatMap Tree.lexemes = lexemes := by
  rw [phrase?, Tree.lexemes_chain? fun _ _ => rfl, List.flatMap_map]
  exact List.flatMap_singleton' lexemes

/-- The lexemes of the tree are those of the words, none lost and none moved. -/
theorem lexemes_intended? {words : Query.TitleWords} {tree : Tree}
    (intended : intended? words = some tree) :
    tree.lexemes = (words.required ++ words.optional ++ words.excluded).flatMap fun word =>
      ofWord word.toList := by
  have alternatives : ∀ words : List String,
      (chain? .or (words.filterMap fun word => phrase? (ofWord word.toList))).toList.flatMap
        Tree.lexemes = words.flatMap fun word => ofWord word.toList := by
    intro words
    rw [Tree.lexemes_chain? fun _ _ => rfl, List.filterMap_eq_flatMap_toList, List.flatMap_assoc]
    simp only [lexemes_phrase?]
  have negated : ∀ tree : Option Tree,
      (tree.map Tree.not).toList.flatMap Tree.lexemes = tree.toList.flatMap Tree.lexemes := by
    intro tree
    cases tree <;> rfl
  have whole := @Tree.lexemes_chain? .and (fun _ _ => rfl)
    ((phrase? (words.required.flatMap fun word => ofWord word.toList)).toList ++
      (chain? .or (words.optional.filterMap fun word => phrase? (ofWord word.toList))).toList ++
      ((chain? .or (words.excluded.filterMap fun word =>
        phrase? (ofWord word.toList))).map .not).toList)
  rw [List.flatMap_append, List.flatMap_append, negated, alternatives, alternatives,
    lexemes_phrase?] at whole
  rw [List.flatMap_append, List.flatMap_append, ← whole]
  change _ = (intended? words).toList.flatMap Tree.lexemes
  rw [intended, Option.toList_some, List.flatMap_singleton]

/-! ## What the text of a query becomes -/

theorem clauseTexts_eq (words : Query.TitleWords) :
    clauseTexts (Clauses.ofWords term? words) =
      (joined? " <-> " (words.required.flatMap fun word => ofWord word.toList)).toList ++
        ((joined? " | " (words.optional.filterMap fun word => term? word.toList)).map
          parenthesize).toList ++
        ((joined? " | " (words.excluded.filterMap fun word => term? word.toList)).map
          fun text => '!' :: parenthesize text).toList := by
  have required : joined? " <-> " (words.required.filterMap fun word => term? word.toList) =
      joined? " <-> " (words.required.flatMap fun word => ofWord word.toList) :=
    Tree.joined?_filterMap " <-> " (fun word : String => ofWord word.toList) words.required
  have unchanged := Tree.toList_joined? " <-> " id
    (words.required.filterMap fun word => term? word.toList)
  rw [Option.map_id, id] at unchanged
  rw [← required, unchanged, Tree.toList_joined?, Tree.toList_joined?]
  rfl

theorem spells_phrase {lexemes : List (List Char)} (plain : ∀ lexeme ∈ lexemes, Plain lexeme) :
    Option.Rel (Spells .phrase) (joined? " <-> " lexemes) (phrase? lexemes) := by
  apply Tree.spells_chain Tree.connects_follows .ofOperand .follows
  rw [List.forall₂_map_right_iff]
  exact List.forall₂_same.mpr fun lexeme member => Tree.spells_plain (plain lexeme member)

/-- The words of a clause, each a phrase, as alternatives. -/
theorem spells_alternatives_of_words (words : List String) :
    Option.Rel (Spells .sum)
      (joined? " | " (words.filterMap fun word => term? word.toList))
      (chain? .or (words.filterMap fun word => phrase? (ofWord word.toList))) := by
  apply Tree.spells_chain Tree.connects_or (fun phrase => phrase.ofPhrase.ofProduct)
    fun left right => left.or right.ofPhrase
  have same : List.Forall₂ Eq words words := List.forall₂_same.mpr fun _ _ => rfl
  refine List.rel_filterMap (fun word other equal => ?_) same
  subst equal
  exact spells_phrase fun _ => plain_of_mem_ofWord

theorem spells_query (words : Query.TitleWords) :
    Option.Rel (Spells .product) (joined? " & " (clauseTexts (Clauses.ofWords term? words)))
      (intended? words) := by
  rw [clauseTexts_eq]
  have plain : ∀ lexeme ∈ words.required.flatMap fun word => ofWord word.toList, Plain lexeme := by
    intro lexeme member
    rcases List.mem_flatMap.mp member with ⟨word, _, inWord⟩
    exact plain_of_mem_ofWord inWord
  apply Tree.spells_chain Tree.connects_and .ofPhrase .and
  have optional := Tree.rel_map parenthesize id (spells_alternatives_of_words words.optional)
    fun spelled => spelled.group.ofOperand
  have excluded := Tree.rel_map (fun text => '!' :: parenthesize text) Tree.not
    (spells_alternatives_of_words words.excluded) fun spelled => spelled.group.negate.ofOperand
  rw [Option.map_id, id] at optional
  exact List.rel_append (List.rel_append (Tree.forall₂_toList (spells_phrase plain))
    (Tree.forall₂_toList optional)) (Tree.forall₂_toList excluded)

/-- A query is the tree that the words are meant to become.  It is there exactly if they
are meant to become one, and its text is read as this tree and no other.  Its lexemes are
those of the words in order, and each stands for itself. -/
theorem query_is_intended_tree (words : Query.TitleWords) :
    (query? words = none ↔ intended? words = none) ∧
    ∀ text, query? words = some text →
      ∃ tree, intended? words = some tree ∧ Tree.read? text = some tree ∧
        tree.lexemes = ((words.required ++ words.optional ++ words.excluded).flatMap fun word =>
          ofWord word.toList) ∧
        ∀ lexeme ∈ tree.lexemes, Plain lexeme := by
  have written : query? words =
      (joined? " & " (clauseTexts (Clauses.ofWords term? words))).map String.ofList := by
    rw [query?, joined?]
    split <;> rfl
  have spelled := spells_query words
  rw [written]
  generalize joined? " & " (clauseTexts (Clauses.ofWords term? words)) = joined at spelled ⊢
  generalize intendedIs : intended? words = intended at spelled ⊢
  cases spelled with
  | none => exact ⟨⟨fun _ => rfl, fun _ => rfl⟩, fun _ absent => by cases absent⟩
  | @some text tree spelled =>
      have absent : Option.map String.ofList (some text) = none ↔ some tree = none :=
        iff_of_false (Option.some_ne_none _) (Option.some_ne_none _)
      refine ⟨absent, fun query isQuery => ?_⟩
      rw [← Option.some.inj isQuery]
      rcases spelled.ofProduct with ⟨tokens, scanned, writes⟩
      have lexemes := lexemes_intended? intendedIs
      refine ⟨tree, rfl, ?_, lexemes, fun lexeme member => ?_⟩
      · rw [Tree.read?, String.toList_ofList, Tree.scan_of_scans scanned, Option.bind_some,
          Tree.ofTokens?_eq_some_iff]
        exact writes
      · rw [lexemes] at member
        rcases List.mem_flatMap.mp member with ⟨word, _, inWord⟩
        exact plain_of_mem_ofWord inWord

/-- Words with apostrophes, operators, blanks and a letter whose small form is two
characters. -/
def mixedWords : Query.TitleWords where
  required := ["Don't", "(x|y)"]
  optional := ["a & b", "!", "\u0130z"]
  excluded := ["c<->d'"]

theorem mixedWords_are_read :
    query? mixedWords = some "don <-> t <-> xy & (ab | i\u0307z) & !(c-d)" ∧
      ∃ tree, Tree.read? "don <-> t <-> xy & (ab | i\u0307z) & !(c-d)" = some tree ∧
        intended? mixedWords = some tree ∧
        tree.lexemes = ["don".toList, "t".toList, "xy".toList, "ab".toList, "i\u0307z".toList,
          "c-d".toList] := by
  have written : query? mixedWords = some "don <-> t <-> xy & (ab | i\u0307z) & !(c-d)" := by
    decide +kernel
  rcases (query_is_intended_tree mixedWords).2 _ written with ⟨tree, intended, read, lexemes, _⟩
  refine ⟨written, tree, read, intended, lexemes.trans ?_⟩
  decide +kernel

end Lexemes
end FullText
end Gallery
