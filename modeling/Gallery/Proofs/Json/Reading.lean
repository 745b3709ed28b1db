import Gallery.Json.Reader
import Gallery.Proofs.Json.Scan

namespace Gallery
namespace Json

/-!
# Reading a text

A text is read as a value exactly if the grammar says that it is one of its texts.  The
reader puts a value together from its tokens, and it goes on with what follows, so that
values can stand inside values.  The other way round, each of its steps takes one token
in: at every moment, the unfinished arrays and objects on its stack and the value in
front of them have just the tokens that were read.

So no text is JSON for two values, and no value has a text that is not read.
-/

/-- Induction over a value: what holds of all items and members holds of the whole. -/
@[induction_eliminator]
theorem induction {motive : Json → Prop} (null : motive .null)
    (bool : ∀ value, motive (.bool value)) (integer : ∀ value, motive (.integer value))
    (real : ∀ literal, motive (.real literal)) (string : ∀ text, motive (.string text))
    (garbled : motive .garbled)
    (array : ∀ items, (∀ item ∈ items, motive item) → motive (.array items))
    (object : ∀ members, (∀ member ∈ members, motive member.2) → motive (.object members))
    (value : Json) : motive value := by
  refine @Json.rec motive (fun items => ∀ item ∈ items, motive item)
    (fun members => ∀ member ∈ members, motive member.2) (fun member => motive member.2)
    null bool integer real string garbled array object ?noItem ?item ?noMember ?member ?pair value
  case noItem =>
    intro item member
    cases member
  case item =>
    intro first rest holds others
    exact List.forall_mem_cons.mpr ⟨holds, others⟩
  case noMember =>
    intro member inNone
    cases inNone
  case member =>
    intro first rest holds others
    exact List.forall_mem_cons.mpr ⟨holds, others⟩
  case pair =>
    intro key value holds
    exact holds

/-! ## Tokens of a value -/

namespace Token

theorem separate_singleton (token : Token) : Separate [token] :=
  List.isChain_singleton token

theorem Separate.cons {token : Token} {tokens : List Token} (other : ¬token.IsLiteral)
    (separate : Separate tokens) : Separate (token :: tokens) :=
  List.isChain_cons.mpr ⟨fun _ _ isLiteral => absurd isLiteral other, separate⟩

theorem Separate.append {tokens more : List Token} (first : Separate tokens)
    (second : Separate more) (other : ∀ token ∈ more.head?, ¬token.IsLiteral) :
    Separate (tokens ++ more) :=
  List.IsChain.append first second fun _ _ next isFirst _ => other next isFirst

end Token

theorem separate_items {item : Json} {rest : List Json}
    (each : ∀ each ∈ item :: rest, Token.Separate each.tokens) :
    Token.Separate (tokens item ++ moreItems rest ++ [Token.closeArray]) := by
  induction rest generalizing item with
  | nil =>
      rw [moreItems, List.append_nil]
      refine (each item List.mem_cons_self).append (Token.separate_singleton _) ?_
      rintro _ ⟨⟩ ⟨⟩
  | cons next others inductionHypothesis =>
      obtain ⟨separate, later⟩ := List.forall_mem_cons.mp each
      rw [moreItems, List.append_assoc, List.cons_append]
      refine separate.append ((inductionHypothesis later).cons id) ?_
      rintro _ ⟨⟩ ⟨⟩

theorem separate_members {member : Option String × Json} {rest : List (Option String × Json)}
    (each : ∀ each ∈ member :: rest, Token.Separate each.2.tokens) :
    Token.Separate (tokens member.2 ++ moreMembers rest ++ [Token.closeObject]) := by
  induction rest generalizing member with
  | nil =>
      rw [moreMembers, List.append_nil]
      refine (each member List.mem_cons_self).append (Token.separate_singleton _) ?_
      rintro _ ⟨⟩ ⟨⟩
  | cons next others inductionHypothesis =>
      obtain ⟨separate, later⟩ := List.forall_mem_cons.mp each
      rw [moreMembers, List.append_assoc, List.cons_append, List.cons_append, List.cons_append]
      refine separate.append ((((inductionHypothesis later).cons id).cons id).cons id) ?_
      rintro _ ⟨⟩ ⟨⟩

/-- Between the literals of a value, there is always another token. -/
theorem separate_tokens (value : Json) : Token.Separate value.tokens := by
  induction value with
  | null | bool value | integer value | real literal | string text | garbled =>
      exact Token.separate_singleton _
  | array items inductionHypothesis =>
      cases items with
      | nil => exact (Token.separate_singleton .closeArray).cons id
      | cons item rest => exact (separate_items inductionHypothesis).cons id
  | object members inductionHypothesis =>
      cases members with
      | nil => exact (Token.separate_singleton .closeObject).cons id
      | cons member rest =>
          exact (((separate_members inductionHypothesis).cons id).cons id).cons id

/-! ## The reader -/

namespace Reader

/-- Whether the reader finishes a value when it is given its tokens. -/
def Finishes (value : Json) : Prop :=
  ∀ stack rest, run (.needValue stack) (value.tokens ++ rest) = run (.finished value stack) rest

/-- The first item of an array is read like any other. -/
theorem run_firstItem (item : Json) (stack : List Frame) (rest : List Token) :
    run (.firstItem stack) (item.tokens ++ rest) =
      run (.needValue (.array [] :: stack)) (item.tokens ++ rest) := by
  unfold tokens
  split <;> rfl

theorem run_moreItems {items : List Json} (finishes : ∀ item ∈ items, Finishes item)
    (read : List Json) (value : Json) (stack : List Frame) (rest : List Token) :
    run (.finished value (.array read :: stack)) (moreItems items ++ .closeArray :: rest) =
      run (.finished (.array ((value :: read).reverse ++ items)) stack) rest := by
  induction items generalizing read value with
  | nil => simp [moreItems, run, step, afterValue]
  | cons item others inductionHypothesis =>
      obtain ⟨finishesItem, finishesOthers⟩ := List.forall_mem_cons.mp finishes
      calc run (.finished value (.array read :: stack))
            (moreItems (item :: others) ++ .closeArray :: rest)
          = run (.needValue (.array (value :: read) :: stack))
              (item.tokens ++ (moreItems others ++ .closeArray :: rest)) := by
            simp [moreItems, run, step, afterValue]
        _ = run (.finished item (.array (value :: read) :: stack))
              (moreItems others ++ .closeArray :: rest) := finishesItem _ _
        _ = run (.finished (.array ((value :: read).reverse ++ item :: others)) stack) rest := by
            rw [inductionHypothesis finishesOthers]
            simp

theorem run_moreMembers {members : List (Option String × Json)}
    (finishes : ∀ member ∈ members, Finishes member.2) (read : List (Option String × Json))
    (key : Option String) (value : Json) (stack : List Frame) (rest : List Token) :
    run (.finished value (.object read key :: stack))
        (moreMembers members ++ .closeObject :: rest) =
      run (.finished (.object (((key, value) :: read).reverse ++ members)) stack) rest := by
  induction members generalizing read key value with
  | nil => simp [moreMembers, run, step, afterValue]
  | cons member others inductionHypothesis =>
      obtain ⟨finishesMember, finishesOthers⟩ := List.forall_mem_cons.mp finishes
      calc run (.finished value (.object read key :: stack))
            (moreMembers (member :: others) ++ .closeObject :: rest)
          = run (.needValue (.object ((key, value) :: read) member.1 :: stack))
              (member.2.tokens ++ (moreMembers others ++ .closeObject :: rest)) := by
            simp [moreMembers, run, step, afterValue]
        _ = run (.finished member.2 (.object ((key, value) :: read) member.1 :: stack))
              (moreMembers others ++ .closeObject :: rest) := finishesMember _ _
        _ = run (.finished (.object (((key, value) :: read).reverse ++ member :: others)) stack)
              rest := by
            rw [inductionHypothesis finishesOthers]
            simp

/-- The reader puts every value together again from its tokens. -/
theorem finishes (value : Json) : Finishes value := by
  induction value with
  | null | bool value | integer value | real literal | string text | garbled =>
      intro stack rest
      rfl
  | array items inductionHypothesis =>
      intro stack rest
      cases items with
      | nil => rfl
      | cons item others =>
          obtain ⟨finishesItem, finishesOthers⟩ := List.forall_mem_cons.mp inductionHypothesis
          calc run (.needValue stack) (tokens (.array (item :: others)) ++ rest)
              = run (.firstItem stack)
                  (item.tokens ++ (moreItems others ++ .closeArray :: rest)) := by
                simp [tokens, run, step, startValue]
            _ = run (.finished item (.array [] :: stack))
                  (moreItems others ++ .closeArray :: rest) := by
                rw [run_firstItem, finishesItem]
            _ = run (.finished (.array (item :: others)) stack) rest := by
                rw [run_moreItems finishesOthers]
                rfl
  | object members inductionHypothesis =>
      intro stack rest
      cases members with
      | nil => rfl
      | cons member others =>
          obtain ⟨finishesMember, finishesOthers⟩ := List.forall_mem_cons.mp inductionHypothesis
          calc run (.needValue stack) (tokens (.object (member :: others)) ++ rest)
              = run (.needValue (.object [] member.1 :: stack))
                  (member.2.tokens ++ (moreMembers others ++ .closeObject :: rest)) := by
                simp [tokens, run, step, startValue]
            _ = run (.finished member.2 (.object [] member.1 :: stack))
                  (moreMembers others ++ .closeObject :: rest) := finishesMember _ _
            _ = run (.finished (.object (member :: others)) stack) rest := by
                rw [run_moreMembers finishesOthers]
                rfl

end Reader

theorem ofTokens?_tokens (value : Json) : ofTokens? value.tokens = some value := by
  have finished := Reader.finishes value [] []
  rw [List.append_nil] at finished
  unfold ofTokens?
  rw [finished]
  rfl

/-! ## Steps of the reader -/

theorem moreItems_concat (items : List Json) (value : Json) :
    moreItems (items ++ [value]) =
      Token.comma :: (items.flatMap (fun item => item.tokens ++ [.comma]) ++ value.tokens) := by
  induction items with
  | nil =>
      rw [List.nil_append, moreItems, moreItems, List.append_nil, List.flatMap_nil,
        List.nil_append]
  | cons item items inductionHypothesis =>
      rw [List.cons_append, moreItems, inductionHypothesis, List.flatMap_cons]
      simp

theorem tokens_array_concat (items : List Json) (value : Json) :
    tokens (.array (items ++ [value])) =
      Token.openArray :: (items.flatMap (fun item => item.tokens ++ [.comma]) ++
        (value.tokens ++ [.closeArray])) := by
  cases items with
  | nil => simp [tokens, moreItems]
  | cons item items => simp [tokens, moreItems_concat]

/-- The tokens of a member with the comma behind it. -/
def passed (member : Option String × Json) : List Token :=
  .string member.1 :: .colon :: (member.2.tokens ++ [.comma])

theorem moreMembers_concat (members : List (Option String × Json)) (key : Option String)
    (value : Json) :
    moreMembers (members ++ [(key, value)]) =
      Token.comma :: (members.flatMap passed ++ (.string key :: .colon :: value.tokens)) := by
  induction members with
  | nil => simp [moreMembers]
  | cons member members inductionHypothesis =>
      rw [List.cons_append, moreMembers, inductionHypothesis, List.flatMap_cons]
      simp [passed]

theorem tokens_object_concat (members : List (Option String × Json)) (key : Option String)
    (value : Json) :
    tokens (.object (members ++ [(key, value)])) =
      Token.openObject :: (members.flatMap passed ++
        (.string key :: .colon :: (value.tokens ++ [.closeObject]))) := by
  cases members with
  | nil => simp [tokens, moreMembers]
  | cons member members => simp [tokens, moreMembers_concat, passed]

/-- The tokens of an unfinished array or object, up to the value that is being read. -/
def Frame.tokens : Frame → List Token
  | .array items => .openArray :: items.reverse.flatMap fun item => item.tokens ++ [.comma]
  | .object members key => .openObject :: (members.reverse.flatMap passed ++ [.string key, .colon])

namespace Reader

/-- The tokens of a stack of unfinished arrays and objects, of which the innermost comes
first. -/
def stackTokens : List Frame → List Token
  | [] => []
  | frame :: stack => stackTokens stack ++ frame.tokens

/-- The tokens that a reader has taken. -/
def taken : Reader → List Token
  | .needValue stack => stackTokens stack
  | .firstItem stack => stackTokens stack ++ [.openArray]
  | .firstKey stack => stackTokens stack ++ [.openObject]
  | .needKey members stack => stackTokens stack ++ .openObject :: members.reverse.flatMap passed
  | .needColon members key stack =>
      stackTokens stack ++ .openObject :: (members.reverse.flatMap passed ++ [.string key])
  | .finished value stack => stackTokens stack ++ value.tokens

/-- Whether a token is one that a value may have. -/
def Genuine : Token → Prop
  | .literal value => value.tokens = [.literal value]
  | _ => True

theorem taken_startValue {stack : List Frame} {token : Token} {next : Reader}
    (genuine : Genuine token) (started : startValue stack token = some next) :
    next.taken = stackTokens stack ++ [token] := by
  cases token with
  | closeArray | closeObject | comma | colon => cases started
  | openArray | openObject =>
      cases started
      rfl
  | string text =>
      cases started
      cases text <;> rfl
  | literal value =>
      cases started
      exact congrArg (stackTokens stack ++ ·) genuine

theorem taken_afterValue {value : Json} {stack : List Frame} {token : Token} {next : Reader}
    (gone : afterValue value stack token = some next) :
    next.taken = stackTokens stack ++ (value.tokens ++ [token]) := by
  unfold afterValue at gone
  split at gone
  · cases gone
    simp [taken, stackTokens, Frame.tokens]
  · cases gone
    simp [taken, stackTokens, Frame.tokens, tokens_array_concat]
  · cases gone
    simp [taken, stackTokens, Frame.tokens, passed]
  · cases gone
    simp [taken, stackTokens, Frame.tokens, tokens_object_concat]
  · cases gone

/-- Each step of the reader takes one token. -/
theorem taken_step {reader next : Reader} {token : Token} (genuine : Genuine token)
    (stepped : step reader token = some next) : next.taken = reader.taken ++ [token] := by
  unfold step at stepped
  split at stepped
  · exact taken_startValue genuine stepped
  · cases stepped
    simp [taken, tokens]
  · have started := taken_startValue genuine stepped
    simpa [taken, stackTokens, Frame.tokens] using started
  · cases stepped
    simp [taken, tokens]
  · cases stepped
    simp [taken]
  · cases stepped
  · cases stepped
    simp [taken]
  · cases stepped
  · cases stepped
    simp [taken, stackTokens, Frame.tokens]
  · cases stepped
  · rw [taken_afterValue stepped]
    simp [taken]

theorem taken_run {reader last : Reader} {tokens : List Token}
    (genuine : ∀ token ∈ tokens, Genuine token) (finished : run reader tokens = some last) :
    last.taken = reader.taken ++ tokens := by
  induction tokens generalizing reader with
  | nil =>
      cases finished
      exact (List.append_nil _).symm
  | cons token tokens inductionHypothesis =>
      obtain ⟨isGenuine, others⟩ := List.forall_mem_cons.mp genuine
      cases stepped : step reader token with
      | none => simp [run, stepped] at finished
      | some next =>
          simp only [run, stepped] at finished
          rw [inductionHypothesis others finished, taken_step isGenuine stepped, List.append_assoc,
            List.singleton_append]

end Reader

/-- Tokens that are put together to a value are the tokens of that value. -/
theorem eq_tokens_of_ofTokens? {tokens : List Token} {value : Json}
    (genuine : ∀ token ∈ tokens, Reader.Genuine token) (read : ofTokens? tokens = some value) :
    tokens = value.tokens := by
  unfold ofTokens? at read
  split at read
  · rename_i finished
    cases read
    exact (Reader.taken_run genuine finished).symm
  · cases read

/-! ## Texts -/

theorem genuine_of_layout {tokens : List Token} {text : List Char}
    (layout : Token.Layout tokens text) : ∀ token ∈ tokens, Reader.Genuine token := by
  induction layout with
  | nil => exact List.forall_mem_nil _
  | blank _ _ inductionHypothesis => exact inductionHypothesis
  | token writes _ inductionHypothesis =>
      refine List.forall_mem_cons.mpr ⟨?_, inductionHypothesis⟩
      rcases writes with _ | _ | _ | _ | _ | _ | _ | _ | isLiteral
      any_goals exact trivial
      rcases isLiteral with _ | _ | _ | _ | _ | _ <;> rfl

/-- A text is read as a value exactly if it is JSON for it. -/
theorem read?_eq_some_iff {text : List Char} {value : Json} :
    read? text = some value ↔ value.IsText text := by
  constructor
  · intro read
    obtain ⟨tokens, scanned, spelled⟩ := Option.bind_eq_some_iff.mp read
    have layout := Token.layout_of_scan scanned
    rwa [eq_tokens_of_ofTokens? (genuine_of_layout layout) spelled] at layout
  · intro isText
    rw [read?, isText.scan (separate_tokens value), Option.bind_some, ofTokens?_tokens]

end Json
end Gallery
