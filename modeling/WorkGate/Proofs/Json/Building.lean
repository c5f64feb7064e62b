import Mathlib.Data.List.Forall2
import WorkGate.Json.Shape
import WorkGate.Proofs.Json.Lexing

/-!
# A spelled text is read as what it spells

The builder keeps strings as their raw bytes and numbers as their digits; `Means` relates such a
value to the tree that it stands for.  From a text that spells a tree, lexer and builder together
make a value that means the tree, and they stop exactly where the spelling stops.

The proof follows the grammar.  For each phrase there is a statement of what the builder does with
its tokens, whatever containers are under construction around it.
-/

namespace WorkGate.Json

/-- What a value stands for, once its strings are read. -/
inductive Value.Means : Value → Tree → Prop where
  | null : Means .literal .null
  | bool {value : Bool} : Means .literal (.bool value)
  | number {digits written : Bytes} : Means (.number digits) (.number written)
  | string {raw : Bytes} {text : String} (read : unquote? raw = some text) :
      Means (.string raw) (.string text)
  | array {values : List Value} {trees : List Tree} (elements : List.Forall₂ Means values trees) :
      Means (.array values true) (.array trees)
  | object {entries : List (Bytes × Value)} {listed : List (String × Tree)}
      (names : List.Forall₂ (fun entry member => unquote? entry.1 = some member.1) entries listed)
      (values : List.Forall₂ (fun entry member => Means entry.2 member.2) entries listed) :
      Means (.object entries true) (.object listed)

/-- What a member stands for: its name is read, and its value means a tree. -/
def MeansMember (entry : Bytes × Value) (member : String × Tree) : Prop :=
  unquote? entry.1 = some member.1 ∧ entry.2.Means member.2

/-- An object means the list of what its members mean. -/
theorem Value.Means.of_members
    {entries : List (Bytes × Value)}
    {listed : List (String × Tree)}
    (members : List.Forall₂ MeansMember entries listed) :
    Means (.object entries true) (.object listed) :=
  .object (members.imp fun _ _ means => means.1) (members.imp fun _ _ means => means.2)

theorem Value.Means.members
    {entries : List (Bytes × Value)}
    {listed : List (String × Tree)}
    (names : List.Forall₂ (fun entry member => unquote? entry.1 = some member.1) entries listed)
    (values : List.Forall₂ (fun entry member => Means entry.2 member.2) entries listed) :
    List.Forall₂ MeansMember entries listed := by
  induction names with
  | nil => exact .nil
  | cons name others induction =>
      cases values with
      | cons value rest => exact .cons ⟨name, value⟩ (induction rest)

namespace Value

open Token (ofBytes Ends)

variable {value : Value} {tree : Tree} {text start behind rest later : Bytes}

/-- A complete value is the answer, or else it is added to the innermost container. -/
def deliver (value : Value) (rest : List Token) : List Frame → Value × Option (List Token)
  | [] => (value, some rest)
  | innermost :: outer => build .separator (innermost.add value :: outer) rest

theorem build_of_complete
    {expect : Expect}
    {stack outer : List Frame}
    {token : Token}
    {rest : List Token}
    (moves : step stack token expect = complete value outer) :
    build expect stack (token :: rest) = deliver value rest outer := by
  cases outer with
  | nil => simp [build, moves, complete, deliver]
  | cons innermost outer => simp [build, moves, complete, deliver]

theorem build_of_continue
    {expect next : Expect}
    {stack after : List Frame}
    {token : Token}
    {rest : List Token}
    (moves : step stack token expect = .continue next after) :
    build expect stack (token :: rest) = build next after rest := by
  simp only [build, moves]

/-! ## Where a value or a key may stand -/

/-- Where a value may stand: behind a comma or a colon, and as the first element of an array. -/
def Expect.atValue : List Expect := [.value, .firstElement]

/-- Where a key may stand. -/
def Expect.atKey : List Expect := [.key, .firstKey]

theorem step_atValue
    {expect : Expect}
    (expects : expect ∈ Expect.atValue)
    {token : Token}
    (notEnd : token ≠ .closeArray)
    (stack : List Frame) :
    step stack token expect = stepValue stack token := by
  simp only [Expect.atValue, List.mem_cons, List.not_mem_nil, or_false] at expects
  rcases expects with rfl | rfl
  · rfl
  · simp only [step]
    split
    · exact absurd rfl notEnd
    · rfl

theorem step_atKey
    {expect : Expect}
    (expects : expect ∈ Expect.atKey)
    {token : Token}
    (notEnd : token ≠ .closeObject)
    (stack : List Frame) :
    step stack token expect = stepKey stack token := by
  simp only [Expect.atKey, List.mem_cons, List.not_mem_nil, or_false] at expects
  rcases expects with rfl | rfl
  · simp only [step]
  · simp only [step]
    split
    · exact absurd rfl notEnd
    · rfl

theorem value_mem_atValue : Expect.value ∈ Expect.atValue := List.mem_cons_self

theorem firstElement_mem_atValue : Expect.firstElement ∈ Expect.atValue :=
  List.mem_cons_of_mem _ List.mem_cons_self

theorem key_mem_atKey : Expect.key ∈ Expect.atKey := List.mem_cons_self

theorem firstKey_mem_atKey : Expect.firstKey ∈ Expect.atKey :=
  List.mem_cons_of_mem _ List.mem_cons_self

/-! ## What the builder does with a phrase -/

/-- The text from here to the rest is read as this value. -/
def ReadsAs (value : Value) (text rest : Bytes) : Prop :=
  ∀ expect ∈ Expect.atValue, ∀ stack,
    build expect stack (ofBytes text) = deliver value (ofBytes rest) stack

end Value

open Value Token

/-- The builder reads the phrase, and goes on behind it as after a single value or member. -/
def Phrase.IsRead : Phrase → Bytes → Bytes → Prop
  | .value tree, text, rest => ∃ value : Value, value.Means tree ∧ value.ReadsAs text rest
  | .padded tree, text, rest => ∃ value : Value, value.Means tree ∧ value.ReadsAs text rest
  | .member name tree, text, rest =>
      ∃ entry, MeansMember entry (name, tree) ∧
        ∀ expect ∈ Expect.atKey, ∀ members last outer,
          build expect (.object members last :: outer) (ofBytes text) =
            build .separator (.object (entry :: members) entry.1 :: outer) (ofBytes rest)
  | .elements trees, text, rest =>
      ∃ values, List.Forall₂ Means values trees ∧
        ∀ expect ∈ Expect.atValue, ∀ elements outer,
          build expect (.array elements :: outer) (ofBytes text) =
            build .separator (.array (values.reverse ++ elements) :: outer) (ofBytes rest)
  | .members listed, text, rest =>
      ∃ entries, List.Forall₂ MeansMember entries listed ∧
        ∀ expect ∈ Expect.atKey, ∀ members last outer, ∃ key,
          build expect (.object members last :: outer) (ofBytes text) =
            build .separator (.object (entries.reverse ++ members) key :: outer) (ofBytes rest)

variable {tree : Tree} {text start behind later rest : Bytes}

/-- A value of a single token. -/
theorem readsAs_of_token
    {token : Token}
    {value : Value}
    (cuts : ofBytes text = token :: ofBytes rest)
    (notEnd : token ≠ .closeArray)
    (moves : ∀ stack, stepValue stack token = complete value stack) :
    value.ReadsAs text rest := by
  intro expect expects stack
  rw [cuts]
  exact build_of_complete ((step_atValue expects notEnd stack).trans (moves stack))

/-- A value that is a container: its first token opens it, and what lies behind completes it. -/
theorem readsAs_of_opens
    {token : Token}
    {value : Value}
    {expect : Expect}
    {frame : Frame}
    (cuts : ofBytes text = token :: ofBytes later)
    (notEnd : token ≠ .closeArray)
    (opens : ∀ stack, stepValue stack token = .continue expect (frame :: stack))
    (behind :
      ∀ stack, build expect (frame :: stack) (ofBytes later) = deliver value (ofBytes rest) stack) :
    value.ReadsAs text rest := by
  intro next expects stack
  rw [cuts, build_of_continue ((step_atValue expects notEnd stack).trans (opens stack))]
  exact behind stack

theorem isRead_emptyArray (blank : Blank text (0x5d :: rest)) :
    (Phrase.value (.array [])).IsRead (0x5b :: text) rest := by
  have closes : ofBytes text = .closeArray :: ofBytes rest :=
    (ofBytes_blank blank).trans (ofBytes_of_emit rfl)
  refine ⟨.array [] true, .array .nil, ?_⟩
  apply readsAs_of_opens (ofBytes_of_emit rfl) Token.noConfusion fun stack => rfl
  intro stack
  rw [closes]
  exact build_of_complete rfl

theorem isRead_array
    {trees : List Tree}
    (elements : (Phrase.elements trees).IsRead text (0x5d :: rest)) :
    (Phrase.value (.array trees)).IsRead (0x5b :: text) rest := by
  obtain ⟨values, means, builds⟩ := elements
  have closes : ofBytes (0x5d :: rest) = .closeArray :: ofBytes rest := ofBytes_of_emit rfl
  refine ⟨.array values true, .array means, ?_⟩
  apply readsAs_of_opens (ofBytes_of_emit rfl) Token.noConfusion fun stack => rfl
  intro stack
  rw [builds _ firstElement_mem_atValue, closes]
  apply build_of_complete
  simp [Value.step, stepSeparator, Frame.toValue]

theorem isRead_emptyObject (blank : Blank text (0x7d :: rest)) :
    (Phrase.value (.object [])).IsRead (0x7b :: text) rest := by
  have closes : ofBytes text = .closeObject :: ofBytes rest :=
    (ofBytes_blank blank).trans (ofBytes_of_emit rfl)
  refine ⟨.object [] true, .of_members .nil, ?_⟩
  apply readsAs_of_opens (ofBytes_of_emit rfl) Token.noConfusion fun stack => rfl
  intro stack
  rw [closes]
  exact build_of_complete rfl

theorem isRead_object
    {listed : List (String × Tree)}
    (members : (Phrase.members listed).IsRead text (0x7d :: rest)) :
    (Phrase.value (.object listed)).IsRead (0x7b :: text) rest := by
  obtain ⟨entries, means, builds⟩ := members
  have closes : ofBytes (0x7d :: rest) = .closeObject :: ofBytes rest := ofBytes_of_emit rfl
  refine ⟨.object entries true, .of_members means, ?_⟩
  apply readsAs_of_opens (ofBytes_of_emit rfl) Token.noConfusion fun stack => rfl
  intro stack
  obtain ⟨key, builds⟩ := builds _ firstKey_mem_atKey [] [] stack
  rw [builds, closes]
  apply build_of_complete
  simp [Value.step, stepSeparator, Frame.toValue]

theorem isRead_padded
    (before : Blank text start)
    (value : (Phrase.value tree).IsRead start behind)
    (after : Blank behind rest) :
    (Phrase.padded tree).IsRead text rest := by
  obtain ⟨value, means, reads⟩ := value
  refine ⟨value, means, ?_⟩
  intro expect expects stack
  rw [ofBytes_blank before, reads expect expects stack, ofBytes_blank after]

theorem isRead_member
    {name : String}
    {raw : Bytes}
    (before : Blank text (0x22 :: (raw ++ 0x22 :: behind)))
    (written : SpellsChars name.toList raw)
    (after : Blank behind (0x3a :: later))
    (value : (Phrase.padded tree).IsRead later rest) :
    (Phrase.member name tree).IsRead text rest := by
  obtain ⟨value, means, reads⟩ := value
  have cuts : ofBytes text = .string raw :: .colon :: ofBytes later := by
    rw [ofBytes_blank before, ofBytes_string written, ofBytes_blank after]
    exact congrArg _ (ofBytes_of_emit rfl)
  refine ⟨(raw, value), ⟨unquote?_of_spells written, means⟩, ?_⟩
  intro expect expects members last outer
  have key : Value.step (.object members last :: outer) (.string raw) expect =
      .continue .colon (.object members raw :: outer) :=
    step_atKey expects Token.noConfusion _
  rw [cuts, build_of_continue key, build_of_continue rfl, reads _ value_mem_atValue]
  rfl

theorem isRead_lastElement (last : (Phrase.padded tree).IsRead text rest) :
    (Phrase.elements [tree]).IsRead text rest := by
  obtain ⟨value, means, reads⟩ := last
  refine ⟨[value], .cons means .nil, ?_⟩
  intro expect expects elements outer
  rw [reads expect expects]
  rfl

theorem isRead_nextElement
    {trees : List Tree}
    (next : (Phrase.padded tree).IsRead text (0x2c :: later))
    (others : (Phrase.elements trees).IsRead later rest) :
    (Phrase.elements (tree :: trees)).IsRead text rest := by
  obtain ⟨value, means, reads⟩ := next
  obtain ⟨values, allMean, builds⟩ := others
  have comma : ofBytes (0x2c :: later) = .comma :: ofBytes later := ofBytes_of_emit rfl
  refine ⟨value :: values, .cons means allMean, ?_⟩
  intro expect expects elements outer
  rw [reads expect expects, deliver, Frame.add, comma, build_of_continue rfl,
    builds _ value_mem_atValue]
  simp

theorem isRead_lastMember
    {name : String}
    (last : (Phrase.member name tree).IsRead text rest) :
    (Phrase.members [(name, tree)]).IsRead text rest := by
  obtain ⟨entry, means, builds⟩ := last
  refine ⟨[entry], .cons means .nil, ?_⟩
  intro expect expects members last outer
  exact ⟨entry.1, builds expect expects members last outer⟩

theorem isRead_nextMember
    {name : String}
    {listed : List (String × Tree)}
    (next : (Phrase.member name tree).IsRead text (0x2c :: later))
    (others : (Phrase.members listed).IsRead later rest) :
    (Phrase.members ((name, tree) :: listed)).IsRead text rest := by
  obtain ⟨entry, means, builds⟩ := next
  obtain ⟨entries, allMean, buildsAll⟩ := others
  have comma : ofBytes (0x2c :: later) = .comma :: ofBytes later := ofBytes_of_emit rfl
  refine ⟨entry :: entries, .cons means allMean, ?_⟩
  intro expect expects members last outer
  obtain ⟨key, same⟩ := buildsAll _ key_mem_atKey (entry :: members) entry.1 outer
  refine ⟨key, ?_⟩
  rw [builds expect expects, comma, build_of_continue rfl, same]
  simp

/-- Whatever the grammar spells is read as the grammar says. -/
theorem Spells.isRead
    {phrase : Phrase}
    (spells : Spells phrase text rest) :
    Ends rest → phrase.IsRead text rest := by
  -- The end of a value matters to numbers only; within a container each value ends before
  -- punctuation or white space.
  induction spells with
  | null =>
      intro ends
      exact ⟨.literal, .null, readsAs_of_token ofBytes_null Token.noConfusion fun stack => rfl⟩
  | true =>
      intro ends
      exact ⟨.literal, .bool, readsAs_of_token ofBytes_true Token.noConfusion fun stack => rfl⟩
  | false =>
      intro ends
      exact ⟨.literal, .bool, readsAs_of_token ofBytes_false Token.noConfusion fun stack => rfl⟩
  | number isNumber =>
      intro ends
      obtain ⟨digits, cuts⟩ := exists_ofBytes_number isNumber ends
      exact ⟨.number digits, .number, readsAs_of_token cuts Token.noConfusion fun stack => rfl⟩
  | @string text raw rest written =>
      intro ends
      exact ⟨.string raw, .string (unquote?_of_spells written),
        readsAs_of_token (ofBytes_string written) Token.noConfusion fun stack => rfl⟩
  | emptyArray blank =>
      intro ends
      exact isRead_emptyArray blank
  | array elements induction =>
      intro ends
      exact isRead_array (induction (Ends.cons (by simp)))
  | emptyObject blank =>
      intro ends
      exact isRead_emptyObject blank
  | object members induction =>
      intro ends
      exact isRead_object (induction (Ends.cons (by simp)))
  | padded before value after induction =>
      intro ends
      exact isRead_padded before (induction (Ends.of_blank after ends)) after
  | member before written after value induction =>
      intro ends
      exact isRead_member before written after (induction ends)
  | lastElement last induction =>
      intro ends
      exact isRead_lastElement (induction ends)
  | nextElement next others nextInduction othersInduction =>
      intro ends
      exact isRead_nextElement (nextInduction (Ends.cons (by simp))) (othersInduction ends)
  | lastMember last induction =>
      intro ends
      exact isRead_lastMember (induction ends)
  | nextMember next others nextInduction othersInduction =>
      intro ends
      exact isRead_nextMember (nextInduction (Ends.cons (by simp))) (othersInduction ends)

/-- A shape is read from a JSON text by reading it from a value that means its tree. -/
theorem exists_read_eq (isText : IsText tree text) :
    ∃ value : Value, value.Means tree ∧
      ∀ {Content : Type} (shape : Value → Except Fault Content), read shape text = shape value := by
  obtain ⟨value, means, reads⟩ := isText.isRead Ends.nil
  refine ⟨value, means, ?_⟩
  intro Content shape
  have whole : Value.ofTokens (ofBytes text) = (value, some []) :=
    reads .value value_mem_atValue []
  simp only [read, whole]
  cases shape value with
  | error fault => rfl
  | ok content => rfl

end WorkGate.Json
