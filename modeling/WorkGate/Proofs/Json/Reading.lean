import Mathlib.Logic.Equiv.Defs
import WorkGate.Proofs.Json.Building
import WorkGate.Proofs.Json.Layout

/-!
# Shapes read what layouts hold

A shape follows a layout if it reads from every value exactly what the layout finds in the tree
that the value means.  Texts follow the layout of texts, and a pair of fields follows the record of
their layouts.  For objects the proof goes through the members in order: what was found so far and
what the members still have to give decide about the result.
-/

namespace WorkGate.Json

open Value

variable {First Second Content : Type}

/-- The shape reads from a value exactly what the layout finds in its tree. -/
def Layout.Follows
    (layout : Layout)
    (parts : Content → layout.Content)
    (shape : Value → Except Fault Content) :
    Prop :=
  ∀ ⦃value : Value⦄ ⦃tree : Tree⦄, value.Means tree →
    ∀ content, shape value = .ok content ↔ layout.Holds tree (parts content)

namespace Layout

theorem follows_text : text.Follows id Value.text := by
  intro value tree means content
  cases means with
  | null => simp [Value.text, Holds]
  | bool => simp [Value.text, Holds]
  | number => simp [Value.text, Holds]
  | string read =>
      simp only [Value.text, read]
      exact ⟨Except.ok.inj, congrArg Except.ok⟩
  | array elements => simp [Value.text, Holds]
  | object names values => simp [Value.text, Holds]

/-! ## Members -/

/-- With what was found before, the members give the field this content. -/
def Completes
    (name : String)
    (accepts : Content → Tree → Prop)
    (found : Option Content)
    (members : List (String × Tree))
    (content : Content) :
    Prop :=
  match found with
  | none => OccursOnce name (accepts content) members
  | some earlier => earlier = content ∧ valuesOf name members = []

section Completes

variable {name other : String} {accepts : Content → Tree → Prop} {found : Option Content}
  {tree : Tree} {members : List (String × Tree)} {content : Content}

theorem completes_cons_of_ne (differs : other ≠ name) :
    Completes name accepts found ((other, tree) :: members) content ↔
      Completes name accepts found members content := by
  cases found with
  | none => exact occursOnce_cons_of_ne differs
  | some earlier => simp only [Completes, valuesOf_cons_of_ne differs]

/-- A field that was found before is not completed by another member of its name. -/
theorem not_completes_cons_self {earlier : Content} :
    ¬ Completes name accepts (some earlier) ((name, tree) :: members) content := by
  simp [Completes]

/-- A field that was not found before is completed by a member of its name and no later one. -/
theorem completes_cons_self_iff
    {reading : Except Fault Content}
    (reads : ∀ content, reading = .ok content ↔ accepts content tree) :
    Completes name accepts none ((name, tree) :: members) content ↔
      reading = .ok content ∧ valuesOf name members = [] := by
  rw [reads]
  exact occursOnce_cons_self

end Completes

variable {first : Value.Field First} {second : Value.Field Second}
variable {firstLayout secondLayout : Layout}
  {firstParts : First → firstLayout.Content} {secondParts : Second → secondLayout.Content}

/-- Members are read as the content to which they complete both fields. -/
theorem readMembers_eq_ok_iff
    (firstFollows : firstLayout.Follows firstParts first.read)
    (secondFollows : secondLayout.Follows secondParts second.read)
    (differ : first.name ≠ second.name)
    {entries : List (Bytes × Value)}
    {members : List (String × Tree)}
    (means : List.Forall₂ MeansMember entries members)
    (foundFirst : Option First)
    (foundSecond : Option Second)
    (one : First)
    (two : Second) :
    readMembers first second true foundFirst foundSecond entries = .ok (one, two) ↔
      Completes first.name (fun content tree => firstLayout.Holds tree (firstParts content))
          foundFirst members one ∧
        Completes second.name (fun content tree => secondLayout.Holds tree (secondParts content))
          foundSecond members two := by
  induction means generalizing foundFirst foundSecond with
  | nil =>
      cases foundFirst <;> cases foundSecond <;> simp [readMembers, Completes, OccursOnce]
  | @cons entry member entries members means others induction =>
      obtain ⟨key, value⟩ := entry
      obtain ⟨name, tree⟩ := member
      obtain ⟨named, valueMeans⟩ : unquote? key = some name ∧ value.Means tree := means
      by_cases isFirst : name = first.name
      · subst isFirst
        rw [completes_cons_of_ne differ]
        cases foundFirst with
        | some earlier => simp [readMembers, named, not_completes_cons_self]
        | none =>
            rw [completes_cons_self_iff (firstFollows valueMeans)]
            cases reading : first.read value with
            | error fault => simp [readMembers, named, reading]
            | ok content => simp [readMembers, named, reading, induction, Completes, and_assoc]
      · rw [completes_cons_of_ne isFirst]
        by_cases isSecond : name = second.name
        · subst isSecond
          cases foundSecond with
          | some earlier => simp [readMembers, named, isFirst, not_completes_cons_self]
          | none =>
              rw [completes_cons_self_iff (secondFollows valueMeans)]
              cases reading : second.read value with
              | error fault => simp [readMembers, named, isFirst, reading]
              | ok content => simp [readMembers, named, isFirst, reading, induction, Completes]
        · rw [completes_cons_of_ne isSecond]
          simp [readMembers, named, isFirst, isSecond, induction]

/-! ## Elements -/

theorem readElements_eq_ok_iff
    (firstFollows : firstLayout.Follows firstParts first.read)
    (secondFollows : secondLayout.Follows secondParts second.read)
    {values : List Value}
    {trees : List Tree}
    (means : List.Forall₂ Means values trees)
    (one : First)
    (two : Second) :
    readElements first second true values = .ok (one, two) ↔
      (record first.name firstLayout second.name secondLayout).Holds (.array trees)
        (firstParts one, secondParts two) := by
  rw [holds_array_iff]
  cases means with
  | nil => simp [readElements]
  | @cons firstValue firstTree _ _ firstMeans others =>
      have readsFirst := firstFollows firstMeans one
      cases others with
      | nil => cases reading : first.read firstValue <;> simp [readElements, reading]
      | @cons secondValue secondTree _ _ secondMeans others =>
          have readsSecond := secondFollows secondMeans two
          cases readingFirst : first.read firstValue with
          | error fault => simp_all [readElements]
          | ok firstContent =>
              cases readingSecond : second.read secondValue with
              | error fault => simp_all [readElements]
              | ok secondContent =>
                  cases others with
                  | nil => simp_all [readElements]
                  | cons thirdMeans others => simp [readElements, readingFirst, readingSecond]

/-- A pair of fields follows the record of their layouts. -/
theorem follows_pair
    (first : Value.Field First)
    (second : Value.Field Second)
    (firstFollows : firstLayout.Follows firstParts first.read)
    (secondFollows : secondLayout.Follows secondParts second.read)
    (differ : first.name ≠ second.name) :
    (record first.name firstLayout second.name secondLayout).Follows
      (fun content => (firstParts content.1, secondParts content.2))
      (Value.pair first second) := by
  rintro value tree means ⟨one, two⟩
  cases means with
  | null => simp [Value.pair, Holds]
  | bool => simp [Value.pair, Holds]
  | number => simp [Value.pair, Holds]
  | string read => simp [Value.pair, Holds]
  | array elements => exact readElements_eq_ok_iff firstFollows secondFollows elements one two
  | object names values =>
      exact readMembers_eq_ok_iff firstFollows secondFollows differ (Means.members names values)
        none none one two

/-- A shape that only rearranges what is read follows the same layout. -/
theorem Follows.map
    {Other : Type}
    {layout : Layout}
    {parts : Content → layout.Content}
    {shape : Value → Except Fault Content}
    (follows : layout.Follows parts shape)
    (rearrange : Content ≃ Other) :
    layout.Follows (parts ∘ rearrange.symm) fun value => (shape value).map rearrange := by
  intro value tree means content
  rw [Function.comp, ← follows means]
  cases reading : shape value with
  | error fault => simp [reading, Except.map]
  | ok read => simp [reading, Except.map, Equiv.eq_symm_apply]

/-- From a text, a shape reads what its layout holds in the tree of the text. -/
theorem Follows.read_eq_ok_iff
    {layout : Layout}
    {parts : Content → layout.Content}
    {shape : Value → Except Fault Content}
    {tree : Tree}
    {text : Bytes}
    (follows : layout.Follows parts shape)
    (isText : IsText tree text)
    (content : Content) :
    read shape text = .ok content ↔ layout.Holds tree (parts content) := by
  obtain ⟨value, means, reads⟩ := exists_read_eq isText
  rw [reads, follows means]

end Layout

end WorkGate.Json
