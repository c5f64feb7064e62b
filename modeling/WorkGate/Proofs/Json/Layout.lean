import Mathlib.Logic.Relation
import WorkGate.Proofs.Json.Grammar

/-!
# Layouts

A layout says what a tree should look like: it is a text, or a record of two named fields, each
laid out in its turn.  A record is an object in which each of its names occurs exactly once, or an
array of exactly the two values.  Members of other names do not count.

Two relations between trees are compared with this.  Trees are alike for a layout if one becomes
the other by reordering members and by adding or removing members that the layout does not name, at
any level; then they hold the same content.  A tree repeats a name of the layout if an object has
two members of that name, at any level; then it holds no content.
-/

namespace WorkGate.Json

/-- The values of all members of this name, in the order of the text. -/
def valuesOf
    (name : String)
    (members : List (String × Tree)) :
    List Tree :=
  (members.filter fun member => member.1 = name).map Prod.snd

section ValuesOf

variable {name other : String} {tree : Tree} {members : List (String × Tree)}

@[simp]
theorem valuesOf_nil : valuesOf name [] = [] := rfl

@[simp]
theorem valuesOf_cons_self :
    valuesOf name ((name, tree) :: members) = tree :: valuesOf name members := by
  simp [valuesOf]

theorem valuesOf_cons_of_ne (differs : other ≠ name) :
    valuesOf name ((other, tree) :: members) = valuesOf name members := by
  simp [valuesOf, differs]

/-- The name occurs exactly once, with an acceptable value. -/
def OccursOnce
    (name : String)
    (accepts : Tree → Prop)
    (members : List (String × Tree)) :
    Prop :=
  ∃ tree, valuesOf name members = [tree] ∧ accepts tree

variable {accepts : Tree → Prop}

theorem occursOnce_cons_self :
    OccursOnce name accepts ((name, tree) :: members) ↔
      accepts tree ∧ valuesOf name members = [] := by
  constructor
  · rintro ⟨value, once, accepted⟩
    obtain ⟨rfl, none⟩ := List.cons.inj (valuesOf_cons_self.symm.trans once)
    exact ⟨accepted, none⟩
  · rintro ⟨accepted, none⟩
    exact ⟨tree, by rw [valuesOf_cons_self, none], accepted⟩

theorem occursOnce_cons_of_ne (differs : other ≠ name) :
    OccursOnce name accepts ((other, tree) :: members) ↔ OccursOnce name accepts members := by
  rw [OccursOnce, valuesOf_cons_of_ne differs, OccursOnce]

/-- The order of members does not matter to a name that occurs once. -/
theorem occursOnce_iff_of_perm
    {reordered : List (String × Tree)}
    (perm : members.Perm reordered) :
    OccursOnce name accepts members ↔ OccursOnce name accepts reordered := by
  have values : (valuesOf name members).Perm (valuesOf name reordered) :=
    (perm.filter _).map _
  have same (value : Tree) :
      valuesOf name members = [value] ↔ valuesOf name reordered = [value] := by
    rw [← List.perm_singleton, ← List.perm_singleton]
    exact ⟨values.symm.trans, values.trans⟩
  simp only [OccursOnce, same]

end ValuesOf

/-- What a tree should look like. -/
inductive Layout where
  | text
  | record (firstName : String) (first : Layout) (secondName : String) (second : Layout)

namespace Layout

/-- What trees of a layout hold: a text, or a pair of contents. -/
def Content : Layout → Type
  | text => String
  | record _ first _ second => first.Content × second.Content

/-- The tree is laid out like this and holds this content. -/
def Holds : (layout : Layout) → Tree → layout.Content → Prop
  | text, .string written, content => written = content
  | record firstName first secondName second, .object members, (one, two) =>
      OccursOnce firstName (fun tree => first.Holds tree one) members ∧
        OccursOnce secondName (fun tree => second.Holds tree two) members
  | record _ first _ second, .array [firstTree, secondTree], (one, two) =>
      first.Holds firstTree one ∧ second.Holds secondTree two
  | _, _, _ => False

/-- An object of just the two members of a record holds what their values hold. -/
theorem holds_object_of_two
    {firstName secondName : String}
    {first second : Layout}
    {firstTree secondTree : Tree}
    {one : first.Content}
    {two : second.Content}
    (differ : firstName ≠ secondName)
    (firstHolds : first.Holds firstTree one)
    (secondHolds : second.Holds secondTree two) :
    (record firstName first secondName second).Holds
      (.object [(firstName, firstTree), (secondName, secondTree)]) (one, two) := by
  constructor
  · rw [occursOnce_cons_self, valuesOf_cons_of_ne differ.symm]
    exact ⟨firstHolds, rfl⟩
  · rw [occursOnce_cons_of_ne differ, occursOnce_cons_self]
    exact ⟨secondHolds, rfl⟩

/-! ## Changes that do not count -/

/-- One change that the layout does not see. -/
inductive Edit : Layout → Tree → Tree → Prop where
  | reorder {firstName secondName : String} {first second : Layout}
      {members reordered : List (String × Tree)}
      (perm : members.Perm reordered) :
      Edit (.record firstName first secondName second) (.object members) (.object reordered)
  | unknown {firstName secondName name : String} {first second : Layout} {tree : Tree}
      {members : List (String × Tree)}
      (notFirst : name ≠ firstName) (notSecond : name ≠ secondName) :
      Edit (.record firstName first secondName second) (.object members)
        (.object ((name, tree) :: members))
  | firstMember {firstName secondName : String} {first second : Layout} {tree edited : Tree}
      {members : List (String × Tree)}
      (edit : Edit first tree edited) :
      Edit (.record firstName first secondName second) (.object ((firstName, tree) :: members))
        (.object ((firstName, edited) :: members))
  | secondMember {firstName secondName : String} {first second : Layout} {tree edited : Tree}
      {members : List (String × Tree)}
      (edit : Edit second tree edited) :
      Edit (.record firstName first secondName second) (.object ((secondName, tree) :: members))
        (.object ((secondName, edited) :: members))
  | firstElement {firstName secondName : String} {first second : Layout} {tree edited other : Tree}
      (edit : Edit first tree edited) :
      Edit (.record firstName first secondName second) (.array [tree, other])
        (.array [edited, other])
  | secondElement {firstName secondName : String} {first second : Layout} {tree edited other : Tree}
      (edit : Edit second tree edited) :
      Edit (.record firstName first secondName second) (.array [other, tree])
        (.array [other, edited])

/-- The trees differ in changes that the layout does not see. -/
def Alike (layout : Layout) : Tree → Tree → Prop :=
  Relation.EqvGen layout.Edit

/-- The names of every record of the layout are different. -/
def Distinct : Layout → Prop
  | text => True
  | record firstName first secondName second =>
      firstName ≠ secondName ∧ first.Distinct ∧ second.Distinct

theorem Edit.holds_iff
    {layout : Layout}
    {tree edited : Tree}
    (edit : layout.Edit tree edited)
    (distinct : layout.Distinct) :
    ∀ content, layout.Holds tree content ↔ layout.Holds edited content := by
  induction edit with
  | reorder perm =>
      rintro ⟨one, two⟩
      exact and_congr (occursOnce_iff_of_perm perm) (occursOnce_iff_of_perm perm)
  | unknown notFirst notSecond =>
      rintro ⟨one, two⟩
      exact and_congr (occursOnce_cons_of_ne notFirst).symm (occursOnce_cons_of_ne notSecond).symm
  | firstMember edit induction =>
      obtain ⟨differ, firstDistinct, -⟩ := distinct
      rintro ⟨one, two⟩
      simp only [Holds, occursOnce_cons_self, occursOnce_cons_of_ne differ,
        induction firstDistinct one]
  | secondMember edit induction =>
      obtain ⟨differ, -, secondDistinct⟩ := distinct
      rintro ⟨one, two⟩
      simp only [Holds, occursOnce_cons_self, occursOnce_cons_of_ne differ.symm,
        induction secondDistinct two]
  | firstElement edit induction =>
      rintro ⟨one, two⟩
      exact and_congr_left' (induction distinct.2.1 one)
  | secondElement edit induction =>
      rintro ⟨one, two⟩
      exact and_congr_right' (induction distinct.2.2 two)

/-- Trees that differ in changes that the layout does not see hold the same content. -/
theorem Alike.holds_iff
    {layout : Layout}
    {tree other : Tree}
    (alike : layout.Alike tree other)
    (distinct : layout.Distinct)
    (content : layout.Content) :
    layout.Holds tree content ↔ layout.Holds other content := by
  induction alike with
  | rel left right edit => exact edit.holds_iff distinct content
  | refl tree => exact Iff.rfl
  | symm left right _ induction => exact induction.symm
  | trans left middle right _ _ first second => exact first.trans second

/-! ## Names that occur twice -/

/-- Somewhere in the tree a name of the layout occurs twice in one object. -/
inductive Repeats : Layout → Tree → Prop where
  | firstName {firstName secondName : String} {first second : Layout}
      {members : List (String × Tree)}
      (twice : 2 ≤ (valuesOf firstName members).length) :
      Repeats (.record firstName first secondName second) (.object members)
  | secondName {firstName secondName : String} {first second : Layout}
      {members : List (String × Tree)}
      (twice : 2 ≤ (valuesOf secondName members).length) :
      Repeats (.record firstName first secondName second) (.object members)
  | firstMember {firstName secondName : String} {first second : Layout} {tree : Tree}
      {members : List (String × Tree)}
      (member : (firstName, tree) ∈ members) (repeats : Repeats first tree) :
      Repeats (.record firstName first secondName second) (.object members)
  | secondMember {firstName secondName : String} {first second : Layout} {tree : Tree}
      {members : List (String × Tree)}
      (member : (secondName, tree) ∈ members) (repeats : Repeats second tree) :
      Repeats (.record firstName first secondName second) (.object members)
  | firstElement {firstName secondName : String} {first second : Layout} {tree : Tree}
      {others : List Tree}
      (repeats : Repeats first tree) :
      Repeats (.record firstName first secondName second) (.array (tree :: others))
  | secondElement {firstName secondName : String} {first second : Layout} {tree other : Tree}
      {others : List Tree}
      (repeats : Repeats second tree) :
      Repeats (.record firstName first secondName second) (.array (other :: tree :: others))

/-- A member of a name that occurs once has the acceptable value. -/
theorem accepts_of_mem
    {name : String}
    {accepts : Tree → Prop}
    {tree : Tree}
    {members : List (String × Tree)}
    (member : (name, tree) ∈ members)
    (once : OccursOnce name accepts members) :
    accepts tree := by
  obtain ⟨value, once, accepted⟩ := once
  have listed : tree ∈ valuesOf name members :=
    List.mem_map.mpr ⟨(name, tree), List.mem_filter.mpr ⟨member, by simp⟩, rfl⟩
  rw [once] at listed
  rw [List.mem_singleton.mp listed]
  exact accepted

theorem not_occursOnce_of_two_le
    {name : String}
    {accepts : Tree → Prop}
    {members : List (String × Tree)}
    (twice : 2 ≤ (valuesOf name members).length) :
    ¬ OccursOnce name accepts members := by
  rintro ⟨value, once, -⟩
  simp [once] at twice

/-- An array that holds a record has two elements, which hold its parts. -/
theorem holds_array_iff
    {firstName secondName : String}
    {first second : Layout}
    {elements : List Tree}
    {one : first.Content}
    {two : second.Content} :
    (record firstName first secondName second).Holds (.array elements) (one, two) ↔
      ∃ firstTree secondTree, elements = [firstTree, secondTree] ∧
        first.Holds firstTree one ∧ second.Holds secondTree two := by
  constructor
  · intro holds
    match elements, holds with
    | [firstTree, secondTree], holds => exact ⟨firstTree, secondTree, rfl, holds⟩
  · rintro ⟨firstTree, secondTree, rfl, holds⟩
    exact holds

/-- A tree that repeats a name of the layout holds nothing. -/
theorem Repeats.not_holds
    {layout : Layout}
    {tree : Tree}
    (repeats : layout.Repeats tree) :
    ∀ content, ¬ layout.Holds tree content := by
  induction repeats with
  | firstName twice =>
      rintro ⟨one, two⟩ ⟨once, -⟩
      exact not_occursOnce_of_two_le twice once
  | secondName twice =>
      rintro ⟨one, two⟩ ⟨-, once⟩
      exact not_occursOnce_of_two_le twice once
  | firstMember member repeats induction =>
      rintro ⟨one, two⟩ ⟨once, -⟩
      exact induction one (accepts_of_mem member once)
  | secondMember member repeats induction =>
      rintro ⟨one, two⟩ ⟨-, once⟩
      exact induction two (accepts_of_mem member once)
  | firstElement repeats induction =>
      rintro ⟨one, two⟩ holds
      obtain ⟨firstTree, secondTree, same, firstHolds, -⟩ := holds_array_iff.mp holds
      obtain rfl := (List.cons.inj same).1
      exact induction one firstHolds
  | secondElement repeats induction =>
      rintro ⟨one, two⟩ holds
      obtain ⟨firstTree, secondTree, same, -, secondHolds⟩ := holds_array_iff.mp holds
      obtain rfl := (List.cons.inj (List.cons.inj same).2).1
      exact induction two secondHolds

end Layout

end WorkGate.Json
