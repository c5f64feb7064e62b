import Mathlib.Data.List.Induction

/-!
# What has held since something happened

A history is a list of entries, the earliest first.  `Since kept begun` says that at some entry
`begun` held and that every later entry kept it.  The state of a table that remembers things until
something removes them is such a statement about the history of its operations.

The main lemma says how the statement changes when one more entry is appended; with it an induction
over a run never has to take a history apart.
-/

namespace WorkGate

variable {Entry : Type} {kept begun : Entry → Prop}

/-- Something began at an entry and every later entry kept it. -/
def Since (kept begun : Entry → Prop) (history : List Entry) : Prop :=
  ∃ earlier entry later,
    history = earlier ++ entry :: later ∧ begun entry ∧ ∀ next ∈ later, kept next

/-- A split of a history that ends in `last` is either at `last` or a split of what lies before. -/
theorem concat_eq_append_cons_iff
    {earlier later history : List Entry}
    {entry last : Entry} :
    history ++ [last] = earlier ++ entry :: later ↔
      (later = [] ∧ history = earlier ∧ last = entry) ∨
        ∃ between, later = between ++ [last] ∧ history = earlier ++ entry :: between := by
  constructor
  · intro split
    rcases List.eq_nil_or_concat later with rfl | ⟨between, final, rfl⟩
    · obtain ⟨same, sameLast⟩ := List.append_inj' split rfl
      exact Or.inl ⟨rfl, same, List.singleton_inj.mp sameLast⟩
    · rw [List.concat_eq_append, ← List.cons_append, ← List.append_assoc] at split
      obtain ⟨same, sameLast⟩ := List.append_inj' split rfl
      have final_eq : last = final := List.singleton_inj.mp sameLast
      exact Or.inr ⟨between, by rw [List.concat_eq_append, final_eq], same⟩
  · rintro (⟨rfl, rfl, rfl⟩ | ⟨between, rfl, rfl⟩)
    · rfl
    · simp

theorem not_since_nil : ¬ Since kept begun ([] : List Entry) := by
  rintro ⟨earlier, entry, later, split, -, -⟩
  simp at split

/-- One more entry either begins anew or keeps what was begun before. -/
theorem since_concat_iff {history : List Entry} {last : Entry} :
    Since kept begun (history ++ [last]) ↔
      begun last ∨ (Since kept begun history ∧ kept last) := by
  constructor
  · rintro ⟨earlier, entry, later, split, begins, keeps⟩
    rcases concat_eq_append_cons_iff.mp split with
      ⟨-, -, rfl⟩ | ⟨between, rfl, rfl⟩
    · exact Or.inl begins
    · have keepsBetween : ∀ next ∈ between, kept next := fun next member =>
        keeps next (List.mem_append_left _ member)
      exact Or.inr ⟨⟨earlier, entry, between, rfl, begins, keepsBetween⟩, keeps last (by simp)⟩
  · rintro (begins | ⟨⟨earlier, entry, later, rfl, begins, keeps⟩, keepsLast⟩)
    · exact ⟨history, last, [], rfl, begins, by simp⟩
    · refine ⟨earlier, entry, later ++ [last], by simp, begins, ?_⟩
      intro next member
      rcases List.mem_append.mp member with old | new
      · exact keeps next old
      · rw [List.mem_singleton.mp new]
        exact keepsLast

/-- What was kept in a strong sense was kept in a weaker one. -/
theorem Since.imp
    {weaklyKept : Entry → Prop}
    {history : List Entry}
    (since : Since kept begun history)
    (weaken : ∀ entry, kept entry → weaklyKept entry) :
    Since weaklyKept begun history := by
  obtain ⟨earlier, entry, later, split, begins, keeps⟩ := since
  exact ⟨earlier, entry, later, split, begins, fun next member => weaken next (keeps next member)⟩

/-- The last beginning has one value only. -/
theorem value_unique_of_since
    {Value : Type}
    {value : Entry → Value}
    {first second : Value}
    {history : List Entry}
    (since :
      Since (fun entry => ¬ begun entry) (fun entry => begun entry ∧ value entry = first) history)
    (sinceToo :
      Since (fun entry => ¬ begun entry) (fun entry => begun entry ∧ value entry = second)
        history) :
    first = second := by
  -- From the end, where the last beginning is found first.
  induction history using List.reverseRecOn with
  | nil => exact absurd since not_since_nil
  | append_singleton history last induction =>
      rcases since_concat_iff.mp since with ⟨begins, rfl⟩ | ⟨earlier, quiet⟩
      · rcases since_concat_iff.mp sinceToo with ⟨-, rfl⟩ | ⟨-, quiet⟩
        · rfl
        · exact absurd begins quiet
      · rcases since_concat_iff.mp sinceToo with ⟨begins, -⟩ | ⟨earlierToo, -⟩
        · exact absurd begins quiet
        · exact induction earlier earlierToo

/-- An entry that is the only one of its kind splits a history in one way. -/
theorem split_unique
    {earlier later before after : List Entry}
    {entry other : Entry}
    (unique :
      (earlier ++ entry :: later).Pairwise fun former latter => begun former → ¬ begun latter)
    (begins : begun entry)
    (otherBegins : begun other)
    (split : earlier ++ entry :: later = before ++ other :: after) :
    earlier = before ∧ entry = other ∧ later = after := by
  obtain ⟨-, fromEntry, across⟩ := List.pairwise_append.mp unique
  have notLater : other ∉ later := fun member =>
    (List.pairwise_cons.mp fromEntry).1 other member begins otherBegins
  have notEarlier : other ∉ earlier := fun member =>
    across other member entry (by simp) otherBegins begins
  rcases List.append_eq_append_iff.mp split with
    ⟨between, rfl, rest⟩ | ⟨between, rfl, rest⟩
  · cases between with
    | nil =>
        obtain ⟨rfl, rfl⟩ := List.cons.inj rest
        exact ⟨by simp, rfl, rfl⟩
    | cons next between =>
        obtain ⟨rfl, rfl⟩ := List.cons.inj rest
        exact absurd (by simp) notLater
  · cases between with
    | nil =>
        obtain ⟨rfl, rfl⟩ := List.cons.inj rest
        exact ⟨by simp, rfl, rfl⟩
    | cons next between =>
        obtain ⟨rfl, rfl⟩ := List.cons.inj rest
        exact absurd (by simp) notEarlier

end WorkGate
