/-!
# Tables

A table associates keys with values and holds each key at most once; that is part of the type.
Tables are seen through `get?`, through membership of an entry, and through their size.  The lemmas
say what each operation does to `get?`; with them no later proof has to look at the list inside.
-/

namespace WorkGate

/-- A finite association of keys with values. -/
structure Table (Key Value : Type) where
  /-- The entries, latest insertion first. -/
  entries : List (Key × Value)
  nodup : (entries.map Prod.fst).Nodup

namespace Table

variable {Key Value : Type}

@[ext]
theorem ext
    {left right : Table Key Value}
    (same : left.entries = right.entries) :
    left = right := by
  cases left; cases right; simp_all

instance [DecidableEq Key] [DecidableEq Value] : DecidableEq (Table Key Value) :=
  fun left right =>
    if same : left.entries = right.entries then isTrue (ext same)
    else isFalse fun equal => same (congrArg entries equal)

def empty : Table Key Value where
  entries := []
  nodup := List.nodup_nil

instance : EmptyCollection (Table Key Value) :=
  ⟨empty⟩

instance : Inhabited (Table Key Value) :=
  ⟨∅⟩

def size (table : Table Key Value) : Nat :=
  table.entries.length

def keys (table : Table Key Value) : List Key :=
  table.entries.map Prod.fst

def filter (keep : Key → Value → Bool) (table : Table Key Value) : Table Key Value where
  entries := table.entries.filter fun entry => keep entry.1 entry.2
  nodup := table.nodup.sublist (List.filter_sublist.map _)

@[simp]
theorem size_empty : (∅ : Table Key Value).size = 0 :=
  rfl

variable [DecidableEq Key]

def get? (key : Key) (table : Table Key Value) : Option Value :=
  (table.entries.find? fun entry => entry.1 = key).map Prod.snd

def contains (key : Key) (table : Table Key Value) : Bool :=
  (table.get? key).isSome

def erase (key : Key) (table : Table Key Value) : Table Key Value :=
  table.filter fun other _ => other ≠ key

/-- Gives a key a value, replacing the one it had. -/
def insert (key : Key) (value : Value) (table : Table Key Value) : Table Key Value where
  entries := (key, value) :: (table.erase key).entries
  nodup := by
    have fresh : key ∉ (table.erase key).entries.map Prod.fst := by
      simp [erase, filter]
    exact List.nodup_cons.2 ⟨fresh, (table.erase key).nodup⟩

theorem get?_eq_some_iff {table : Table Key Value} {key : Key} {value : Value} :
    table.get? key = some value ↔ (key, value) ∈ table.entries := by
  obtain ⟨entries, nodup⟩ := table
  simp only [get?]
  induction entries with
  | nil => simp
  | cons entry rest induction =>
      have distinct := List.nodup_cons.1 nodup
      by_cases same : entry.1 = key
      · have absent : (key, value) ∉ rest := fun member =>
          distinct.1 (same ▸ List.mem_map_of_mem member)
        simp [same, absent, Prod.ext_iff, eq_comm]
      · have different : (key, value) ≠ entry := fun equal => same (by simp [← equal])
        simp [same, different, induction distinct.2]

@[simp]
theorem get?_empty (key : Key) : (∅ : Table Key Value).get? key = none :=
  rfl

theorem get?_filter
    (keep : Key → Value → Bool)
    (table : Table Key Value)
    (key : Key) :
    (table.filter keep).get? key = (table.get? key).filter (keep key) := by
  apply Option.ext
  intro value
  rw [get?_eq_some_iff, Option.filter_eq_some_iff, get?_eq_some_iff]
  simp [filter]

@[simp]
theorem get?_erase_self (key : Key) (table : Table Key Value) :
    (table.erase key).get? key = none := by
  simp [erase, get?_filter]

theorem get?_erase_of_ne
    {key other : Key}
    (different : other ≠ key)
    (table : Table Key Value) :
    (table.erase key).get? other = table.get? other := by
  cases found : table.get? other <;> simp [erase, get?_filter, different, found]

@[simp]
theorem get?_insert_self (key : Key) (value : Value) (table : Table Key Value) :
    (table.insert key value).get? key = some value := by
  simp [get?, insert]

theorem get?_insert_of_ne
    {key other : Key}
    (different : other ≠ key)
    (value : Value)
    (table : Table Key Value) :
    (table.insert key value).get? other = table.get? other := by
  have swapped : key ≠ other := fun equal => different equal.symm
  rw [← get?_erase_of_ne different table]
  simp [get?, insert, swapped]

end Table

end WorkGate
