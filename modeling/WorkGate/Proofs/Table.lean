import Mathlib.Data.List.Dedup
import Mathlib.Data.List.Nodup
import Mathlib.Data.List.Perm.Subperm
import WorkGate.Table

/-!
# Looking up after an operation

For each operation on a table, the entries that are found afterwards in terms of those found
before, and the size.
-/

namespace WorkGate.Table

variable {Key Value : Type} [DecidableEq Key]
variable {table : Table Key Value} {key other : Key} {value found : Value}

theorem get?_filter_eq_some_iff {keep : Key → Value → Bool} :
    (table.filter keep).get? key = some value ↔
      table.get? key = some value ∧ keep key value := by
  rw [get?_filter, Option.filter_eq_some_iff]

theorem get?_erase_eq_some_iff :
    (table.erase key).get? other = some found ↔
      other ≠ key ∧ table.get? other = some found := by
  by_cases same : other = key
  · subst same
    simp
  · simp [get?_erase_of_ne same, same]

theorem get?_insert_eq_some_iff :
    (table.insert key value).get? other = some found ↔
      (other = key ∧ value = found) ∨ (other ≠ key ∧ table.get? other = some found) := by
  by_cases same : other = key
  · subst same
    simp
  · simp [get?_insert_of_ne same, same]

theorem mem_keys_iff : key ∈ table.keys ↔ ∃ value, table.get? key = some value := by
  simp only [keys, List.mem_map, Prod.exists, exists_and_right, exists_eq_right, get?_eq_some_iff]

theorem contains_eq_false_iff :
    table.contains key = false ↔ ∀ value, table.get? key ≠ some value := by
  simp [contains, Option.eq_none_iff_forall_ne_some]

/-- A key that is given the same value again is as it was. -/
theorem insert_insert_self (key : Key) (value : Value) (table : Table Key Value) :
    (table.insert key value).insert key value = table.insert key value := by
  apply Table.ext
  simp [insert, erase, filter, List.filter_filter]

/-- A table lists every key once, so the keys are those of any list that names the same ones. -/
theorem keys_perm_dedup
    {listed : List Key}
    (named : ∀ key, (∃ value, table.get? key = some value) ↔ key ∈ listed) :
    table.keys.Perm listed.dedup := by
  refine (List.perm_ext_iff_of_nodup table.nodup (List.nodup_dedup _)).mpr fun key => ?_
  rw [← keys, mem_keys_iff, List.mem_dedup, named]

/-! ## Sizes -/

theorem erase_eq_of_get?_eq_none (absent : table.get? key = none) : table.erase key = table := by
  apply Table.ext
  apply List.filter_eq_self.mpr
  rintro ⟨other, found⟩ member
  have stored : table.get? other = some found := get?_eq_some_iff.mpr member
  have differs : other ≠ key := by
    rintro rfl
    rw [absent] at stored
    cases stored
  simpa using differs

/-- A new key adds one entry. -/
theorem size_insert_of_get?_eq_none (absent : table.get? key = none) :
    (table.insert key value).size = table.size + 1 := by
  simp only [size, insert, erase_eq_of_get?_eq_none absent, List.length_cons]

/-- A key that is found is found once, so erasing it removes one entry. -/
theorem size_erase_of_get?_eq_some (stored : table.get? key = some value) :
    (table.erase key).size + 1 = table.size := by
  have listed : key ∈ table.entries.map Prod.fst :=
    List.mem_map.mpr ⟨(key, value), get?_eq_some_iff.mp stored, rfl⟩
  have once : table.entries.countP (fun entry => entry.1 = key) = 1 := by
    have counted : (table.entries.map Prod.fst).count key = 1 :=
      List.count_eq_one_of_mem table.nodup listed
    rw [List.count, List.countP_map] at counted
    exact counted
  have others :
      (table.erase key).size = table.entries.countP fun entry => ¬ entry.1 = key := by
    rw [List.countP_eq_length_filter]
    simp [size, erase, filter]
  rw [others, size, List.length_eq_countP_add_countP fun entry => entry.1 = key, once]
  simp [Nat.add_comm]

/-- A table whose keys all stand in a list is no larger than the list. -/
theorem size_le_length_of_listed
    {listed : List Key}
    (covered : ∀ key value, table.get? key = some value → key ∈ listed) :
    table.size ≤ listed.length := by
  have included : table.keys ⊆ listed := by
    intro key member
    obtain ⟨value, found⟩ := mem_keys_iff.mp member
    exact covered key value found
  calc
    table.size = table.keys.length := (List.length_map _).symm
    _ ≤ listed.length := (List.Nodup.subperm table.nodup included).length_le

omit [DecidableEq Key] in
theorem size_filter_le (keep : Key → Value → Bool) : (table.filter keep).size ≤ table.size :=
  List.length_filter_le _ _

end WorkGate.Table
