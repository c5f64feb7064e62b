import WorkGate.Table

/-!
# Tables with the same entries

Tables are alike if they hold the same entries, in whatever order these were inserted.  Alike tables
agree in all that can be asked of them, and stay alike under every operation.  Insertions of
different keys commute up to this.
-/

namespace WorkGate.Table

variable {Key Value : Type}

/-- The tables hold the same entries, in whatever order. -/
def Alike (left right : Table Key Value) : Prop :=
  left.entries.Perm right.entries

namespace Alike

variable {left middle right : Table Key Value}

theorem refl (table : Table Key Value) : table.Alike table :=
  List.Perm.refl _

theorem trans (first : left.Alike middle) (second : middle.Alike right) : left.Alike right :=
  List.Perm.trans first second

theorem size_eq (alike : left.Alike right) : left.size = right.size :=
  List.Perm.length_eq alike

theorem filter (alike : left.Alike right) (keep : Key → Value → Bool) :
    (left.filter keep).Alike (right.filter keep) :=
  List.Perm.filter _ alike

variable [DecidableEq Key]

theorem get?_eq (alike : left.Alike right) (key : Key) : left.get? key = right.get? key := by
  apply Option.ext
  intro value
  rw [get?_eq_some_iff, get?_eq_some_iff]
  exact List.Perm.mem_iff alike

theorem erase (alike : left.Alike right) (key : Key) : (left.erase key).Alike (right.erase key) :=
  alike.filter _

theorem insert (alike : left.Alike right) (key : Key) (value : Value) :
    (left.insert key value).Alike (right.insert key value) :=
  List.Perm.cons (key, value) (alike.erase key)

end Alike

variable [DecidableEq Key]

theorem erase_comm (table : Table Key Value) (key other : Key) :
    (table.erase key).erase other = (table.erase other).erase key := by
  apply Table.ext
  simp only [Table.erase, Table.filter, List.filter_filter, Bool.and_comm]

/-- The order in which different keys get their values does not matter. -/
theorem alike_insert_comm
    (table : Table Key Value)
    {key other : Key}
    (differ : key ≠ other)
    (value found : Value) :
    ((table.insert key value).insert other found).Alike
      ((table.insert other found).insert key value) := by
  have keyFirst :
      ((table.insert key value).insert other found).entries =
        (other, found) :: (key, value) :: ((table.erase key).erase other).entries := by
    simp [Table.insert, Table.erase, Table.filter, differ]
  have otherFirst :
      ((table.insert other found).insert key value).entries =
        (key, value) :: (other, found) :: ((table.erase other).erase key).entries := by
    simp [Table.insert, Table.erase, Table.filter, differ.symm]
  rw [Alike, keyFirst, otherFirst, erase_comm]
  exact List.Perm.swap _ _ _

end WorkGate.Table
