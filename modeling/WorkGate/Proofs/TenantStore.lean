import Mathlib.Data.List.Dedup
import Mathlib.Data.List.Induction
import WorkGate.Proofs.Table
import WorkGate.Proofs.Table.Alike
import WorkGate.TenantStore

/-!
# What the store remembers of its writes

A write names a tenant and supplies the hash, the time, both or neither.  After any sequence of
writes the store holds one record for each tenant that was named, and each field of it is what the
last write for this tenant that supplied the field gave it.  So the fields do not depend on each
other, a write that is repeated changes nothing, and writes for different tenants may change places.

The sequence of writes alone tells what each field is; an induction from its end shows that the
store agrees.
-/

namespace WorkGate

/-- Fields that are supplied again stay as they are. -/
theorem TenantRecord.update_update_self
    (termsHash : Option String)
    (provedAt : Option Int)
    (record : TenantRecord) :
    (record.update termsHash provedAt).update termsHash provedAt =
      record.update termsHash provedAt := by
  cases termsHash <;> cases provedAt <;> rfl

namespace TenantTable

variable {left right : TenantTable} {did other : String}

/-- Writing to tables with the same entries leaves tables with the same entries. -/
theorem alike_upsert
    (alike : left.Alike right)
    (did : String)
    (termsHash : Option String)
    (provedAt : Option Int) :
    (left.upsert did termsHash provedAt).Alike (right.upsert did termsHash provedAt) := by
  simp only [upsert, alike.get?_eq]
  exact alike.insert _ _

/-- The order in which different tenants are written to does not matter. -/
theorem alike_upsert_comm
    (tenants : TenantTable)
    (differ : did ≠ other)
    (termsHash otherHash : Option String)
    (provedAt otherProvedAt : Option Int) :
    ((tenants.upsert did termsHash provedAt).upsert other otherHash otherProvedAt).Alike
      ((tenants.upsert other otherHash otherProvedAt).upsert did termsHash provedAt) := by
  simp only [upsert, Table.get?_insert_of_ne differ, Table.get?_insert_of_ne differ.symm]
  exact Table.alike_insert_comm tenants differ _ _

end TenantTable

namespace TenantStore

/-- A store that works writes the tenant and is otherwise as before. -/
theorem upsert_of_writeFault_eq_none
    {store : TenantStore}
    (works : store.writeFault = none)
    {did : String}
    {termsHash : Option String}
    {provedAt : Option Int} :
    store.upsert did termsHash provedAt =
      .ok { store with tenants := TenantTable.upsert did termsHash provedAt store.tenants } := by
  simp only [upsert]
  split
  · next failing =>
      rw [works] at failing
      cases failing
  · rfl

/-! ## Sequences of writes -/

/-- A call that writes to the store: the tenant and the fields that are supplied. -/
structure Write where
  did : String
  termsHash : Option String := none
  provedAt : Option Int := none
deriving DecidableEq

/-- The tenants after a write. -/
def Write.apply (tenants : TenantTable) (write : Write) : TenantTable :=
  tenants.upsert write.did write.termsHash write.provedAt

/-- The store after some writes, unless one of them fails. -/
def writeAll (store : TenantStore) : List Write → Except RegistrationError TenantStore
  | [] => .ok store
  | write :: rest =>
      match store.upsert write.did write.termsHash write.provedAt with
      | .error fault => .error fault
      | .ok after => after.writeAll rest

theorem writeAll_of_writeFault_eq_none
    {store : TenantStore}
    (works : store.writeFault = none)
    (writes : List Write) :
    store.writeAll writes =
      .ok { store with tenants := writes.foldl Write.apply store.tenants } := by
  induction writes generalizing store with
  | nil => rfl
  | cons write rest induction =>
      simp only [writeAll, upsert_of_writeFault_eq_none works]
      exact induction works

/-! ## What the last writes supplied -/

section LastSupplied

variable {Value : Type} {field : Write → Option Value} {did : String} {writes : List Write}
  {write : Write}

/-- What the last write for a tenant that supplied a field gave it. -/
def lastSupplied (field : Write → Option Value) (did : String) (writes : List Write) :
    Option Value :=
  ((writes.filter (·.did = did)).filterMap field).getLast?

theorem lastSupplied_concat_self :
    lastSupplied field write.did (writes ++ [write]) =
      (field write).or (lastSupplied field write.did writes) := by
  cases supplied : field write <;> simp [lastSupplied, supplied]

theorem lastSupplied_concat_of_ne (differs : write.did ≠ did) :
    lastSupplied field did (writes ++ [write]) = lastSupplied field did writes := by
  simp [lastSupplied, differs]

/-- Of a tenant that no write named, nothing was supplied. -/
theorem lastSupplied_of_unnamed (unnamed : ∀ write ∈ writes, write.did ≠ did) :
    lastSupplied field did writes = none := by
  have nothing : writes.filter (·.did = did) = [] := by
    simpa [List.filter_eq_nil_iff] using unnamed
  rw [lastSupplied, nothing, List.filterMap_nil, List.getLast?_nil]

end LastSupplied

/-- The record that some writes make of a tenant. -/
def recordOf (did : String) (writes : List Write) : TenantRecord where
  did := did
  termsHash := lastSupplied Write.termsHash did writes
  provedAt := lastSupplied Write.provedAt did writes

theorem recordOf_concat_self (writes : List Write) (write : Write) :
    recordOf write.did (writes ++ [write]) =
      (recordOf write.did writes).update write.termsHash write.provedAt := by
  simp only [recordOf, TenantRecord.update, lastSupplied_concat_self, Option.or_eq_orElse]

theorem recordOf_concat_of_ne
    {did : String}
    {write : Write}
    (differs : write.did ≠ did)
    (writes : List Write) :
    recordOf did (writes ++ [write]) = recordOf did writes := by
  simp only [recordOf, lastSupplied_concat_of_ne differs]

theorem recordOf_of_unnamed
    {did : String}
    {writes : List Write}
    (unnamed : did ∉ writes.map Write.did) :
    recordOf did writes = { did } := by
  have others : ∀ write ∈ writes, write.did ≠ did := fun write member same =>
    unnamed (List.mem_map.mpr ⟨write, member, same⟩)
  simp only [recordOf, lastSupplied_of_unnamed others]

/-- The table holds of each tenant what the last writes supplied, if any write named it. -/
theorem get?_foldl_apply (did : String) (writes : List Write) :
    (writes.foldl Write.apply ∅).get? did =
      if did ∈ writes.map Write.did then some (recordOf did writes) else none := by
  induction writes using List.reverseRecOn with
  | nil => rfl
  | append_singleton writes write induction =>
      rw [List.foldl_concat, Write.apply, TenantTable.upsert]
      by_cases mine : did = write.did
      · subst mine
        have known :
            ((writes.foldl Write.apply ∅).get? write.did).getD { did := write.did } =
              recordOf write.did writes := by
          rw [induction]
          split
          · rfl
          · next unnamed => exact (recordOf_of_unnamed unnamed).symm
        rw [Table.get?_insert_self, known, recordOf_concat_self, if_pos (by simp)]
      · rw [Table.get?_insert_of_ne mine, induction, recordOf_concat_of_ne (Ne.symm mine)]
        simp [mine]

/-- Writing the same again changes nothing. -/
theorem Write.apply_apply_self (tenants : TenantTable) (write : Write) :
    write.apply (write.apply tenants) = write.apply tenants := by
  simp only [apply, TenantTable.upsert, Table.get?_insert_self, Option.getD_some,
    TenantRecord.update_update_self, Table.insert_insert_self]

theorem alike_foldl_apply
    {left right : TenantTable}
    (alike : left.Alike right)
    (writes : List Write) :
    (writes.foldl Write.apply left).Alike (writes.foldl Write.apply right) := by
  induction writes generalizing left right with
  | nil => exact alike
  | cons write rest induction => exact induction (TenantTable.alike_upsert alike _ _ _)

/-- Writes for different tenants may change places. -/
theorem alike_foldl_apply_swap
    {first second : Write}
    (differ : first.did ≠ second.did)
    (earlier later : List Write) :
    ((earlier ++ second :: first :: later).foldl Write.apply ∅).Alike
      ((earlier ++ first :: second :: later).foldl Write.apply ∅) := by
  simp only [List.foldl_append, List.foldl_cons]
  exact alike_foldl_apply (TenantTable.alike_upsert_comm _ differ.symm _ _ _ _) later

/-! ## The store and its writes -/

/-- What the store tells is what the writes say. -/
structure Remembers (store : TenantStore) (writes : List Write) : Prop where
  get?_eq_none_iff (did : String) :
    store.get? did = .ok none ↔ ∀ write ∈ writes, write.did ≠ did
  get?_eq_some_iff (did : String) (record : TenantRecord) :
    store.get? did = .ok (some record) ↔
      (∃ write ∈ writes, write.did = did) ∧
        record.did = did ∧
          record.termsHash = lastSupplied Write.termsHash did writes ∧
            record.provedAt = lastSupplied Write.provedAt did writes
  size_eq : store.tenants.size = (writes.map Write.did).dedup.length

theorem remembers_foldl_apply (writes : List Write) :
    Remembers { tenants := writes.foldl Write.apply ∅ } writes where
  get?_eq_none_iff did := by
    simp [get?, get?_foldl_apply]
  get?_eq_some_iff did record := by
    have same :
        recordOf did writes = record ↔
          record.did = did ∧
            record.termsHash = lastSupplied Write.termsHash did writes ∧
              record.provedAt = lastSupplied Write.provedAt did writes := by
      cases record
      simp only [recordOf, TenantRecord.mk.injEq, eq_comm]
    rw [← same]
    simp [get?, get?_foldl_apply]
  size_eq := by
    have keys : (writes.foldl Write.apply ∅).keys.Perm (writes.map Write.did).dedup := by
      apply Table.keys_perm_dedup
      intro did
      rw [get?_foldl_apply]
      split <;> simp_all
    rw [← keys.length_eq, Table.keys, List.length_map]
    rfl

/--
Any sequence of writes to a new store succeeds, and then each field of a record is what the last
write for its tenant that supplied the field gave it.  Repeating the last write changes nothing, and
writes for different tenants that follow each other may change places.
-/
theorem last_write_of_each_field_wins (writes : List Write) :
    ∃ store,
      ({} : TenantStore).writeAll writes = .ok store ∧
        store.Remembers writes ∧
        (∀ earlier last,
          writes = earlier ++ [last] →
            ({} : TenantStore).writeAll (writes ++ [last]) = .ok store) ∧
        ∀ earlier first second later,
          writes = earlier ++ first :: second :: later → first.did ≠ second.did →
            ∃ other,
              ({} : TenantStore).writeAll (earlier ++ second :: first :: later) = .ok other ∧
                (∀ did, other.get? did = store.get? did) ∧
                  other.tenants.size = store.tenants.size := by
  have written (made : List Write) :
      ({} : TenantStore).writeAll made = .ok { tenants := made.foldl Write.apply ∅ } :=
    writeAll_of_writeFault_eq_none rfl made
  refine ⟨_, written writes, remembers_foldl_apply writes, ?_, ?_⟩
  · rintro earlier last rfl
    rw [written, List.foldl_concat, List.foldl_concat, Write.apply_apply_self]
  · rintro earlier first second later rfl differ
    have alike := alike_foldl_apply_swap differ earlier later
    refine ⟨_, written _, fun did => ?_, alike.size_eq⟩
    simp only [get?, alike.get?_eq]

/-- Two tenants; the hash and the time of the first are supplied by different writes. -/
def sampleWrites : List Write :=
  [{ did := "did:example:alice", termsHash := some "H1", provedAt := some 1 },
    { did := "did:example:alice", termsHash := some "H2" },
    { did := "did:example:bob", provedAt := some 5 },
    { did := "did:example:alice", provedAt := some 2 }]

/--
The second hash and the second time are kept, also if the last write is repeated and if it changes
places with the one before.
-/
theorem sampleWrites_are_remembered :
    ∃ store,
      ({} : TenantStore).writeAll sampleWrites = .ok store ∧
        store.get? "did:example:alice" =
          .ok (some
            { did := "did:example:alice", termsHash := some "H2", provedAt := some 2 }) ∧
        store.tenants.size = 2 ∧
        ({} : TenantStore).writeAll
            (sampleWrites ++ [{ did := "did:example:alice", provedAt := some 2 }]) =
          .ok store ∧
        ∃ other,
          ({} : TenantStore).writeAll
              [{ did := "did:example:alice", termsHash := some "H1", provedAt := some 1 },
                { did := "did:example:alice", termsHash := some "H2" },
                { did := "did:example:alice", provedAt := some 2 },
                { did := "did:example:bob", provedAt := some 5 }] =
            .ok other ∧
          other.get? "did:example:alice" = store.get? "did:example:alice" := by
  obtain ⟨store, written, remembers, repeats, swaps⟩ := last_write_of_each_field_wins sampleWrites
  obtain ⟨other, rewritten, same, -⟩ :=
    swaps [{ did := "did:example:alice", termsHash := some "H1", provedAt := some 1 },
        { did := "did:example:alice", termsHash := some "H2" }]
      { did := "did:example:bob", provedAt := some 5 }
      { did := "did:example:alice", provedAt := some 2 } [] rfl (by decide)
  refine ⟨store, written, ?_, ?_, repeats (sampleWrites.take 3) _ rfl, other, rewritten, same _⟩
  · apply (remembers.get?_eq_some_iff _ _).mpr
    decide +kernel
  · rw [remembers.size_eq]
    decide +kernel

end TenantStore

end WorkGate
