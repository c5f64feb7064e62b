import Mathlib.Data.List.Dedup
import WorkGate.Proofs.Registrar.Session
import WorkGate.Proofs.Since
import WorkGate.Proofs.Table

/-!
# The gate as a function of the history

The tenants in the store are those that a registration named, each with the hash and the time of
its last registration.  The terms in force are the last that were put in force.  So the standing of
a tenant can be read off the history of a session: which registration of that tenant came last, and
to which terms it agreed.
-/

namespace WorkGate.Registrar

namespace Entry

variable {entry : Entry} {before : TenantTable} {did : String} {record : TenantRecord}

/-- The entry is a successful registration of the tenant, whatever hash it carried. -/
def RegistersTenant (did : String) (entry : Entry) : Prop :=
  ∃ hash, entry.Registers { did, termsHash := hash }

/-- The tenant that was registered. -/
def tenant? (entry : Entry) : Option String :=
  match entry.admission? with
  | some (data, true) => some data.did
  | _ => none

theorem tenant?_eq_some_iff : entry.tenant? = some did ↔ entry.RegistersTenant did := by
  simp only [tenant?, RegistersTenant, Registers]
  split
  · next data told =>
      constructor
      · intro named
        obtain rfl := Option.some.inj named
        exact ⟨data.termsHash, told⟩
      · rintro ⟨hash, registered⟩
        rw [told] at registered
        cases registered
        rfl
  · next other =>
      constructor
      · intro named
        cases named
      · rintro ⟨hash, registered⟩
        exact absurd registered (other _)

/-- A registration replaces the record of its own tenant and keeps all others. -/
theorem get?_tenants_eq_some_iff (keyed : before.Keyed) :
    (entry.tenants before).get? did = some record ↔
      (∃ hash,
        entry.Registers { did, termsHash := hash } ∧
          { did, termsHash := some hash, provedAt := some entry.now } = record) ∨
        (¬ entry.RegistersTenant did ∧ before.get? did = some record) := by
  simp only [tenants, RegistersTenant, Registers]
  split
  · next data told =>
      rw [keyed.get?_enroll_eq_some_iff, told]
      constructor
      · rintro (⟨rfl, written⟩ | ⟨other, kept⟩)
        · exact Or.inl ⟨data.termsHash, rfl, written⟩
        · refine Or.inr ⟨?_, kept⟩
          rintro ⟨hash, same⟩
          cases same
          exact other rfl
      · rintro (⟨hash, same, written⟩ | ⟨other, kept⟩)
        · cases same
          exact Or.inl ⟨rfl, written⟩
        · refine Or.inr ⟨?_, kept⟩
          rintro rfl
          exact other ⟨data.termsHash, rfl⟩
  · next other =>
      have unregistered : ∀ hash, entry.admission? ≠ some ({ did, termsHash := hash }, true) :=
        fun hash told => other _ told
      simp [unregistered]

end Entry

/-! ## The last registration of a tenant -/

variable {history : List Entry} {entry : Entry} {did hash : String} {time : Int}

/-- The last registration of the tenant was under this hash and at this time. -/
def LastRegistered (did hash : String) (time : Int) : List Entry → Prop :=
  Since (fun entry => ¬ entry.RegistersTenant did) fun entry =>
    entry.Registers { did, termsHash := hash } ∧ entry.now = time

/-- The terms in force after a history. -/
def termsAfter (terms : Option Terms) (history : List Entry) : Option Terms :=
  history.foldl Entry.terms terms

/-- The tenants that were registered, one for each success. -/
def tenantsIn (history : List Entry) : List String :=
  history.filterMap Entry.tenant?

theorem lastRegistered_concat_iff :
    LastRegistered did hash time (history ++ [entry]) ↔
      (entry.Registers { did, termsHash := hash } ∧ entry.now = time) ∨
        (LastRegistered did hash time history ∧ ¬ entry.RegistersTenant did) :=
  since_concat_iff

theorem mem_tenantsIn_iff :
    did ∈ tenantsIn history ↔ ∃ entry ∈ history, entry.RegistersTenant did := by
  simp only [tenantsIn, List.mem_filterMap, Entry.tenant?_eq_some_iff]

/-- A tenant that was ever registered was registered a last time. -/
theorem exists_lastRegistered_iff :
    (∃ hash time, LastRegistered did hash time history) ↔ did ∈ tenantsIn history := by
  rw [mem_tenantsIn_iff]
  constructor
  · rintro ⟨hash, time, earlier, entry, later, rfl, ⟨registers, -⟩, -⟩
    exact ⟨entry, by simp, hash, registers⟩
  · induction history using List.reverseRecOn with
    | nil => simp
    | append_singleton history last induction =>
        rintro ⟨entry, member, registers⟩
        -- The last entry decides: it is the last registration itself, or it is not one.
        by_cases again : last.RegistersTenant did
        · obtain ⟨hash, registersLast⟩ := again
          exact ⟨hash, last.now, lastRegistered_concat_iff.mpr (Or.inl ⟨registersLast, rfl⟩)⟩
        · have earlier : entry ∈ history := by
            rcases List.mem_append.mp member with earlier | latest
            · exact earlier
            · rw [List.mem_singleton.mp latest] at registers
              exact absurd registers again
          obtain ⟨hash, time, lastRegistered⟩ := induction ⟨entry, earlier, registers⟩
          exact ⟨hash, time, lastRegistered_concat_iff.mpr (Or.inr ⟨lastRegistered, again⟩)⟩

/-- The store holds what the last registration of each tenant wrote. -/
theorem get?_foldl_tenants_eq_some_iff {record : TenantRecord} :
    (history.foldl Entry.tenants ∅).get? did = some record ↔
      ∃ hash time,
        LastRegistered did hash time history ∧
          { did, termsHash := some hash, provedAt := some time } = record := by
  induction history using List.reverseRecOn with
  | nil => simp [LastRegistered, not_since_nil]
  | append_singleton history entry induction =>
      have keyed : (history.foldl Entry.tenants ∅).Keyed :=
        Entry.keyed_foldl TenantTable.keyed_empty history
      rw [List.foldl_concat, Entry.get?_tenants_eq_some_iff keyed, induction]
      simp only [lastRegistered_concat_iff]
      constructor
      · rintro (⟨hash, registers, written⟩ | ⟨other, hash, time, lastRegistered, written⟩)
        · exact ⟨hash, entry.now, Or.inl ⟨registers, rfl⟩, written⟩
        · exact ⟨hash, time, Or.inr ⟨lastRegistered, other⟩, written⟩
      · rintro ⟨hash, time, ⟨registers, rfl⟩ | ⟨lastRegistered, other⟩, written⟩
        · exact Or.inl ⟨hash, registers, written⟩
        · exact Or.inr ⟨other, hash, time, lastRegistered, written⟩

/-- There is one record for each tenant that was registered, however often it was. -/
theorem keys_foldl_tenants_perm :
    (history.foldl Entry.tenants ∅).keys.Perm (tenantsIn history).dedup := by
  apply Table.keys_perm_dedup
  intro did
  rw [← exists_lastRegistered_iff]
  simp only [get?_foldl_tenants_eq_some_iff]
  constructor
  · rintro ⟨record, hash, time, lastRegistered, -⟩
    exact ⟨hash, time, lastRegistered⟩
  · rintro ⟨hash, time, lastRegistered⟩
    exact ⟨_, hash, time, lastRegistered, rfl⟩

/-! ## The standing of a tenant -/

section Standing

variable {registrar : Registrar} {found : Option TenantRecord}

theorem standing_eq_notRegistered_iff :
    registrar.standing found = .notRegistered ↔ found = none := by
  cases found with
  | none => simp [standing]
  | some record =>
      simp only [standing, reduceCtorEq, iff_false]
      split
      · simp
      · split <;> simp

theorem standing_eq_active_iff :
    registrar.standing found = .active ↔
      ∃ record,
        found = some record ∧
          ∀ terms, registrar.terms = some terms → record.termsHash = some terms.hash := by
  cases found with
  | none => simp [standing]
  | some record => cases inForce : registrar.terms <;> simp [standing, termsHash?, inForce]

theorem standing_eq_outdatedTerms_iff :
    registrar.standing found = .outdatedTerms ↔
      ∃ record terms,
        found = some record ∧ registrar.terms = some terms ∧
          record.termsHash ≠ some terms.hash := by
  cases found with
  | none => simp [standing]
  | some record => cases inForce : registrar.terms <;> simp [standing, termsHash?, inForce]

end Standing

/-- The store can be read, and the terms and the tenants are those that the history tells. -/
structure Recalls (terms : Option Terms) (history : List Entry) (registrar : Registrar) :
    Prop where
  readable : registrar.store.readFault = none
  terms_eq : registrar.terms = termsAfter terms history
  tenants_eq : registrar.store.tenants = history.foldl Entry.tenants ∅

namespace Recalls

variable {terms : Option Terms} {registrar : Registrar}

theorem status_eq (recalls : Recalls terms history registrar) :
    registrar.status did =
      registrar.standing ((history.foldl Entry.tenants ∅).get? did) := by
  simp [status, TenantStore.get?, recalls.readable, recalls.tenants_eq]

theorem status_eq_notRegistered_iff (recalls : Recalls terms history registrar) :
    registrar.status did = .notRegistered ↔
      ∀ entry ∈ history, ¬ entry.RegistersTenant did := by
  have registered_iff :
      (∃ record, (history.foldl Entry.tenants ∅).get? did = some record) ↔
        ∃ entry ∈ history, entry.RegistersTenant did := by
    rw [← Table.mem_keys_iff, keys_foldl_tenants_perm.mem_iff, List.mem_dedup, mem_tenantsIn_iff]
  rw [recalls.status_eq, standing_eq_notRegistered_iff, Option.eq_none_iff_forall_ne_some,
    ← not_exists, registered_iff]
  push Not
  rfl

theorem status_eq_active_iff (recalls : Recalls terms history registrar) :
    registrar.status did = .active ↔
      ∃ hash time,
        LastRegistered did hash time history ∧
          ∀ current, termsAfter terms history = some current → hash = current.hash := by
  rw [recalls.status_eq, standing_eq_active_iff, recalls.terms_eq]
  constructor
  · rintro ⟨record, found, agrees⟩
    obtain ⟨hash, time, lastRegistered, rfl⟩ := get?_foldl_tenants_eq_some_iff.mp found
    refine ⟨hash, time, lastRegistered, ?_⟩
    intro current inForce
    exact Option.some.inj (agrees current inForce)
  · rintro ⟨hash, time, lastRegistered, agrees⟩
    refine ⟨_, get?_foldl_tenants_eq_some_iff.mpr ⟨hash, time, lastRegistered, rfl⟩, ?_⟩
    intro current inForce
    exact congrArg some (agrees current inForce)

theorem status_eq_outdatedTerms_iff (recalls : Recalls terms history registrar) :
    registrar.status did = .outdatedTerms ↔
      ∃ hash time current,
        LastRegistered did hash time history ∧ termsAfter terms history = some current ∧
          hash ≠ current.hash := by
  rw [recalls.status_eq, standing_eq_outdatedTerms_iff, recalls.terms_eq]
  constructor
  · rintro ⟨record, current, found, inForce, differs⟩
    obtain ⟨hash, time, lastRegistered, rfl⟩ := get?_foldl_tenants_eq_some_iff.mp found
    exact ⟨hash, time, current, lastRegistered, inForce, fun same => differs (congrArg some same)⟩
  · rintro ⟨hash, time, current, lastRegistered, inForce, differs⟩
    have found := get?_foldl_tenants_eq_some_iff.mpr ⟨hash, time, lastRegistered, rfl⟩
    exact ⟨_, current, found, inForce, fun same => differs (Option.some.inj same)⟩

end Recalls

namespace Session

variable {Source : Type} [RandomSource Source]

theorem recalls_run
    {policy : Policy}
    {terms : Option Terms}
    {registrar : Registrar}
    (created : create policy terms {} = .ok registrar)
    (reading : Int)
    (source : Source)
    {actions : List Action}
    (readable : ∀ fault writes, Action.outage (some fault) writes ∉ actions) :
    let start : Session Source := { registrar, reading, source }
    Recalls terms (start.history actions) (start.run actions).registrar := by
  obtain ⟨gatekeeper, -, rfl⟩ := exists_gatekeeper_of_create created
  exact
    { readable := readFault_run rfl readable
      terms_eq := terms_run actions
      tenants_eq := tenants_run actions }

/-- The standing of every tenant, and every record of the store, follow from the history. -/
theorem gate_of_history
    {policy : Policy}
    {terms : Option Terms}
    {registrar : Registrar}
    (created : create policy terms {} = .ok registrar)
    (reading : Int)
    (source : Source)
    {actions : List Action}
    (readable : ∀ fault writes, Action.outage (some fault) writes ∉ actions) :
    let start : Session Source := { registrar, reading, source }
    let history := start.history actions
    let after := (start.run actions).registrar
    let inForce := termsAfter terms history
    (∀ did,
      (after.status did = .notRegistered ↔ ∀ entry ∈ history, ¬ entry.RegistersTenant did) ∧
      (after.status did = .active ↔
        ∃ hash time,
          LastRegistered did hash time history ∧
            ∀ current, inForce = some current →
              hash = (Sha256.hash (utf8 current.text)).toHex) ∧
      (after.status did = .outdatedTerms ↔
        ∃ hash time current,
          LastRegistered did hash time history ∧ inForce = some current ∧
            hash ≠ (Sha256.hash (utf8 current.text)).toHex) ∧
      ∀ record,
        after.store.tenants.get? did = some record ↔
          ∃ hash time,
            LastRegistered did hash time history ∧
              { did, termsHash := some hash, provedAt := some time } = record) ∧
    after.store.tenants.keys.Perm (tenantsIn history).dedup ∧
    ∀ new, (after.updateTerms new).2.store = after.store := by
  intro start history after inForce
  have recalls : Recalls terms history after := recalls_run created reading source readable
  refine ⟨?_, ?_, fun new => rfl⟩
  · intro did
    refine ⟨recalls.status_eq_notRegistered_iff, recalls.status_eq_active_iff,
      recalls.status_eq_outdatedTerms_iff, ?_⟩
    intro record
    rw [recalls.tenants_eq]
    exact get?_foldl_tenants_eq_some_iff
  · rw [recalls.tenants_eq]
    exact keys_foldl_tenants_perm

/-- Terms that no one has agreed to yet. -/
def revisedTerms : Terms where
  text := "Revised."

/-- A tenant that was registered without terms is outdated once there are some. -/
theorem status_zeroRequest_of_revisedTerms :
    (openSession.run
        [.issue, .register zeroRequest, .updateTerms revisedTerms]).registrar.status
          zeroRequest.data.did = .outdatedTerms := by
  have readable :
      ∀ fault writes,
        Action.outage (some fault) writes ∉
          [.issue, .register zeroRequest, .updateTerms revisedTerms] := by
    simp
  have gate :=
    gate_of_history create_openPolicy openSession.reading openSession.source readable
  obtain ⟨-, -, outdated, -⟩ := gate.1 zeroRequest.data.did
  refine outdated.mpr ⟨zeroRequest.data.termsHash, openSession.reading, revisedTerms, ?_, rfl, ?_⟩
  · refine ⟨[_], _, [_], rfl, ⟨registers_of_admissible admissible_zeroRequest rfl, rfl⟩, ?_⟩
    intro last member
    rintro ⟨hash, registers⟩
    rw [List.mem_singleton.mp member] at registers
    cases registers
  · intro same
    have sameLength := congrArg (fun text => text.toList.length) same
    simp [Sha256.Digest.toHex, Hex.length_encode, zeroRequest] at sameLength

end Session

end WorkGate.Registrar
