import WorkGate.RegistrationError
import WorkGate.Table

/-!
# Tenants and their store

For each registered tenant the store holds the hash of the terms agreed to and the time of the last
accepted proof of work.  Both are optional and independent: writing supplies either, both or none,
and what is not supplied keeps its value.  Nothing is ever deleted.

`TenantTable` is the store in memory.  `TenantStore` adds that reads or writes may fail, each with a
fault of its own.
-/

namespace WorkGate

/-- What is known of one tenant. -/
structure TenantRecord where
  did : String
  termsHash : Option String := none
  provedAt : Option Int := none
deriving DecidableEq

/-- Overwrites the fields that are supplied. -/
def TenantRecord.update
    (termsHash : Option String)
    (provedAt : Option Int)
    (record : TenantRecord) :
    TenantRecord :=
  { record with
    termsHash := termsHash.orElse fun _ => record.termsHash
    provedAt := provedAt.orElse fun _ => record.provedAt }

/-- The standing of a tenant. -/
inductive TenantStatus where
  | active
  | notRegistered
  | outdatedTerms
deriving DecidableEq

namespace TenantStatus

def isActive : TenantStatus → Bool
  | active => true
  | notRegistered => false
  | outdatedTerms => false

/-- The sentence that states the standing. -/
def detail : TenantStatus → String
  | active => "Active tenant."
  | notRegistered => "Not a registered tenant."
  | outdatedTerms => "Agreed terms-of-service is outdated."

end TenantStatus

/-- The gate of a deployment without registration: every tenant may act. -/
def openGate (_did : String) : Bool :=
  true

/-- Tenants by their identifier. -/
abbrev TenantTable := Table String TenantRecord

namespace TenantTable

/-- Adds the tenant if it is unknown, then overwrites the supplied fields. -/
def upsert
    (did : String)
    (termsHash : Option String)
    (provedAt : Option Int)
    (tenants : TenantTable) :
    TenantTable :=
  tenants.insert did (((tenants.get? did).getD { did }).update termsHash provedAt)

end TenantTable

/-- A store of tenants that may fail to answer. -/
structure TenantStore where
  tenants : TenantTable := ∅
  readFault : Option StoreFault := none
  writeFault : Option StoreFault := none
deriving DecidableEq

namespace TenantStore

/-- Sets with which fault reads and writes fail, if they fail at all. -/
def withOutage (reads writes : Option StoreFault) (store : TenantStore) : TenantStore :=
  { store with readFault := reads, writeFault := writes }

/-- Adds or updates a tenant. -/
def upsert
    (did : String)
    (termsHash : Option String)
    (provedAt : Option Int)
    (store : TenantStore) :
    Except RegistrationError TenantStore :=
  match store.writeFault with
  | some fault => .error (.store fault)
  | none => .ok { store with tenants := TenantTable.upsert did termsHash provedAt store.tenants }

def get? (did : String) (store : TenantStore) : Except RegistrationError (Option TenantRecord) :=
  match store.readFault with
  | some fault => .error (.store fault)
  | none => .ok (store.tenants.get? did)

end TenantStore

end WorkGate
