import Mathlib.Data.List.Induction
import WorkGate.Proofs.Difficulty.Range
import WorkGate.Proofs.Gatekeeper.Verdict
import WorkGate.Proofs.Registrar.Operations

/-!
# Sessions with a registrar

A session is a registrar with a clock and a random source.  Requests may arrive over HTTP or
directly, and between any two of them challenges may be issued, the terms replaced, the expired
swept, the difficulty evaluated, the clock set to any reading, and the store may fail or recover.

Each action leaves one entry in the history of the session: the clock reading it was performed at
and what it was answered.  What the registrar remembers afterwards can be read off that entry and
what it remembered before.  This is `Explains`, proved once for every action, and an induction over
runs carries it to everything that is stated of histories.
-/

namespace WorkGate.Registrar

/-- What can be done to a registrar, to its clock and to its store. -/
inductive Action where
  | exchange (request : Http.Request)
  | issue
  | register (request : RegistrationRequest)
  | updateTerms (terms : Terms)
  | sweep
  | evaluate
  | setClock (reading : Int)
  /-- From now on the reads and the writes of the store fail with these faults, or not at all. -/
  | outage (reads writes : Option StoreFault)
deriving DecidableEq

/-- What was done, with the answer it got. -/
inductive Deed where
  | answered (request : Http.Request) (response : Http.Response)
  | issued (ticket : Ticket)
  | registered (request : RegistrationRequest) (outcome : Except RegistrationError Unit)
  | termsUpdated (terms : Terms)
  | swept (swept : Gatekeeper.Swept)
  | evaluated (adjustment : Difficulty.Adjustment)
  | clockSet (reading : Int)
  | outage (reads writes : Option StoreFault)

/-- One line of a history: a deed and the clock reading at which it was done. -/
structure Entry where
  now : Int
  deed : Deed

/-- A registrar with its clock and its random source. -/
structure Session (Source : Type) where
  registrar : Registrar
  reading : Int
  source : Source

namespace Session

variable {Source : Type} [RandomSource Source]

/-- Performs an action: what it was answered, and the session after it. -/
def perform (session : Session Source) : Action → Deed × Session Source
  | .exchange request =>
      let exchange := Http.answer request session.reading session.registrar session.source
      (.answered request exchange.response,
        { session with registrar := exchange.registrar, source := exchange.source })
  | .issue =>
      let (ticket, gatekeeper, source) :=
        session.registrar.gatekeeper.issue session.reading session.source
      (.issued ticket, { session with registrar := { session.registrar with gatekeeper }, source })
  | .register request =>
      let (outcome, registrar) := session.registrar.register request session.reading
      (.registered request outcome, { session with registrar })
  | .updateTerms terms =>
      (.termsUpdated terms, { session with registrar := (session.registrar.updateTerms terms).2 })
  | .sweep =>
      let (swept, gatekeeper) := session.registrar.gatekeeper.sweep session.reading
      (.swept swept, { session with registrar := { session.registrar with gatekeeper } })
  | .evaluate =>
      let (adjustment, gatekeeper) := session.registrar.gatekeeper.evaluate session.reading
      (.evaluated adjustment, { session with registrar := { session.registrar with gatekeeper } })
  | .setClock reading => (.clockSet reading, { session with reading })
  | .outage reads writes =>
      let store := session.registrar.store.withOutage reads writes
      (.outage reads writes, { session with registrar := { session.registrar with store } })

def step (session : Session Source) (action : Action) : Session Source :=
  (session.perform action).2

/-- The entry that an action leaves. -/
def entry (session : Session Source) (action : Action) : Entry where
  now := session.reading
  deed := (session.perform action).1

def run (session : Session Source) (actions : List Action) : Session Source :=
  actions.foldl step session

/-- The entries that actions leave, the earliest first. -/
def history (session : Session Source) : List Action → List Entry
  | [] => []
  | action :: rest => session.entry action :: (session.step action).history rest

variable {session : Session Source}

@[simp]
theorem run_nil : session.run [] = session :=
  rfl

theorem run_cons (action : Action) (actions : List Action) :
    session.run (action :: actions) = (session.step action).run actions :=
  rfl

@[simp]
theorem run_concat (actions : List Action) (action : Action) :
    session.run (actions ++ [action]) = (session.run actions).step action := by
  simp [run]

@[simp]
theorem history_nil : session.history [] = [] :=
  rfl

theorem history_cons (action : Action) (actions : List Action) :
    session.history (action :: actions) =
      session.entry action :: (session.step action).history actions :=
  rfl

@[simp]
theorem history_concat (actions : List Action) (action : Action) :
    session.history (actions ++ [action]) =
      session.history actions ++ [(session.run actions).entry action] := by
  induction actions generalizing session with
  | nil => rfl
  | cons first rest induction => simp only [List.cons_append, history_cons, run_cons, induction]

end Session

/-- A new registrar has the terms and the store it was given, and a new gatekeeper. -/
theorem exists_gatekeeper_of_create
    {policy : Policy}
    {terms : Option Terms}
    {store : TenantStore}
    {registrar : Registrar}
    (created : create policy terms store = .ok registrar) :
    ∃ gatekeeper,
      Gatekeeper.create policy = .ok gatekeeper ∧ registrar = { gatekeeper, terms, store } := by
  cases made : Gatekeeper.create policy with
  | error fault =>
      rw [create, made] at created
      cases created
  | ok gatekeeper =>
      rw [create, made] at created
      exact ⟨gatekeeper, rfl, (Except.ok.inj created).symm⟩

/-! ## What an entry tells -/

/-- What the outcome of a registration admits, and whether its tenant was stored. -/
def admitted (data : RegistrationData) :
    Except RegistrationError Unit → Option (RegistrationData × Bool)
  | .ok () => some (data, true)
  | .error (.store _) => some (data, false)
  | .error _ => none

namespace Entry

/--
The data of the registration that was admitted, and whether its tenant was stored.  An answer over
HTTP tells so by its status.
-/
def admission? (entry : Entry) : Option (RegistrationData × Bool) :=
  match entry.deed with
  | .registered request outcome => admitted request.data outcome
  | .answered request response =>
      request.posted?.bind fun content =>
        if response.status = 200 then some (content.data, true)
        else if response.status = 500 then some (content.data, false)
        else none
  | _ => none

/-- A registration for exactly these data has succeeded. -/
def Registers (data : RegistrationData) (entry : Entry) : Prop :=
  entry.admission? = some (data, true)

/-- The work of a registration was accepted, whether or not its tenant was stored. -/
def Admits (entry : Entry) : Prop :=
  entry.admission?.isSome

instance (data : RegistrationData) (entry : Entry) : Decidable (entry.Registers data) :=
  inferInstanceAs (Decidable (entry.admission? = some (data, true)))

instance (entry : Entry) : Decidable entry.Admits :=
  inferInstanceAs (Decidable (entry.admission?.isSome = true))

/-- What an evaluation of the difficulty reported. -/
def adjustment? (entry : Entry) : Option Difficulty.Adjustment :=
  match entry.deed with
  | .evaluated adjustment => some adjustment
  | _ => none

/-- The entry is an evaluation of the difficulty. -/
def Evaluates (entry : Entry) : Prop :=
  entry.adjustment?.isSome

instance (entry : Entry) : Decidable entry.Evaluates :=
  inferInstanceAs (Decidable (entry.adjustment?.isSome = true))

/-- The terms in force after the entry. -/
def terms (before : Option Terms) (entry : Entry) : Option Terms :=
  match entry.deed with
  | .termsUpdated new => some new
  | _ => before

/-- The fault of reading the store after the entry. -/
def readFault (before : Option StoreFault) (entry : Entry) : Option StoreFault :=
  match entry.deed with
  | .outage reads _ => reads
  | _ => before

/-- The tenants after the entry. -/
def tenants (before : TenantTable) (entry : Entry) : TenantTable :=
  match entry.admission? with
  | some (data, true) => before.enroll data entry.now
  | _ => before

/-- The times of the solves that are held after the entry. -/
def solves (window : Int) (before : List Int) (entry : Entry) : List Int :=
  if entry.Evaluates then before.filter fun solved => entry.now - solved ≤ window
  else if entry.Admits then entry.now :: before
  else before

theorem keyed_tenants
    {before : TenantTable}
    (keyed : before.Keyed)
    (entry : Entry) :
    (entry.tenants before).Keyed := by
  simp only [tenants]
  split
  · exact keyed.enroll
  · exact keyed

theorem keyed_foldl
    {before : TenantTable}
    (keyed : before.Keyed)
    (history : List Entry) :
    (history.foldl Entry.tenants before).Keyed := by
  induction history generalizing before with
  | nil => exact keyed
  | cons entry rest induction => exact induction (keyed_tenants keyed entry)

/-- What the registrar remembers after an entry follows from the entry and what it remembered. -/
structure Explains (entry : Entry) (before after : Registrar) : Prop where
  terms_eq : after.terms = entry.terms before.terms
  readFault_eq : after.store.readFault = entry.readFault before.store.readFault
  tenants_eq : after.store.tenants = entry.tenants before.store.tenants
  law_eq : after.gatekeeper.difficulty.law = before.gatekeeper.difficulty.law
  solves_eq :
    after.gatekeeper.difficulty.solves =
      entry.solves before.gatekeeper.difficulty.law.window before.gatekeeper.difficulty.solves
  rate_eq :
    ∀ adjustment, entry.adjustment? = some adjustment →
      adjustment.rate = after.gatekeeper.difficulty.solves.length
  formed : before.gatekeeper.challenges.AllFormed → after.gatekeeper.challenges.AllFormed

/-- The entry evaluates nothing, replaces no terms and leaves the reads of the store alone. -/
structure IsSteady (entry : Entry) : Prop where
  adjustment?_eq : entry.adjustment? = none
  terms_eq : ∀ terms, entry.terms terms = terms
  readFault_eq : ∀ fault, entry.readFault fault = fault

end Entry

variable {entry : Entry} {before after : Registrar}

theorem admitted_of_status
    {data : RegistrationData}
    {refusal : RegistrationError}
    (client : refusal.status = 400) :
    admitted data (.error refusal) = none := by
  cases refusal with
  | store fault => cases client
  | work cause => rfl
  | outdatedTerms => rfl
  | invalidRequest detail => rfl
  | internal detail => rfl

namespace Entry.Explains

/-- What admits nothing keeps the terms, the store, the difficulty and the form of challenges. -/
theorem of_idle
    (steady : entry.IsSteady)
    (idle : entry.admission? = none)
    (sameTerms : after.terms = before.terms)
    (sameStore : after.store = before.store)
    (sameDifficulty : after.gatekeeper.difficulty = before.gatekeeper.difficulty)
    (formed : before.gatekeeper.challenges.AllFormed → after.gatekeeper.challenges.AllFormed) :
    entry.Explains before after where
  terms_eq := by rw [sameTerms, steady.terms_eq]
  readFault_eq := by rw [sameStore, steady.readFault_eq]
  tenants_eq := by rw [sameStore, Entry.tenants, idle]
  law_eq := by rw [sameDifficulty]
  solves_eq := by
    simp [sameDifficulty, Entry.solves, Entry.Evaluates, Entry.Admits, steady.adjustment?_eq, idle]
  rate_eq adjustment reported := by
    rw [steady.adjustment?_eq] at reported
    cases reported
  formed := formed

theorem refl (steady : entry.IsSteady) (idle : entry.admission? = none) :
    entry.Explains before before :=
  of_idle steady idle rfl rfl rfl id

theorem of_issue
    {Source : Type} [RandomSource Source]
    (steady : entry.IsSteady)
    (idle : entry.admission? = none)
    (now : Int)
    (source : Source) :
    entry.Explains before
      { before with gatekeeper := (before.gatekeeper.issue now source).2.1 } :=
  of_idle steady idle rfl rfl rfl fun formed => formed.issue now source

/-- What is admitted counts one solve; only the tenants may still differ. -/
theorem of_admitted
    {data : RegistrationData}
    {stored : Bool}
    {request : RegistrationRequest}
    (steady : entry.IsSteady)
    (admits : entry.admission? = some (data, stored))
    (sameTerms : after.terms = before.terms)
    (sameFault : after.store.readFault = before.store.readFault)
    (tenants_eq : after.store.tenants = entry.tenants before.store.tenants)
    (accepted : after.gatekeeper = (before.accept request entry.now).gatekeeper) :
    entry.Explains before after where
  terms_eq := by rw [sameTerms, steady.terms_eq]
  readFault_eq := by rw [sameFault, steady.readFault_eq]
  tenants_eq := tenants_eq
  law_eq := by rw [accepted]; rfl
  solves_eq := by
    have evaluatesNot : ¬ entry.Evaluates := by simp [Entry.Evaluates, steady.adjustment?_eq]
    have admitted : entry.Admits := by simp [Entry.Admits, admits]
    rw [Entry.solves, if_neg evaluatesNot, if_pos admitted, accepted]
    rfl
  rate_eq adjustment reported := by
    rw [steady.adjustment?_eq] at reported
    cases reported
  formed formed := by
    rw [accepted]
    exact formed.erase _

/-- An entry that tells the outcome of a registration explains what the registration did. -/
theorem of_registration
    {request : RegistrationRequest}
    {outcome : Except RegistrationError Unit}
    (steady : entry.IsSteady)
    (registration : Registration request entry.now before outcome after)
    (told : entry.admission? = admitted request.data outcome) :
    entry.Explains before after := by
  cases registration with
  | refused inadmissible client =>
      rw [admitted_of_status client] at told
      exact refl steady told
  | unstored admissible fails =>
      refine of_admitted steady told rfl rfl ?_ rfl
      rw [Entry.tenants, told]
      rfl
  | enrolled admissible works =>
      refine of_admitted steady told rfl rfl ?_ rfl
      rw [Entry.tenants, told]
      rfl

/-- An answer over HTTP tells the outcome of a registration by its status. -/
theorem of_answer
    {request : Http.Request}
    {response : Http.Response}
    {content : RegistrationRequest}
    {outcome : Except RegistrationError Unit}
    {now : Int}
    (posted : request.posted? = some content)
    (registration : Registration content now before outcome after)
    (status : response.status = Http.outcomeStatus outcome) :
    Entry.Explains { now, deed := .answered request response } before after := by
  refine of_registration ⟨rfl, fun _ => rfl, fun _ => rfl⟩ registration ?_
  cases registration with
  | refused inadmissible client =>
      rw [Http.outcomeStatus, client] at status
      simp [Entry.admission?, posted, status, admitted_of_status client]
  | unstored admissible fails =>
      have failed : response.status = 500 := status
      simp [Entry.admission?, posted, failed, admitted]
  | enrolled admissible works =>
      have registered : response.status = 200 := status
      simp [Entry.admission?, posted, registered, admitted]

theorem of_updateTerms (now : Int) (terms : Terms) :
    Entry.Explains { now, deed := .termsUpdated terms } before (before.updateTerms terms).2 where
  terms_eq := rfl
  readFault_eq := rfl
  tenants_eq := rfl
  law_eq := rfl
  solves_eq := rfl
  rate_eq _ reported := nomatch reported
  formed := id

theorem of_outage (now : Int) (reads writes : Option StoreFault) :
    Entry.Explains { now, deed := .outage reads writes } before
      { before with store := before.store.withOutage reads writes } where
  terms_eq := rfl
  readFault_eq := rfl
  tenants_eq := rfl
  law_eq := rfl
  solves_eq := rfl
  rate_eq _ reported := nomatch reported
  formed := id

theorem of_evaluate (now : Int) :
    Entry.Explains { now, deed := .evaluated (before.gatekeeper.evaluate now).1 } before
      { before with gatekeeper := (before.gatekeeper.evaluate now).2 } where
  terms_eq := rfl
  readFault_eq := rfl
  tenants_eq := rfl
  law_eq := by simp [Gatekeeper.evaluate, Difficulty.evaluate_eq_revise]
  solves_eq := by
    simp [Gatekeeper.evaluate, Difficulty.evaluate_eq_revise, Difficulty.recent, Entry.solves,
      Entry.Evaluates, Entry.adjustment?]
  rate_eq adjustment reported := by
    obtain rfl := Option.some.inj reported
    simp [Gatekeeper.evaluate, Difficulty.evaluate_eq_revise]
  formed := id

end Entry.Explains

namespace Session

variable {Source : Type} [RandomSource Source] {session : Session Source}

theorem now_entry (session : Session Source) (action : Action) :
    (session.entry action).now = session.reading :=
  rfl

theorem adjustment?_evaluate (session : Session Source) :
    (session.entry .evaluate).adjustment? =
      some (session.registrar.gatekeeper.evaluate session.reading).1 :=
  rfl

theorem not_admits_issue (session : Session Source) : ¬ (session.entry .issue).Admits := by
  intro admits
  cases admits

/-- Only the setting of the clock changes its reading. -/
theorem reading_step_of_ne
    {action : Action}
    (unset : ∀ reading, action ≠ .setClock reading) :
    (session.step action).reading = session.reading := by
  cases action with
  | setClock reading => exact absurd rfl (unset reading)
  | exchange request => rfl
  | issue => rfl
  | register request => rfl
  | updateTerms terms => rfl
  | sweep => rfl
  | evaluate => rfl
  | outage reads writes => rfl

/-- A posted request leaves the registrar as its registration does. -/
theorem registrar_step_of_posted
    {request : Http.Request}
    {content : RegistrationRequest}
    (posted : request.posted? = some content) :
    (session.step (.exchange request)).registrar =
      (session.registrar.register content session.reading).2 :=
  (Http.answer_of_posted session.reading session.registrar session.source posted).1

/-- While the store works, the entry of an admissible request tells of its registration. -/
theorem registers_of_admissible
    {request : RegistrationRequest}
    (admissible : session.registrar.Admissible request session.reading)
    (works : session.registrar.store.writeFault = none) :
    (session.entry (.register request)).Registers request.data := by
  simp only [Entry.Registers, Entry.admission?, entry, perform,
    register_of_admissible admissible works, admitted]

/-- The entry of an exchange explains what the exchange did. -/
theorem explains_exchange (request : Http.Request) :
    (session.entry (.exchange request)).Explains session.registrar
      (session.step (.exchange request)).registrar := by
  simp only [entry, step, perform]
  cases posted : request.posted? with
  | some content =>
      obtain ⟨registered, -, status⟩ :=
        Http.answer_of_posted session.reading session.registrar session.source posted
      rw [registered]
      exact .of_answer posted registration_register status
  | none =>
      have steady (response : Http.Response) :
          Entry.IsSteady { now := session.reading, deed := .answered request response } :=
        ⟨rfl, fun _ => rfl, fun _ => rfl⟩
      have idle (response : Http.Response) :
          Entry.admission? { now := session.reading, deed := .answered request response } =
            none := by
        simp [Entry.admission?, posted]
      by_cases asks : request.AsksChallenge
      · rw [(Http.answer_of_asksChallenge _ _ _ asks).1]
        exact .of_issue (steady _) (idle _) _ _
      · rw [(Http.answer_of_idle _ _ _ posted asks).1]
        exact .refl (steady _) (idle _)

/-- The entry of an action explains what the action did to the registrar. -/
theorem explains_step (action : Action) :
    (session.entry action).Explains session.registrar (session.step action).registrar := by
  cases action with
  | exchange request => exact explains_exchange request
  | issue => exact .of_issue ⟨rfl, fun _ => rfl, fun _ => rfl⟩ rfl _ _
  | register request =>
      exact .of_registration ⟨rfl, fun _ => rfl, fun _ => rfl⟩ registration_register rfl
  | updateTerms terms => exact .of_updateTerms _ terms
  | sweep =>
      exact .of_idle ⟨rfl, fun _ => rfl, fun _ => rfl⟩ rfl rfl rfl rfl fun formed => formed.sweep _
  | evaluate => exact .of_evaluate _
  | setClock reading => exact .refl ⟨rfl, fun _ => rfl, fun _ => rfl⟩ rfl
  | outage reads writes => exact .of_outage _ reads writes

/-- What holds at first and is kept from entry to entry holds after every run. -/
theorem run_induction
    {motive : List Entry → Registrar → Prop}
    (first : motive [] session.registrar)
    (next :
      ∀ history entry before after,
        motive history before → entry.Explains before after → motive (history ++ [entry]) after)
    (actions : List Action) :
    motive (session.history actions) (session.run actions).registrar := by
  -- From the end, since one more action appends one entry and steps the session once.
  induction actions using List.reverseRecOn with
  | nil => exact first
  | append_singleton actions action induction =>
      rw [history_concat, run_concat]
      exact next _ _ _ _ induction (explains_step action)

theorem terms_run (actions : List Action) :
    (session.run actions).registrar.terms =
      (session.history actions).foldl Entry.terms session.registrar.terms := by
  apply run_induction
    (motive := fun history registrar =>
      registrar.terms = history.foldl Entry.terms session.registrar.terms) rfl
  intro history entry before after recalled explains
  rw [explains.terms_eq, recalled, List.foldl_concat]

theorem tenants_run (actions : List Action) :
    (session.run actions).registrar.store.tenants =
      (session.history actions).foldl Entry.tenants session.registrar.store.tenants := by
  apply run_induction
    (motive := fun history registrar =>
      registrar.store.tenants = history.foldl Entry.tenants session.registrar.store.tenants) rfl
  intro history entry before after recalled explains
  rw [explains.tenants_eq, recalled, List.foldl_concat]

/-- Every reachable registrar stores each tenant under its own name. -/
theorem keyed_run
    (keyed : session.registrar.store.tenants.Keyed)
    (actions : List Action) :
    (session.run actions).registrar.store.tenants.Keyed := by
  rw [tenants_run]
  exact Entry.keyed_foldl keyed _

/-- A store that is never set to fail reads can be read throughout. -/
theorem readFault_run
    {actions : List Action}
    (works : session.registrar.store.readFault = none)
    (readable : ∀ fault writes, Action.outage (some fault) writes ∉ actions) :
    (session.run actions).registrar.store.readFault = none := by
  induction actions using List.reverseRecOn with
  | nil => exact works
  | append_singleton actions action induction =>
      have before := induction fun fault writes member =>
        readable fault writes (List.mem_append_left _ member)
      rw [run_concat, (explains_step action).readFault_eq, before]
      cases action with
      | outage reads writes =>
          cases reads with
          | none => rfl
          | some fault => exact absurd (by simp) (readable fault writes)
      | exchange request => rfl
      | issue => rfl
      | register request => rfl
      | updateTerms terms => rfl
      | sweep => rfl
      | evaluate => rfl
      | setClock reading => rfl

/-! ## A session in which a tenant can be registered -/

/-- A registrar without terms whose ceiling is met by every digest. -/
def openSession : Session Entropy where
  registrar := { gatekeeper := Gatekeeper.Session.openKeeper }
  reading := 0
  source := Gatekeeper.Session.zeros

def zeroRequest : RegistrationRequest where
  data := { did := "did:example:zero", termsHash := "" }
  proof :=
    { challengeNonce := Gatekeeper.Session.zeroSubmission.challengeNonce
      responseNonce := Gatekeeper.Session.zeroSubmission.responseNonce }

theorem create_openPolicy :
    create Gatekeeper.Session.openPolicy none {} = .ok openSession.registrar := by
  rfl

/-- The session after its first challenge is issued. -/
def askedSession : Session Entropy :=
  openSession.step .issue

/-- Once its challenge is issued, `zeroRequest` can be registered. -/
theorem admissible_zeroRequest :
    askedSession.registrar.Admissible zeroRequest askedSession.reading where
  named := by decide +kernel
  agreed current inForce := nomatch inForce
  formed := Gatekeeper.Session.wellFormed_zeroSubmission
  unspent := rfl
  fresh := by decide +kernel
  meets := zeroRequest.submission.meets_leadingZeros_zero

end Session

end WorkGate.Registrar
