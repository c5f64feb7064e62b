import WorkGate.Proofs.Client
import WorkGate.Proofs.Registrar.Challenges
import WorkGate.Proofs.Registrar.Rejection

/-!
# Honest clients are admitted

A client reads a ticket, searches a response nonce for its data and posts the request.  Whatever
the registrar went through before, and whatever others do in between, the request is registered and
its tenant is active right after, as long as the client is in time and nothing in between speaks
against it: nobody else redeemed its challenge or spent its response nonce, the terms it agreed to
are those in force, and the ceiling did not fall below that of the ticket.
-/

namespace WorkGate

/-- A registration leaves the tenant under the terms that it stated. -/
theorem TenantTable.exists_get?_enroll
    (data : RegistrationData)
    (now : Int)
    (tenants : TenantTable) :
    ∃ record,
      (tenants.enroll data now).get? data.did = some record ∧
        record.termsHash = some data.termsHash :=
  ⟨_, Table.get?_insert_eq_some_iff.mpr (Or.inl ⟨rfl, rfl⟩), rfl⟩

/-- A challenge that is asked for with GET is written into the response. -/
theorem Http.response_of_getChallenge
    {Source : Type} [RandomSource Source]
    {request : Http.Request}
    (asks : request.AsksChallenge)
    (get : request.method = "GET")
    (now : Int)
    (registrar : Registrar)
    (source : Source) :
    (Http.answer request now registrar source).response =
      .json 200 (Http.ticketJson (registrar.gatekeeper.issue now source).1) := by
  simp only [Http.answer, asks.1, Http.reading, get, if_true]
  rfl

namespace Registrar

variable {request : RegistrationRequest} {now : Int} {registrar : Registrar}

/-- A tenant registered under the terms in force is active right after. -/
theorem status_enroll_eq_active
    (readable : registrar.store.readFault = none)
    (agreed : ∀ current, registrar.termsHash? = some current → request.data.termsHash = current) :
    ((registrar.accept request now).enroll request.data now).status request.data.did = .active := by
  obtain ⟨record, found, hash⟩ :=
    TenantTable.exists_get?_enroll request.data now registrar.store.tenants
  have looked :
      ((registrar.accept request now).enroll request.data now).store.get? request.data.did =
        .ok (some record) := by
    simp only [TenantStore.get?, enroll, accept, readable, found]
  have sameTerms :
      ((registrar.accept request now).enroll request.data now).termsHash? = registrar.termsHash? :=
    rfl
  simp only [status, looked, standing, sameTerms]
  cases inForce : registrar.termsHash? with
  | none => rfl
  | some current => simp [hash, agreed current inForce]

/-- A posted request that is admissible is registered, and its tenant is active right after. -/
theorem answer_of_admissible
    {Source : Type} [RandomSource Source]
    {post : Http.Request}
    (posts : post.PostsRegistration)
    (read : post.registration = .ok request)
    (admissible : registrar.Admissible request now)
    (readable : registrar.store.readFault = none)
    (writable : registrar.store.writeFault = none)
    (source : Source) :
    (Http.answer post now registrar source).response = .registered ∧
      (Http.answer post now registrar source).registrar.status request.data.did = .active := by
  rw [Http.answer_eq_postRegistration now registrar source posts]
  simp only [Http.postRegistration, read, register_of_admissible admissible writable]
  exact ⟨trivial, status_enroll_eq_active readable admissible.agreed⟩

namespace Session

variable {Source : Type} [RandomSource Source]

/--
From the issue of a ticket to the post under it, nothing has happened that speaks against the
request.
-/
structure Spares
    (asked : Session Source)
    (between : List Action)
    (lifetime : Int)
    (ticket : Ticket)
    (request : RegistrationRequest) :
    Prop where
  readings :
    ∀ entry ∈ asked.history between,
      asked.reading ≤ entry.now ∧ entry.now ≤ (asked.run between).reading
  inTime : (asked.run between).reading - asked.reading ≤ lifetime
  unredeemed : ∀ entry ∈ asked.history between, ¬ entry.Redeems ticket.challengeNonce
  unspent :
    (asked.run between).registrar.gatekeeper.spent.isSpent request.proof.responseNonce = false
  agreed :
    ∀ current,
      (asked.run between).registrar.termsHash? = some current → request.data.termsHash = current
  loose : ticket.ceiling ≤ (asked.run between).registrar.gatekeeper.ceiling
  readable : (asked.run between).registrar.store.readFault = none
  writable : (asked.run between).registrar.store.writeFault = none

/-- A request that was prepared under a held ticket and spared by the traffic is admissible. -/
theorem admissible_of_spares
    {asked : Session Source}
    {between : List Action}
    {ticket : Ticket}
    {request : RegistrationRequest}
    {post : Http.Request}
    {ClientSource : Type} [RandomSource ClientSource]
    (held :
      HeldSince ticket.challengeNonce asked.reading asked.registrar.gatekeeper.challenges)
    (prepares : Client.Prepares ClientSource ticket request post)
    (spares :
      asked.Spares between asked.registrar.gatekeeper.challenges.lifetime ticket request) :
    (asked.run between).registrar.Admissible request (asked.run between).reading where
  named := prepares.named
  agreed := spares.agreed
  formed := prepares.wellFormed
  unspent := SpentNonces.isSpent_eq_false_iff.mp spares.unspent
  fresh := by
    have readings :
        ∀ entry ∈ asked.history between,
          asked.reading ≤ entry.now ∧
            entry.now - asked.reading ≤ asked.registrar.gatekeeper.challenges.lifetime := by
      intro entry member
      obtain ⟨later, earlier⟩ := spares.readings entry member
      have young := spares.inTime
      exact ⟨later, by omega⟩
    obtain ⟨issuedAt, found, notBefore⟩ := heldSince_run held readings spares.unredeemed
    have young := spares.inTime
    rw [prepares.answers]
    refine ⟨issuedAt, found, ?_⟩
    rw [lifetime_run]
    omega
  meets := prepares.meets spares.loose

/-- An honest client that works only from what it reads is registered. -/
theorem honest_client_is_registered
    {policy : Policy}
    {terms : Option Terms}
    {store : TenantStore}
    {registrar : Registrar}
    (created : create policy terms store = .ok registrar)
    (reading : Int)
    (source : Source)
    (before : List Action)
    {ask : Http.Request}
    (asks : ask.AsksChallenge)
    (get : ask.method = "GET") :
    let session := ({ registrar, reading, source } : Session Source).run before
    let asked := session.step (.exchange ask)
    ∃ ticket,
      (Http.answer ask session.reading session.registrar session.source).response.ticket? =
          some ticket ∧
        ticket.ceiling = session.registrar.gatekeeper.ceiling ∧
          ∀ {ClientSource : Type} [RandomSource ClientSource] {request : RegistrationRequest}
            {post : Http.Request} {between : List Action},
            Client.Prepares ClientSource ticket request post →
              asked.Spares between policy.lifetimeMillis ticket request →
                let posting := asked.run between
                let exchange :=
                  Http.answer post posting.reading posting.registrar posting.source
                exchange.response = .registered ∧
                  exchange.response.status = 200 ∧
                    exchange.registrar.status request.data.did = .active := by
  intro session asked
  have response :=
    Http.response_of_getChallenge asks get session.reading session.registrar session.source
  have issued : asked.registrar =
      { session.registrar with
        gatekeeper := (session.registrar.gatekeeper.issue session.reading session.source).2.1 } :=
    (Http.answer_of_asksChallenge _ _ _ asks).1
  refine ⟨(session.registrar.gatekeeper.issue session.reading session.source).1, ?_, rfl, ?_⟩
  · rw [response]
    exact Http.ticket?_json_ticketJson 200 _
  · intro ClientSource _ request post between prepares spares posting exchange
    let ticket := (session.registrar.gatekeeper.issue session.reading session.source).1
    have held :
        HeldSince ticket.challengeNonce asked.reading asked.registrar.gatekeeper.challenges := by
      rw [issued]
      refine ⟨session.reading, ?_, Int.le_refl _⟩
      exact Table.get?_insert_eq_some_iff.mpr (Or.inl ⟨rfl, rfl⟩)
    have lifetime : asked.registrar.gatekeeper.challenges.lifetime = policy.lifetimeMillis := by
      have whole : asked = Session.run { registrar, reading, source } (before ++ [.exchange ask]) :=
        (run_concat before (.exchange ask)).symm
      rw [whole, lifetime_run]
      exact lifetime_of_create created
    rw [← lifetime] at spares
    have admissible := admissible_of_spares held prepares spares
    obtain ⟨registered, active⟩ :=
      answer_of_admissible ⟨prepares.located, prepares.method⟩ prepares.registration_eq admissible
        spares.readable spares.writable posting.source
    exact ⟨registered, congrArg Http.Response.status registered, active⟩

def challengeGet : Http.Request where
  method := "GET"
  target := "/registration/proof-of-work"
  contentType := none
  body := []

/-- The ticket that the open session issues first. -/
def firstTicket : Ticket where
  challengeNonce := String.ofList (List.replicate 64 '0')
  ceiling := .leadingZeros 0

/-- The request of a client that draws zeros, under the first ticket. -/
def firstRequest : RegistrationRequest where
  data := { did := "did:example:first", termsHash := "" }
  proof :=
    { challengeNonce := firstTicket.challengeNonce
      responseNonce := String.ofList (List.replicate 64 '0') }

def firstPost : Http.Request where
  method := "POST"
  target := "/registration"
  contentType := some "application/json"
  body := utf8 firstRequest.toJson

theorem prepares_firstPost :
    Client.Prepares Entropy firstTicket firstRequest firstPost where
  named := by decide +kernel
  answers := rfl
  searched := by
    have draws :
        (Nonce.generate Gatekeeper.Session.zeros).1 = firstRequest.proof.responseNonce := by
      decide +kernel
    have passes :
        Work.check firstTicket.challengeNonce (Nonce.generate Gatekeeper.Session.zeros).1
          (some firstRequest.data.canonical) firstTicket.ceiling = .ok () :=
      (Submission.work_eq _ ⟨_, _, _⟩).trans (if_pos (Submission.meets_leadingZeros_zero _))
    refine ⟨1, Gatekeeper.Session.zeros, (Nonce.generate Gatekeeper.Session.zeros).2, ?_⟩
    rw [Work.search_eq_of_check passes, ← draws]
  located := by decide +kernel
  method := rfl
  announced := by decide +kernel
  short := by decide +kernel
  written :=
    ⟨firstRequest.printedTree, firstRequest.isText_toJson, firstRequest.holds_printedTree⟩

theorem asks_challengeGet : challengeGet.AsksChallenge :=
  ⟨by decide +kernel, Or.inl rfl⟩

/-- The open session after a client has read the first ticket. -/
def readSession : Session Entropy :=
  openSession.step (.exchange challengeGet)

theorem registrar_run_readSession :
    (readSession.run [.setClock 1, .sweep]).registrar =
      { openSession.registrar with
        gatekeeper :=
          ((openSession.registrar.gatekeeper.issue 0
            Gatekeeper.Session.zeros).2.1.sweep 1).2 } := by
  have issued : readSession.registrar = _ :=
    (Http.answer_of_asksChallenge 0 openSession.registrar Gatekeeper.Session.zeros
      asks_challengeGet).1
  have swept :
      (readSession.run [.setClock 1, .sweep]).registrar =
        { readSession.registrar with gatekeeper := (readSession.registrar.gatekeeper.sweep 1).2 } :=
    rfl
  rw [swept, issued]

theorem spares_firstRequest :
    readSession.Spares [.setClock 1, .sweep] Gatekeeper.Session.openPolicy.lifetimeMillis
      firstTicket firstRequest where
  readings := by
    have later : (0 : Int) ≤ 1 := by decide
    have starts : readSession.reading = 0 := rfl
    have ends : (readSession.run [.setClock 1, .sweep]).reading = 1 := rfl
    rw [starts, ends]
    intro entry member
    simp only [history_cons, history_nil, List.mem_cons, List.not_mem_nil, or_false] at member
    rcases member with rfl | rfl
    · exact ⟨Int.le_refl 0, later⟩
    · exact ⟨later, Int.le_refl 1⟩
  inTime := by
    have young : (1 : Int) - 0 ≤ Gatekeeper.Session.openPolicy.lifetimeMillis := by decide +kernel
    exact young
  unredeemed := by
    intro entry member
    simp only [history_cons, history_nil, List.mem_cons, List.not_mem_nil, or_false] at member
    rcases member with rfl | rfl
    · rintro ⟨request, accepted, -⟩
      cases accepted
    · rintro ⟨request, accepted, -⟩
      cases accepted
  unspent := by
    rw [registrar_run_readSession]
    rfl
  agreed := by
    rw [registrar_run_readSession]
    exact fun current inForce => nomatch inForce
  loose := by
    rw [registrar_run_readSession]
    exact Nat.le_refl _
  readable := by rw [registrar_run_readSession]; rfl
  writable := by rw [registrar_run_readSession]; rfl

/-- The client that read the first ticket is registered, also if a sweep has passed meanwhile. -/
theorem firstRequest_is_registered :
    let posting := readSession.run [.setClock 1, .sweep]
    (Http.answer firstPost posting.reading posting.registrar posting.source).response =
      .registered := by
  obtain ⟨ticket, read, -, registers⟩ :=
    honest_client_is_registered create_openPolicy 0 Gatekeeper.Session.zeros [] asks_challengeGet
      rfl
  have issued :
      (openSession.registrar.gatekeeper.issue 0 Gatekeeper.Session.zeros).1 = firstTicket := by
    decide +kernel
  have written :=
    Http.response_of_getChallenge asks_challengeGet rfl 0 openSession.registrar
      Gatekeeper.Session.zeros
  rw [run_nil, written, Http.ticket?_json_ticketJson, issued] at read
  obtain rfl := Option.some.inj read
  exact (registers prepares_firstPost spares_firstRequest).1

end Session

end Registrar

end WorkGate
