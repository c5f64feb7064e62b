import WorkGate.Proofs.Gatekeeper.Creation
import WorkGate.Proofs.Registrar.FirstTicket
import WorkGate.Proofs.Settings

/-!
# From the surroundings to the wire

Loaded settings make a registrar exactly if neither the ceiling nor the rate is zero: all durations
are the defaults, so nothing else can be at fault.  The text that the ceiling is set to can then be
followed to the first client.  Between its blanks are the digits of a number; the number is the
ceiling as long as no challenge was asked for; and the first challenge shows it in upper case, with
zeros up to 64 digits.  The terms are agreed to by the digest of the very bytes of their file.
-/

namespace WorkGate.Settings

open Surroundings
open Registrar (Action Session)

variable {surroundings : Surroundings} {settings : Settings} {store : TenantStore}

/-- With default durations only a zero ceiling or a zero rate keeps a registrar from being made. -/
theorem Follows.exists_create_iff (follows : Follows surroundings settings) :
    (∃ registrar, Registrar.create settings.policy settings.terms store = .ok registrar) ↔
      0 < settings.policy.initialCeiling.toNat ∧ 0 < settings.policy.desiredRate.toNat := by
  constructor
  · rintro ⟨registrar, created⟩
    obtain ⟨law, lawful, -⟩ := Registrar.exists_unasked_of_create created
    rw [← Difficulty.Law.initial_ofPolicy lawful, ← Difficulty.Law.desired_ofPolicy lawful]
    exact ⟨law.initial_pos, law.desired_pos⟩
  · rintro ⟨ceiling, rate⟩
    have timing :
        0 < (Duration.ofSeconds 10).nanos ∧ 0 < (Duration.ofSeconds 60).nanos ∧
          0 < (Duration.ofSeconds 600).nanos ∧ 0 < ((Duration.ofSeconds 300).divided 4).nanos := by
      decide +kernel
    have valid : settings.policy.validate = .ok () := by
      apply Policy.validate_eq_ok_iff.mpr
      refine ⟨ceiling, rate, ?_⟩
      rw [follows.others]
      exact timing
    have window : 0 < settings.policy.windowMillis := by
      have minute : 0 < low64Signed (Duration.ofSeconds 60).millis := by decide +kernel
      rw [follows.others]
      exact minute
    obtain ⟨keeper, made⟩ := (Gatekeeper.create_of_validate valid).1 window
    exact ⟨_, congrArg (Except.map _) made⟩

/-- What is written of a ceiling: the text that it is set to, in upper case and padded. -/
theorem MeansCeiling.toHex_eq
    {text : String}
    {ceiling : HashValue}
    (meant : MeansCeiling text ceiling) :
    ceiling.toHex = HashValue.padded (Text.trim text) :=
  HashValue.toHex_of_ofHex? (ofHex?_trim_eq_some_iff.mpr meant)

theorem toHex_leadingZeros_eight :
    (HashValue.leadingZeros 8).toHex =
      "00FFFFFFFFFFFFFFFFFFFFFFFFFFFFFFFFFFFFFFFFFFFFFFFFFFFFFFFFFFFFFF" := by
  decide +kernel

/-- The terms in force are known by the digest of the bytes in the file that is named for them. -/
theorem Follows.termsHash?_eq
    (follows : Follows surroundings settings)
    {registrar : Registrar}
    (created : Registrar.create settings.policy settings.terms store = .ok registrar) :
    surroundings.Given termsVariable
      (fun path hash =>
        ∃ bytes, surroundings.file path = .ok bytes ∧ hash = some (Sha256.hash bytes).toHex)
      none registrar.termsHash? := by
  obtain ⟨gatekeeper, -, rfl⟩ := Registrar.exists_gatekeeper_of_create created
  apply follows.terms.map (Option.map Terms.hash)
  rintro path terms ⟨text, found, rfl⟩
  exact ⟨utf8 text, found, rfl⟩

/-- The response to the first challenge that is asked for shows what the ceiling is set to. -/
theorem Follows.response_of_first_challenge
    {Source : Type} [RandomSource Source]
    (follows : Follows surroundings settings)
    {registrar : Registrar}
    (created : Registrar.create settings.policy settings.terms store = .ok registrar)
    (reading : Int)
    (source : Source)
    {actions : List Action}
    (unasking : ∀ action ∈ actions, ¬ action.AsksChallenge)
    {ask : Http.Request}
    (asks : ask.AsksChallenge)
    (get : ask.method = "GET") :
    let session := ({ registrar, reading, source } : Session Source).run actions
    ∃ nonce shown,
      (Http.answer ask session.reading session.registrar session.source).response =
          .json 200
            (Json.objectOfTwo (Json.member "challengeNonce" (Json.quote nonce))
              (Json.member "maximumAllowedHashValue" (Json.quote shown))) ∧
        surroundings.Given ceilingVariable
          (fun text shown => shown = HashValue.padded (Text.trim text))
          "00FFFFFFFFFFFFFFFFFFFFFFFFFFFFFFFFFFFFFFFFFFFFFFFFFFFFFFFFFFFFFF" shown := by
  intro session
  have ceiling := Session.ceiling_run_of_unasking created reading source unasking
  refine ⟨_, session.registrar.gatekeeper.ceiling.toHex,
    Http.response_of_getChallenge asks get session.reading session.registrar session.source, ?_⟩
  rw [ceiling, ← toHex_leadingZeros_eight]
  exact follows.ceiling.map HashValue.toHex fun text ceiling meant => meant.toHex_eq

/--
Settings are loaded exactly if each of the three can be read, and refused for the first that cannot.
They make a registrar exactly if neither the ceiling nor the rate is zero; its terms are then known
by the digest of their file, and its first challenge shows the ceiling as it was set.
-/
theorem settings_reach_the_wire
    (surroundings : Surroundings)
    (store : TenantStore)
    (Source : Type) [RandomSource Source] :
    ((∃ settings, load surroundings = .ok settings) ↔
        CeilingReads surroundings ∧ RateReads surroundings ∧ TermsRead surroundings) ∧
      (∀ fault, load surroundings = .error fault → FirstFault surroundings fault) ∧
      ∀ settings, load surroundings = .ok settings →
        Follows surroundings settings ∧
        ((∃ registrar, Registrar.create settings.policy settings.terms store = .ok registrar) ↔
          0 < settings.policy.initialCeiling.toNat ∧ 0 < settings.policy.desiredRate.toNat) ∧
        ∀ registrar, Registrar.create settings.policy settings.terms store = .ok registrar →
          surroundings.Given termsVariable
            (fun path hash =>
              ∃ bytes, surroundings.file path = .ok bytes ∧ hash = some (Sha256.hash bytes).toHex)
            none registrar.termsHash? ∧
          ∀ (reading : Int) (source : Source) (actions : List Action) (ask : Http.Request),
            (∀ action ∈ actions, ¬ action.AsksChallenge) →
              ask.AsksChallenge → ask.method = "GET" →
                let session := ({ registrar, reading, source } : Session Source).run actions
                ∃ nonce shown,
                  (Http.answer ask session.reading session.registrar session.source).response =
                      .json 200
                        (Json.objectOfTwo (Json.member "challengeNonce" (Json.quote nonce))
                          (Json.member "maximumAllowedHashValue" (Json.quote shown))) ∧
                    surroundings.Given ceilingVariable
                      (fun text shown => shown = HashValue.padded (Text.trim text))
                      "00FFFFFFFFFFFFFFFFFFFFFFFFFFFFFFFFFFFFFFFFFFFFFFFFFFFFFFFFFFFFFF"
                      shown := by
  refine ⟨exists_load_iff, fun fault => firstFault_of_load_eq_error, ?_⟩
  intro settings loaded
  have follows := load_eq_ok_iff.mp loaded
  refine ⟨follows, follows.exists_create_iff, ?_⟩
  intro registrar created
  refine ⟨follows.termsHash?_eq created, ?_⟩
  intro reading source actions ask unasking asks get
  exact follows.response_of_first_challenge created reading source unasking asks get

/-- A ceiling of three digits between blanks, a file with terms, and nothing else. -/
def sampleSurroundings : Surroundings where
  environment name :=
    if name = ceilingVariable then some (utf8 " aBc\n")
    else if name = termsVariable then some (utf8 "terms.txt")
    else none
  file _ := .ok (utf8 "Be fair.")

/-- The first challenge of these surroundings shows the three digits in upper case and padded. -/
theorem sampleSurroundings_reach_the_wire :
    ∃ settings registrar nonce,
      load sampleSurroundings = .ok settings ∧
        Registrar.create settings.policy settings.terms {} = .ok registrar ∧
          registrar.termsHash? = some (Sha256.hash (utf8 "Be fair.")).toHex ∧
            (Http.answer Session.challengeGet 0 registrar Gatekeeper.Session.zeros).response =
              .json 200
                (Json.objectOfTwo (Json.member "challengeNonce" (Json.quote nonce))
                  (Json.member "maximumAllowedHashValue"
                    (Json.quote
                      "0000000000000000000000000000000000000000000000000000000000000ABC"))) := by
  obtain ⟨loads, -, reaches⟩ := settings_reach_the_wire sampleSurroundings {} Entropy
  have trimmed : Text.trim " aBc\n" = "aBc" := by decide +kernel
  have read : HashValue.ofHex? "aBc" = some ⟨0xABC, by decide⟩ := by decide +kernel
  have setsCeiling : sampleSurroundings.text? ceilingVariable = some " aBc\n" :=
    ofUtf8?_utf8 " aBc\n"
  have setsRate : sampleSurroundings.text? rateVariable = none := rfl
  have setsTerms : sampleSurroundings.text? termsVariable = some "terms.txt" :=
    ofUtf8?_utf8 "terms.txt"
  have ceilingReads : CeilingReads sampleSurroundings := by
    intro text sets
    obtain rfl := Option.some.inj (setsCeiling.symm.trans (text?_eq_some_iff.mpr sets))
    rw [trimmed]
    exact HashValue.exists_ofHex?_iff.mp ⟨_, read⟩
  have rateReads : RateReads sampleSurroundings := by
    intro text sets
    rw [← text?_eq_some_iff, setsRate] at sets
    cases sets
  have termsRead : TermsRead sampleSurroundings := fun path sets => ⟨"Be fair.", rfl⟩
  obtain ⟨settings, loaded⟩ := loads.mpr ⟨ceilingReads, rateReads, termsRead⟩
  obtain ⟨follows, makes, serves⟩ := reaches settings loaded
  have ceiling : settings.policy.initialCeiling.toNat = 0xABC := by
    obtain ⟨-, denoted⟩ := (given_iff_of_some setsCeiling).mp follows.ceiling
    rw [denoted, trimmed]
    decide +kernel
  have rate : settings.policy.desiredRate = 10 := (given_iff_of_none setsRate).mp follows.rate
  obtain ⟨registrar, created⟩ := makes.mpr (by rw [ceiling, rate]; decide)
  obtain ⟨hash, shows⟩ := serves registrar created
  obtain ⟨nonce, shown, response, padded⟩ :=
    shows 0 Gatekeeper.Session.zeros [] Session.challengeGet (by simp) Session.asks_challengeGet rfl
  obtain ⟨bytes, found, agreed⟩ := (given_iff_of_some setsTerms).mp hash
  obtain rfl := (given_iff_of_some setsCeiling).mp padded
  refine ⟨settings, registrar, nonce, loaded, created, ?_, ?_⟩
  · rw [agreed, Except.ok.inj found]
  · have written :
        HashValue.padded "aBc" =
          "0000000000000000000000000000000000000000000000000000000000000ABC" := by
      decide +kernel
    rw [trimmed, written] at response
    exact response

end WorkGate.Settings
