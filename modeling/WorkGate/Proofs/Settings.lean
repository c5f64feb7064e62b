import WorkGate.Proofs.HexCodec
import WorkGate.Proofs.Text.Unsigned
import WorkGate.Settings

/-!
# What the surroundings set

A setting is what the text says that its variable is set to, or its default if the variable is not
set to a text.  Settings are loaded exactly if each of the three texts that are there can be read:
the ceiling as a hash value and the rate as an unsigned number, both without the blanks around them,
and the terms as the path of a file that holds a text.  The loaded settings then say what the
surroundings say; if they cannot be loaded, the first of the three that cannot be read is reported.
-/

namespace WorkGate

/-- Bytes are decoded as a text exactly if they are its encoding. -/
theorem ofUtf8?_eq_some_iff {bytes : Bytes} {text : String} :
    ofUtf8? bytes = some text ↔ bytes = utf8 text := by
  constructor
  · intro decoded
    rw [ofUtf8?, String.fromUTF8?] at decoded
    split at decoded
    · rw [← Option.some.inj decoded]
      rfl
    · cases decoded
  · rintro rfl
    exact ofUtf8?_utf8 text

namespace Surroundings

variable {surroundings : Surroundings} {name text path : String}

/-- A variable is set to a text. -/
def Sets (name text : String) (surroundings : Surroundings) : Prop :=
  surroundings.environment name = some (utf8 text)

theorem text?_eq_some_iff : surroundings.text? name = some text ↔ surroundings.Sets name text := by
  rw [text?, Option.bind_eq_some_iff, Sets]
  constructor
  · rintro ⟨bytes, set, decoded⟩
    rw [set, ofUtf8?_eq_some_iff.mp decoded]
  · intro set
    exact ⟨utf8 text, set, ofUtf8?_utf8 text⟩

/-- A file is a text exactly if its bytes are the encoding of the text. -/
theorem fileText_eq_ok_iff :
    surroundings.fileText path = .ok text ↔ surroundings.file path = .ok (utf8 text) := by
  rw [fileText]
  cases surroundings.file path with
  | error fault => simp
  | ok bytes =>
      rw [Except.ok.injEq, ← ofUtf8?_eq_some_iff]
      cases decoded : ofUtf8? bytes with
      | none => simp [decoded]
      | some found => simp [decoded]

/-- A setting has the value that the text set for it means, or else its default. -/
inductive Given
    {Value : Type}
    (surroundings : Surroundings)
    (name : String)
    (means : String → Value → Prop)
    (default : Value) :
    Value → Prop where
  | set {text : String} {value : Value}
      (sets : surroundings.Sets name text)
      (meant : means text value) :
      Given surroundings name means default value
  | unset (unset : ∀ text, ¬ surroundings.Sets name text) :
      Given surroundings name means default default

variable {Value : Type} {means : String → Value → Prop} {default value : Value}

theorem given_iff_of_some (set : surroundings.text? name = some text) :
    surroundings.Given name means default value ↔ means text value := by
  constructor
  · intro given
    cases given with
    | set sets meant =>
        obtain rfl := Option.some.inj (set.symm.trans (text?_eq_some_iff.mpr sets))
        exact meant
    | unset unset => exact absurd (text?_eq_some_iff.mp set) (unset text)
  · exact .set (text?_eq_some_iff.mp set)

theorem given_iff_of_none (silent : surroundings.text? name = none) :
    surroundings.Given name means default value ↔ value = default := by
  constructor
  · intro given
    cases given with
    | set sets meant =>
        rw [text?_eq_some_iff.mpr sets] at silent
        cases silent
    | unset unset => rfl
  · rintro rfl
    apply Given.unset
    intro text sets
    rw [text?_eq_some_iff.mpr sets] at silent
    cases silent

/-- What is made of a setting is what is made of its text, or else of its default. -/
theorem Given.map
    {Result : Type}
    {meansResult : String → Result → Prop}
    (given : surroundings.Given name means default value)
    (make : Value → Result)
    (makes : ∀ text value, means text value → meansResult text (make value)) :
    surroundings.Given name meansResult (make default) (make value) := by
  cases given with
  | set sets meant => exact .set sets (makes _ _ meant)
  | unset unset => exact .unset unset

/-- A setting has a value unless its text means nothing. -/
theorem exists_given_iff :
    (∃ value, surroundings.Given name means default value) ↔
      ∀ text, surroundings.Sets name text → ∃ value, means text value := by
  constructor
  · rintro ⟨value, given⟩ text sets
    exact ⟨value, (given_iff_of_some (text?_eq_some_iff.mpr sets)).mp given⟩
  · intro readable
    cases set : surroundings.text? name with
    | none => exact ⟨default, (given_iff_of_none set).mpr rfl⟩
    | some text =>
        obtain ⟨value, meant⟩ := readable text (text?_eq_some_iff.mp set)
        exact ⟨value, (given_iff_of_some set).mpr meant⟩

end Surroundings

namespace Settings

open Surroundings

variable {surroundings : Surroundings} {settings : Settings} {policy next : Policy}

/-- A text that spells a ceiling, with blanks around it perhaps. -/
def MeansCeiling (text : String) (ceiling : HashValue) : Prop :=
  HashValue.Spelled (Text.trim text) ∧ ceiling.toNat = Hex.denoted (Text.trim text).toList

/-- A text that denotes a rate, with blanks around it perhaps. -/
def MeansRate (text : String) (rate : UInt64) : Prop :=
  Text.Denotes (Text.trim text) rate.toNat

/-- The path of a file that holds the terms. -/
def MeansTerms (surroundings : Surroundings) (path : String) (terms : Option Terms) : Prop :=
  ∃ text, surroundings.file path = .ok (utf8 text) ∧ terms = some { text }

theorem ofHex?_trim_eq_some_iff {text : String} {ceiling : HashValue} :
    HashValue.ofHex? (Text.trim text) = some ceiling ↔ MeansCeiling text ceiling := by
  constructor
  · intro found
    exact ⟨HashValue.exists_ofHex?_iff.mp ⟨ceiling, found⟩, HashValue.toNat_of_ofHex? found⟩
  · rintro ⟨spelled, denoted⟩
    obtain ⟨read, found⟩ := HashValue.exists_ofHex?_iff.mpr spelled
    have same : read = ceiling :=
      HashValue.ext ((HashValue.toNat_of_ofHex? found).trans denoted.symm)
    exact same ▸ found

theorem toNat_ofNat_of_le {value : Nat} (within : value ≤ 0xFFFFFFFFFFFFFFFF) :
    (UInt64.ofNat value).toNat = value := by
  apply UInt64.toNat_ofNat_of_lt'
  show value < 0x10000000000000000
  omega

theorem readUnsigned_trim_eq_ok_iff {text : String} {rate : UInt64} :
    Text.readUnsigned 0xFFFFFFFFFFFFFFFF (Text.trim text) = .ok rate.toNat ↔
      MeansRate text rate := by
  have small := rate.toNat_lt
  rw [Text.readUnsigned_eq_ok_iff, MeansRate]
  exact ⟨fun read => read.1, fun denotes => ⟨denotes, by omega⟩⟩

theorem readCeiling_eq_ok_iff :
    readCeiling (surroundings.text? ceilingVariable) policy = .ok next ↔
      ∃ ceiling,
        surroundings.Given ceilingVariable MeansCeiling policy.initialCeiling ceiling ∧
          next = { policy with initialCeiling := ceiling } := by
  cases set : surroundings.text? ceilingVariable with
  | none =>
      simp only [given_iff_of_none set, exists_eq_left]
      exact ⟨fun kept => (Except.ok.inj kept).symm, fun kept => congrArg Except.ok kept.symm⟩
  | some text =>
      simp only [given_iff_of_some set, ← ofHex?_trim_eq_some_iff, readCeiling,
        Policy.withCeilingHex]
      cases HashValue.ofHex? (Text.trim text) with
      | none => simp
      | some ceiling => simp [eq_comm]

theorem readRate_eq_ok_iff :
    readRate (surroundings.text? rateVariable) policy = .ok next ↔
      ∃ rate,
        surroundings.Given rateVariable MeansRate policy.desiredRate rate ∧
          next = { policy with desiredRate := rate } := by
  cases set : surroundings.text? rateVariable with
  | none =>
      simp only [given_iff_of_none set, exists_eq_left]
      exact ⟨fun kept => (Except.ok.inj kept).symm, fun kept => congrArg Except.ok kept.symm⟩
  | some text =>
      simp only [given_iff_of_some set, ← readUnsigned_trim_eq_ok_iff, readRate]
      cases read : Text.readUnsigned 0xFFFFFFFFFFFFFFFF (Text.trim text) with
      | error fault => simp
      | ok value =>
          -- The number is within the limit, so the word made of it keeps it.
          have kept := toNat_ofNat_of_le (Text.readUnsigned_eq_ok_iff.mp read).2
          have same (rate : UInt64) : value = rate.toNat ↔ rate = .ofNat value := by
            rw [← UInt64.toNat_inj, kept, eq_comm]
          simp [same, eq_comm]

theorem readTerms_eq_ok_iff {terms : Option Terms} :
    readTerms (surroundings.text? termsVariable) surroundings = .ok terms ↔
      surroundings.Given termsVariable (MeansTerms surroundings) none terms := by
  cases set : surroundings.text? termsVariable with
  | none =>
      rw [given_iff_of_none set, readTerms, Except.ok.injEq, eq_comm]
  | some path =>
      simp only [given_iff_of_some set, MeansTerms, ← fileText_eq_ok_iff, readTerms]
      cases surroundings.fileText path with
      | error fault => simp
      | ok text => simp [eq_comm]

/-- Settings have the values that the surroundings give, and are defaults otherwise. -/
structure Follows (surroundings : Surroundings) (settings : Settings) : Prop where
  ceiling :
    surroundings.Given ceilingVariable MeansCeiling (.leadingZeros 8) settings.policy.initialCeiling
  rate : surroundings.Given rateVariable MeansRate 10 settings.policy.desiredRate
  terms : surroundings.Given termsVariable (MeansTerms surroundings) none settings.terms
  others :
    settings.policy =
      { initialCeiling := settings.policy.initialCeiling
        desiredRate := settings.policy.desiredRate }

/-- The three settings are read one after the other. -/
theorem load_eq_ok_iff_read :
    load surroundings = .ok settings ↔
      ∃ first second,
        readCeiling (surroundings.text? ceilingVariable) {} = .ok first ∧
          readRate (surroundings.text? rateVariable) first = .ok second ∧
            ∃ terms,
              readTerms (surroundings.text? termsVariable) surroundings = .ok terms ∧
                settings = { policy := second, terms } := by
  simp only [load, bind, Except.bind, pure, Except.pure]
  cases readCeiling (surroundings.text? ceilingVariable) {} with
  | error fault => simp
  | ok first =>
      simp only [Except.ok.injEq, exists_and_left, exists_eq_left']
      cases readRate (surroundings.text? rateVariable) first with
      | error fault => simp
      | ok second =>
          cases readTerms (surroundings.text? termsVariable) surroundings with
          | error fault => simp
          | ok terms => simp [eq_comm]

/-- Exactly the settings that the surroundings give are loaded. -/
theorem load_eq_ok_iff : load surroundings = .ok settings ↔ Follows surroundings settings := by
  simp only [load_eq_ok_iff_read, readCeiling_eq_ok_iff, readRate_eq_ok_iff, readTerms_eq_ok_iff]
  constructor
  · rintro ⟨first, second, ⟨ceiling, spelled, rfl⟩, ⟨rate, denoted, rfl⟩, terms, found, rfl⟩
    exact ⟨spelled, denoted, found, rfl⟩
  · rintro ⟨spelled, denoted, found, others⟩
    refine ⟨_, _, ⟨_, spelled, rfl⟩, ⟨_, denoted, rfl⟩, _, found, ?_⟩
    rw [← others]

/-! ## Which settings can be read -/

/-- The ceiling is set to nothing else than one to 64 digits between blanks. -/
def CeilingReads (surroundings : Surroundings) : Prop :=
  ∀ text, surroundings.Sets ceilingVariable text → HashValue.Spelled (Text.trim text)

/-- The rate is set to nothing else than a number of 64 bits between blanks. -/
def RateReads (surroundings : Surroundings) : Prop :=
  ∀ text, surroundings.Sets rateVariable text →
    ∃ rate, Text.Denotes (Text.trim text) rate ∧ rate ≤ 0xFFFFFFFFFFFFFFFF

/-- The file that is named for the terms, if one is, holds a text. -/
def TermsRead (surroundings : Surroundings) : Prop :=
  ∀ path, surroundings.Sets termsVariable path →
    ∃ text, surroundings.file path = .ok (utf8 text)

theorem exists_readCeiling_iff :
    (∃ next, readCeiling (surroundings.text? ceilingVariable) policy = .ok next) ↔
      CeilingReads surroundings := by
  simp only [readCeiling_eq_ok_iff]
  rw [exists_comm]
  simp only [exists_and_left, exists_eq, and_true, exists_given_iff, ← ofHex?_trim_eq_some_iff,
    HashValue.exists_ofHex?_iff, CeilingReads]

theorem exists_meansRate_iff {text : String} :
    (∃ rate, MeansRate text rate) ↔
      ∃ rate, Text.Denotes (Text.trim text) rate ∧ rate ≤ 0xFFFFFFFFFFFFFFFF := by
  constructor
  · rintro ⟨rate, denotes⟩
    have small := rate.toNat_lt
    exact ⟨rate.toNat, denotes, by omega⟩
  · rintro ⟨rate, denotes, within⟩
    exact ⟨.ofNat rate, by rwa [MeansRate, toNat_ofNat_of_le within]⟩

theorem exists_readRate_iff :
    (∃ next, readRate (surroundings.text? rateVariable) policy = .ok next) ↔
      RateReads surroundings := by
  simp only [readRate_eq_ok_iff]
  rw [exists_comm]
  simp only [exists_and_left, exists_eq, and_true, exists_given_iff, exists_meansRate_iff,
    RateReads]

theorem exists_readTerms_iff :
    (∃ terms, readTerms (surroundings.text? termsVariable) surroundings = .ok terms) ↔
      TermsRead surroundings := by
  have read (path : String) :
      (∃ terms, MeansTerms surroundings path terms) ↔
        ∃ text, surroundings.file path = .ok (utf8 text) :=
    ⟨fun ⟨_, text, found, _⟩ => ⟨text, found⟩, fun ⟨text, found⟩ => ⟨_, text, found, rfl⟩⟩
  simp only [readTerms_eq_ok_iff, exists_given_iff, read, TermsRead]

/-- Settings are loaded exactly if each of the three can be read. -/
theorem exists_load_iff :
    (∃ settings, load surroundings = .ok settings) ↔
      CeilingReads surroundings ∧ RateReads surroundings ∧ TermsRead surroundings := by
  simp only [load_eq_ok_iff_read]
  constructor
  · rintro ⟨settings, first, second, ceiling, rate, terms, found, -⟩
    exact ⟨exists_readCeiling_iff.mp ⟨first, ceiling⟩, exists_readRate_iff.mp ⟨second, rate⟩,
      exists_readTerms_iff.mp ⟨terms, found⟩⟩
  · rintro ⟨ceiling, rate, terms⟩
    obtain ⟨first, ceilingRead⟩ := exists_readCeiling_iff.mpr ceiling
    obtain ⟨second, rateRead⟩ := exists_readRate_iff.mpr rate
    obtain ⟨terms, termsRead⟩ := exists_readTerms_iff.mpr terms
    exact ⟨_, first, second, ceilingRead, rateRead, terms, termsRead, rfl⟩

/-- The first of the three settings that cannot be read, and why it cannot. -/
inductive FirstFault (surroundings : Surroundings) : SettingsFault → Prop where
  | ceiling {text : String}
      (sets : surroundings.Sets ceilingVariable text)
      (misspelled : ¬ HashValue.Spelled (Text.trim text)) :
      FirstFault surroundings (.ceiling (.invalidHashValue (Text.trim text)))
  | rate {text : String} {fault : Text.UnsignedFault}
      (ceiling : CeilingReads surroundings)
      (sets : surroundings.Sets rateVariable text)
      (refused : Text.readUnsigned 0xFFFFFFFFFFFFFFFF (Text.trim text) = .error fault) :
      FirstFault surroundings (.rate fault)
  | terms {path : String} {fault : FileFault}
      (ceiling : CeilingReads surroundings)
      (rate : RateReads surroundings)
      (sets : surroundings.Sets termsVariable path)
      (unreadable : surroundings.fileText path = .error fault) :
      FirstFault surroundings (.terms fault)

theorem FirstFault.of_readCeiling_eq_error
    {fault : SettingsFault}
    (refused : readCeiling (surroundings.text? ceilingVariable) policy = .error fault) :
    FirstFault surroundings fault := by
  cases set : surroundings.text? ceilingVariable with
  | none =>
      rw [set] at refused
      cases refused
  | some text =>
      simp only [set, readCeiling, Policy.withCeilingHex] at refused
      cases found : HashValue.ofHex? (Text.trim text) with
      | some ceiling =>
          rw [found] at refused
          cases refused
      | none =>
          rw [found] at refused
          obtain rfl := Except.error.inj refused
          refine .ceiling (text?_eq_some_iff.mp set) fun spelled => ?_
          obtain ⟨ceiling, read⟩ := HashValue.exists_ofHex?_iff.mpr spelled
          rw [found] at read
          cases read

theorem FirstFault.of_readRate_eq_error
    {fault : SettingsFault}
    (ceiling : CeilingReads surroundings)
    (refused : readRate (surroundings.text? rateVariable) policy = .error fault) :
    FirstFault surroundings fault := by
  cases set : surroundings.text? rateVariable with
  | none =>
      rw [set] at refused
      cases refused
  | some text =>
      simp only [set, readRate] at refused
      cases read : Text.readUnsigned 0xFFFFFFFFFFFFFFFF (Text.trim text) with
      | ok rate =>
          rw [read] at refused
          cases refused
      | error cause =>
          rw [read] at refused
          obtain rfl := Except.error.inj refused
          exact .rate ceiling (text?_eq_some_iff.mp set) read

theorem FirstFault.of_readTerms_eq_error
    {fault : SettingsFault}
    (ceiling : CeilingReads surroundings)
    (rate : RateReads surroundings)
    (refused :
      readTerms (surroundings.text? termsVariable) surroundings = .error fault) :
    FirstFault surroundings fault := by
  cases set : surroundings.text? termsVariable with
  | none =>
      rw [set] at refused
      cases refused
  | some path =>
      simp only [set, readTerms] at refused
      cases read : surroundings.fileText path with
      | ok text =>
          rw [read] at refused
          cases refused
      | error cause =>
          rw [read] at refused
          obtain rfl := Except.error.inj refused
          exact .terms ceiling rate (text?_eq_some_iff.mp set) read

/-- Settings that cannot be loaded are refused for their first fault. -/
theorem firstFault_of_load_eq_error
    {fault : SettingsFault}
    (refused : load surroundings = .error fault) :
    FirstFault surroundings fault := by
  simp only [load, bind, Except.bind, pure, Except.pure] at refused
  split at refused
  · next ceilingRefused =>
      obtain rfl := Except.error.inj refused
      exact .of_readCeiling_eq_error ceilingRefused
  · next first ceilingRead =>
      have ceiling := exists_readCeiling_iff.mp ⟨first, ceilingRead⟩
      split at refused
      · next rateRefused =>
          obtain rfl := Except.error.inj refused
          exact .of_readRate_eq_error ceiling rateRefused
      · next second rateRead =>
          have rate := exists_readRate_iff.mp ⟨second, rateRead⟩
          split at refused
          · next termsRefused =>
              obtain rfl := Except.error.inj refused
              exact .of_readTerms_eq_error ceiling rate termsRefused
          · cases refused

end Settings

end WorkGate
