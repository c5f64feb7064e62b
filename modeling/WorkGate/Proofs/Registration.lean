import WorkGate.Proofs.Json.Printing
import WorkGate.Proofs.Json.Reading

/-!
# Which bodies are registration requests

A request is a record of registration data and a proof of work, each a record of two texts.  A JSON
text is read as a request if and only if it is laid out in this way, and the request then carries
exactly the texts that stand there.  So neither white space, nor escapes, nor the order of members,
nor members of other names change what is read, and a body in which a name of the layout occurs
twice is never read at all.
-/

namespace WorkGate

open Json

namespace RegistrationData

def layout : Layout :=
  .record "did" .text "termsOfServiceHash" .text

/-- Data are what their two texts are. -/
def equivTexts : String × String ≃ RegistrationData where
  toFun texts := { did := texts.1, termsHash := texts.2 }
  invFun data := (data.did, data.termsHash)
  left_inv _ := rfl
  right_inv _ := rfl

def content (data : RegistrationData) : layout.Content :=
  (data.did, data.termsHash)

/-- The tree of the data as they are printed. -/
def tree (data : RegistrationData) : Tree :=
  .object [("did", .string data.did), ("termsOfServiceHash", .string data.termsHash)]

theorem prints_toJson (data : RegistrationData) : Prints data.toJson data.tree :=
  (prints_quote data.did).objectOfTwo (prints_quote data.termsHash)

theorem follows_shape : layout.Follows content shape :=
  (Layout.follows_pair ⟨"did", Value.text⟩ ⟨"termsOfServiceHash", Value.text⟩
    Layout.follows_text Layout.follows_text (by decide)).map equivTexts

/-- Printed data are laid out as what they are. -/
theorem holds_tree (data : RegistrationData) : layout.Holds data.tree data.content :=
  Layout.holds_object_of_two (by decide) rfl rfl

/-- The canonical bytes are read as the data, whatever characters the texts contain. -/
theorem read_canonical (data : RegistrationData) : Json.read shape data.canonical = .ok data :=
  (follows_shape.read_eq_ok_iff data.prints_toJson.isText data).mpr data.holds_tree

/-- The canonical bytes determine the data. -/
theorem canonical_injective : Function.Injective canonical := by
  intro left right same
  have read := read_canonical left
  rw [same, read_canonical right] at read
  exact (Except.ok.inj read).symm

end RegistrationData

namespace WorkProof

def layout : Layout :=
  .record "challengeNonce" .text "responseNonce" .text

/-- A proof is what its two texts are. -/
def equivTexts : String × String ≃ WorkProof where
  toFun texts := { challengeNonce := texts.1, responseNonce := texts.2 }
  invFun proof := (proof.challengeNonce, proof.responseNonce)
  left_inv _ := rfl
  right_inv _ := rfl

def content (proof : WorkProof) : layout.Content :=
  (proof.challengeNonce, proof.responseNonce)

/-- The tree of the proof as it is printed. -/
def tree (proof : WorkProof) : Tree :=
  .object [("challengeNonce", .string proof.challengeNonce),
    ("responseNonce", .string proof.responseNonce)]

theorem prints_toJson (proof : WorkProof) : Prints proof.toJson proof.tree :=
  (prints_quote proof.challengeNonce).objectOfTwo (prints_quote proof.responseNonce)

theorem follows_shape : layout.Follows content shape :=
  (Layout.follows_pair ⟨"challengeNonce", Value.text⟩ ⟨"responseNonce", Value.text⟩
    Layout.follows_text Layout.follows_text (by decide)).map equivTexts

/-- A printed proof is laid out as what it is. -/
theorem holds_tree (proof : WorkProof) : layout.Holds proof.tree proof.content :=
  Layout.holds_object_of_two (by decide) rfl rfl

end WorkProof

namespace RegistrationRequest

def layout : Layout :=
  .record "registrationData" RegistrationData.layout "proofOfWork" WorkProof.layout

def equivParts : RegistrationData × WorkProof ≃ RegistrationRequest where
  toFun parts := { data := parts.1, proof := parts.2 }
  invFun request := (request.data, request.proof)
  left_inv _ := rfl
  right_inv _ := rfl

def content (request : RegistrationRequest) : layout.Content :=
  (request.data.content, request.proof.content)

theorem distinct_layout : layout.Distinct := by
  simp [layout, RegistrationData.layout, WorkProof.layout, Layout.Distinct]

theorem follows_shape : layout.Follows content shape :=
  (Layout.follows_pair ⟨"registrationData", RegistrationData.shape⟩
    ⟨"proofOfWork", WorkProof.shape⟩ RegistrationData.follows_shape
    WorkProof.follows_shape (by decide)).map equivParts

variable {tree other : Tree} {body text : Bytes}

/-- A text is read as the request that its tree holds. -/
theorem ofJson_eq_ok_iff
    (isText : IsText tree body)
    (request : RegistrationRequest) :
    ofJson body = .ok request ↔ layout.Holds tree request.content :=
  follows_shape.read_eq_ok_iff isText request

/-- What is read depends on the tree alone, and not on what the layout does not see in it. -/
theorem ofJson_eq_ok_iff_of_alike
    (isText : IsText tree body)
    (isOtherText : IsText other text)
    (alike : layout.Alike tree other)
    (request : RegistrationRequest) :
    ofJson body = .ok request ↔ ofJson text = .ok request := by
  rw [ofJson_eq_ok_iff isText, ofJson_eq_ok_iff isOtherText]
  exact alike.holds_iff distinct_layout request.content

/-! ## Printed requests -/

/-- The tree of a request as it is printed. -/
def printedTree (request : RegistrationRequest) : Tree :=
  .object [("registrationData", request.data.tree), ("proofOfWork", request.proof.tree)]

theorem isText_toJson (request : RegistrationRequest) :
    IsText request.printedTree (utf8 request.toJson) :=
  (request.data.prints_toJson.objectOfTwo request.proof.prints_toJson).isText

/-- A printed request is laid out as what it is. -/
theorem holds_printedTree (request : RegistrationRequest) :
    layout.Holds request.printedTree request.content :=
  Layout.holds_object_of_two (by decide) request.data.holds_tree request.proof.holds_tree

/-- A printed request is read as what it is, whatever characters its texts contain. -/
theorem ofJson_toJson (request : RegistrationRequest) :
    ofJson (utf8 request.toJson) = .ok request :=
  (ofJson_eq_ok_iff request.isText_toJson request).mpr request.holds_printedTree

/-- A text with white space, an escape in a name, and a member that the layout does not name. -/
def wideText (request : RegistrationRequest) : Bytes :=
  0x20 :: 0x7b :: 0x22 :: (utf8 "\\u0070roofOfWork" ++
    0x22 :: 0x3a :: (utf8 request.proof.toJson ++
      0x2c :: (utf8 (Json.member "more" "null") ++
        0x2c :: (utf8 (Json.member "registrationData" request.data.toJson) ++ [0x7d, 0x0a]))))

def wideTree (request : RegistrationRequest) : Tree :=
  .object [("proofOfWork", request.proof.tree), ("more", .null),
    ("registrationData", request.data.tree)]

theorem isText_wideText (request : RegistrationRequest) :
    IsText request.wideTree request.wideText := by
  have zero : HexDigit 0x30 0 := .decimal (by decide) (by decide)
  have seven : HexDigit 0x37 7 := .decimal (by decide) (by decide)
  have escapedFirst : SpellsChar 'p' (0x5c :: 0x75 :: [0x30, 0x30, 0x37, 0x30]) :=
    .code (.mk zero zero seven zero)
  have escaped : SpellsChars "proofOfWork".toList (utf8 "\\u0070roofOfWork") :=
    .cons escapedFirst (spellsChars_escape "roofOfWork".toList)
  have printsNull : Prints "null" .null := fun rest => .null
  have lineEnd : Blank [0x0a] [] := .next (by decide) .none
  refine .padded (.next (by decide) .none) ?_ lineEnd
  apply Spells.object
  apply Spells.nextMember
  · exact .member .none escaped .none (request.proof.prints_toJson.spells_padded _)
  · apply Spells.nextMember (printsNull.spells_member _)
    exact .lastMember (request.data.prints_toJson.spells_member _)

/-- The wide text says the same as the printed one, in another order and with one more member. -/
theorem alike_wideTree (request : RegistrationRequest) :
    layout.Alike request.wideTree request.printedTree := by
  have reordered :
      layout.Edit request.wideTree
        (.object [("more", .null), ("registrationData", request.data.tree),
          ("proofOfWork", request.proof.tree)]) := by
    apply Layout.Edit.reorder
    exact (List.perm_append_singleton ("proofOfWork", request.proof.tree)
      [("more", .null), ("registrationData", request.data.tree)]).symm
  have widened :
      layout.Edit request.printedTree
        (.object [("more", .null), ("registrationData", request.data.tree),
          ("proofOfWork", request.proof.tree)]) :=
    .unknown (by decide) (by decide)
  exact .trans _ _ _ (.rel _ _ reordered) (.symm _ _ (.rel _ _ widened))

/-- A text that would be a request if it did not give its proof twice. -/
def doubledText (request : RegistrationRequest) : Bytes :=
  0x7b :: (utf8 (Json.member "registrationData" request.data.toJson) ++
    0x2c :: (utf8 (Json.member "proofOfWork" request.proof.toJson) ++
      0x2c :: (utf8 (Json.member "proofOfWork" request.proof.toJson) ++ [0x7d])))

def doubledTree (request : RegistrationRequest) : Tree :=
  .object [("registrationData", request.data.tree), ("proofOfWork", request.proof.tree),
    ("proofOfWork", request.proof.tree)]

theorem isText_doubledText (request : RegistrationRequest) :
    IsText request.doubledTree request.doubledText := by
  refine .padded .none ?_ .none
  apply Spells.object
  apply Spells.nextMember (request.data.prints_toJson.spells_member _)
  apply Spells.nextMember (request.proof.prints_toJson.spells_member _)
  exact .lastMember (request.proof.prints_toJson.spells_member _)

theorem repeats_doubledTree (request : RegistrationRequest) :
    layout.Repeats request.doubledTree :=
  .secondName (by rw [valuesOf_cons_of_ne (by decide)]; simp)

/-! ## Which texts are read as which requests -/

/--
A JSON text is read as a request exactly if it is laid out as one.  Other spellings of the same
tree, another order of members and members of other names make no difference, and a text that
repeats a name of the layout is not read.
-/
theorem ofJson_reads_exactly_the_layout (isText : IsText tree body) :
    (∀ request, ofJson body = .ok request ↔ layout.Holds tree request.content) ∧
      (∀ {other : Tree} {text : Bytes}, IsText other text → layout.Alike tree other →
        ∀ request, ofJson body = .ok request ↔ ofJson text = .ok request) ∧
      (layout.Repeats tree → ∀ request, ofJson body ≠ .ok request) := by
  refine ⟨ofJson_eq_ok_iff isText, ofJson_eq_ok_iff_of_alike isText, ?_⟩
  intro repeats request read
  exact repeats.not_holds request.content ((ofJson_eq_ok_iff isText request).mp read)

def sample : RegistrationRequest where
  data := { did := "did:key:z", termsHash := "T" }
  proof := { challengeNonce := "C", responseNonce := "R" }

/-- The wide text of a request is read as the request; a text with two proofs is not read. -/
theorem ofJson_wideText_sample :
    IsText sample.wideTree sample.wideText ∧
      ofJson sample.wideText = .ok sample ∧
        ∀ request, ofJson sample.doubledText ≠ .ok request := by
  obtain ⟨-, alike, -⟩ := ofJson_reads_exactly_the_layout (isText_wideText sample)
  obtain ⟨-, -, repeated⟩ := ofJson_reads_exactly_the_layout (isText_doubledText sample)
  refine ⟨isText_wideText sample, ?_, repeated (repeats_doubledTree sample)⟩
  rw [alike (isText_toJson sample) (alike_wideTree sample),
    ofJson_eq_ok_iff (isText_toJson sample)]
  exact holds_printedTree sample

end RegistrationRequest

end WorkGate
