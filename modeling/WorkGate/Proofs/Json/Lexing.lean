import WorkGate.Json.Text
import WorkGate.Json.Token
import WorkGate.Proofs.Bytes
import WorkGate.Proofs.Json.Grammar

/-!
# The lexer follows the grammar

For each kind of lexeme of the grammar, the token that the lexer cuts from a text that starts with
it, and the text that it goes on with.  White space leaves no token.  A number has no end of its
own: it ends before a byte that cannot belong to it, which is where the grammar lets a value end.

The raw bytes of a string token are those between the quotes; resolving their escapes gives back
the text that they spell.
-/

namespace WorkGate.Json

namespace Token

variable {byte : UInt8} {state next : State} {tokens : List Token} {text rest : Bytes}

/-- The tokens cut so far stand before those that are still to be cut. -/
theorem cut_eq (state : State) (done : List Token) (text : Bytes) :
    cut state done text = done.reverse ++ cut state [] text := by
  induction text generalizing state done with
  | nil => simp [cut]
  | cons byte rest induction =>
      simp only [cut]
      cases step byte state with
      | «continue» next => exact induction next done
      | emit tokens next =>
          simp only
          rw [induction next (tokens.reverse ++ done), induction next (tokens.reverse ++ [])]
          simp
      | refuse tokens => simp

theorem cut_of_continue (moves : step byte state = .continue next) :
    cut state [] (byte :: rest) = cut next [] rest := by
  simp only [cut, moves]

theorem cut_of_emit (moves : step byte state = .emit tokens next) :
    cut state [] (byte :: rest) = tokens ++ cut next [] rest := by
  simp only [cut, moves]
  rw [cut_eq]
  simp

/-- Punctuation is a token of its own. -/
theorem ofBytes_of_emit {token : Token} (moves : stepBetween byte = .emit [token] .between) :
    ofBytes (byte :: rest) = token :: ofBytes rest := by
  have moved : step byte .between = .emit [token] .between := moves
  exact cut_of_emit moved

theorem ofBytes_blank (blank : Blank text rest) : ofBytes text = ofBytes rest := by
  induction blank with
  | none => rfl
  | next space behind induction =>
      rw [← induction]
      apply cut_of_continue
      simp only [List.mem_cons, List.not_mem_nil, or_false] at space
      rcases space with rfl | rfl | rfl | rfl <;> rfl

theorem ofBytes_null : ofBytes (0x6e :: 0x75 :: 0x6c :: 0x6c :: rest) = literal :: ofBytes rest :=
  cut_eq .between [literal] rest

theorem ofBytes_true : ofBytes (0x74 :: 0x72 :: 0x75 :: 0x65 :: rest) = literal :: ofBytes rest :=
  cut_eq .between [literal] rest

theorem ofBytes_false :
    ofBytes (0x66 :: 0x61 :: 0x6c :: 0x73 :: 0x65 :: rest) = literal :: ofBytes rest :=
  cut_eq .between [literal] rest

/-! ## Numbers -/

/-- A value may end before this text: nothing is left, or white space or punctuation follows. -/
def Ends (rest : Bytes) : Prop :=
  ∀ byte ∈ rest.head?, byte ∈ ([0x20, 0x09, 0x0a, 0x0d, 0x2c, 0x5d, 0x7d] : Bytes)

theorem Ends.nil : Ends [] := by
  intro byte first
  cases first

theorem Ends.cons (ends : byte ∈ ([0x20, 0x09, 0x0a, 0x0d, 0x2c, 0x5d, 0x7d] : Bytes)) :
    Ends (byte :: rest) := by
  intro first same
  obtain rfl := Option.some.inj same
  exact ends

theorem Ends.of_blank (blank : Blank text rest) (ends : Ends rest) : Ends text := by
  cases blank with
  | none => exact ends
  | next space behind =>
      apply Ends.cons
      simp only [List.mem_cons, List.not_mem_nil, or_false] at space ⊢
      rcases space with rfl | rfl | rfl | rfl <;> simp

variable {part into : NumberPart} {read digits : Bytes}

theorem cut_number_of_next (leads : part.next? byte = some into) :
    cut (.number part read) [] (byte :: rest) = cut (.number into (byte :: read)) [] rest := by
  apply cut_of_continue
  simp only [step, stepNumber, leads]

/-- A part that goes on with any digit goes on through all of them. -/
theorem cut_number_digits
    (loops : ∀ digit, isDigit digit → into.next? digit = some into)
    (decimal : ∀ digit ∈ digits, isDigit digit) :
    cut (.number into read) [] (digits ++ rest) =
      cut (.number into (digits.reverse ++ read)) [] rest := by
  induction digits generalizing read with
  | nil => rfl
  | cons digit more induction =>
      obtain ⟨first, others⟩ := List.forall_mem_cons.mp decimal
      rw [List.cons_append, cut_number_of_next (loops digit first), induction others]
      simp

/-- Digits lead from one part into the next, which goes on with any digit. -/
theorem cut_number_isDigits
    (leads : ∀ digit, isDigit digit → part.next? digit = some into)
    (loops : ∀ digit, isDigit digit → into.next? digit = some into)
    (written : IsDigits digits) :
    cut (.number part read) [] (digits ++ rest) =
      cut (.number into (digits.reverse ++ read)) [] rest := by
  obtain ⟨nonempty, decimal⟩ := written
  have isDecimal : ∀ digit ∈ digits, isDigit digit := by simpa [isDigit] using decimal
  cases digits with
  | nil => exact absurd rfl nonempty
  | cons digit more =>
      obtain ⟨first, others⟩ := List.forall_mem_cons.mp isDecimal
      rw [List.cons_append, cut_number_of_next (leads digit first),
        cut_number_digits loops others]
      simp

/-- A part after which an exponent may follow. -/
def NumberPart.TakesMark (part : NumberPart) : Prop :=
  part = .zero ∨ part = .whole ∨ part = .fraction

theorem NumberPart.TakesMark.isComplete (takes : part.TakesMark) : part.isComplete := by
  rcases takes with rfl | rfl | rfl <;> rfl

theorem exists_cut_exponent
    (takes : part.TakesMark)
    {exponent : Bytes}
    (isExponent : IsExponent exponent)
    (read : Bytes) :
    ∃ last after, last.isComplete ∧
      ∀ rest, cut (.number part read) [] (exponent ++ rest) = cut (.number last after) [] rest := by
  cases isExponent with
  | absent => exact ⟨part, read, takes.isComplete, fun rest => rfl⟩
  | @present mark sign digits marked signed written =>
      have marks : part.next? mark = some .mark := by
        simp only [List.mem_cons, List.not_mem_nil, or_false] at marked
        rcases takes with rfl | rfl | rfl <;> rcases marked with rfl | rfl <;> rfl
      have loops : ∀ digit, isDigit digit → NumberPart.exponent.next? digit = some .exponent := by
        intro digit decimal
        simp [NumberPart.next?, decimal]
      refine ⟨.exponent, digits.reverse ++ (sign.reverse ++ mark :: read), rfl, ?_⟩
      intro rest
      rw [List.cons_append, cut_number_of_next marks, List.append_assoc]
      simp only [List.mem_cons, List.not_mem_nil, or_false] at signed
      rcases signed with rfl | rfl | rfl
      · apply cut_number_isDigits _ loops written
        intro digit decimal
        have unsigned : ¬ (digit = 0x2b ∨ digit = 0x2d) := by
          rintro (rfl | rfl) <;> cases decimal
        simp [NumberPart.next?, unsigned, decimal]
      · have signs : NumberPart.mark.next? 0x2b = some .markSign := rfl
        rw [List.singleton_append, cut_number_of_next signs]
        apply cut_number_isDigits _ loops written
        intro digit decimal
        simp [NumberPart.next?, decimal]
      · have signs : NumberPart.mark.next? 0x2d = some .markSign := rfl
        rw [List.singleton_append, cut_number_of_next signs]
        apply cut_number_isDigits _ loops written
        intro digit decimal
        simp [NumberPart.next?, decimal]

theorem exists_cut_fraction
    (start : part = .zero ∨ part = .whole)
    {fraction : Bytes}
    (isFraction : IsFraction fraction)
    (read : Bytes) :
    ∃ last after, last.TakesMark ∧
      ∀ rest, cut (.number part read) [] (fraction ++ rest) = cut (.number last after) [] rest := by
  cases isFraction with
  | absent =>
      refine ⟨part, read, ?_, fun rest => rfl⟩
      rcases start with rfl | rfl
      · exact Or.inl rfl
      · exact Or.inr (Or.inl rfl)
  | @present digits written =>
      have points : part.next? 0x2e = some .point := by rcases start with rfl | rfl <;> rfl
      refine ⟨.fraction, digits.reverse ++ 0x2e :: read, Or.inr (Or.inr rfl), ?_⟩
      intro rest
      rw [List.cons_append, cut_number_of_next points]
      apply cut_number_isDigits _ _ written
      · intro digit decimal
        simp [NumberPart.next?, decimal]
      · intro digit decimal
        simp [NumberPart.next?, decimal]

/-- A digit starts a number wherever a value may start. -/
theorem step_between_of_isDigit (decimal : isDigit byte) :
    step byte .between = .continue (.number (if byte = 0x30 then .zero else .whole) [byte]) := by
  have notSpace : isSpace byte = false := by
    cases space : isSpace byte with
    | false => rfl
    | true =>
        simp only [isSpace, decide_eq_true_eq] at space
        rcases space with rfl | rfl | rfl | rfl <;> cases decimal
  simp [step, stepBetween, notSpace, decimal]

/-- A minus sign leaves no trace in the token. -/
theorem ofBytes_minus (decimal : isDigit byte) :
    ofBytes (0x2d :: byte :: rest) = ofBytes (byte :: rest) := by
  have signs : step 0x2d .between = .continue (.number .sign []) := rfl
  have leads :
      NumberPart.sign.next? byte = some (if byte = 0x30 then .zero else .whole) := by
    by_cases zero : byte = 0x30 <;> simp [NumberPart.next?, zero, decimal]
  rw [ofBytes, ofBytes, cut_of_continue signs, cut_number_of_next leads,
    cut_of_continue (step_between_of_isDigit decimal)]

theorem exists_cut_whole
    {sign whole : Bytes}
    (signed : sign ∈ ([[], [0x2d]] : List Bytes))
    (isWhole : IsWhole whole) :
    ∃ part read, (part = .zero ∨ part = .whole) ∧
      ∀ rest, ofBytes (sign ++ (whole ++ rest)) = cut (.number part read) [] rest := by
  have unsigned {first : UInt8} {more : Bytes} (decimal : isDigit first) :
      ofBytes (sign ++ first :: more) = ofBytes (first :: more) := by
    simp only [List.mem_cons, List.not_mem_nil, or_false] at signed
    rcases signed with rfl | rfl
    · rfl
    · exact ofBytes_minus decimal
  cases isWhole with
  | zero => exact ⟨.zero, [0x30], Or.inl rfl, fun rest => unsigned rfl⟩
  | @leading first more digits notZero =>
      obtain ⟨-, decimal⟩ := digits
      have isDecimal : ∀ digit ∈ first :: more, isDigit digit := by simpa [isDigit] using decimal
      obtain ⟨firstDecimal, others⟩ := List.forall_mem_cons.mp isDecimal
      refine ⟨.whole, more.reverse ++ [first], Or.inr rfl, ?_⟩
      intro rest
      rw [List.cons_append, unsigned firstDecimal, ofBytes,
        cut_of_continue (step_between_of_isDigit firstDecimal), if_neg notZero]
      apply cut_number_digits _ others
      intro digit decimal
      simp [NumberPart.next?, decimal]

/-- A byte that ends a value belongs to no number. -/
theorem next?_of_ends
    (part : NumberPart)
    (ends : byte ∈ ([0x20, 0x09, 0x0a, 0x0d, 0x2c, 0x5d, 0x7d] : Bytes)) :
    part.next? byte = none ∧ isDigit byte = false := by
  simp only [List.mem_cons, List.not_mem_nil, or_false] at ends
  rcases ends with rfl | rfl | rfl | rfl | rfl | rfl | rfl <;>
    cases part <;> exact ⟨rfl, rfl⟩

/-- A complete number is cut where a value may end. -/
theorem cut_number_of_ends (complete : part.isComplete) (ends : Ends rest) :
    cut (.number part read) [] rest = number read.reverse :: ofBytes rest := by
  cases rest with
  | nil => simp [cut, finish, complete, ofBytes]
  | cons byte more =>
      obtain ⟨stops, notDigit⟩ := next?_of_ends part (ends byte rfl)
      have moves : step byte (.number part read) = stepAfterNumber read byte := by
        simp [step, stepNumber, stops, complete, notDigit]
      rw [stepAfterNumber] at moves
      -- The byte does what it would do on its own, behind the token of the number.
      cases begins : stepBetween byte with
      | «continue» next =>
          have alone : step byte .between = .continue next := begins
          rw [begins] at moves
          rw [ofBytes, cut_of_emit moves, cut_of_continue alone, List.singleton_append]
      | emit tokens next =>
          have alone : step byte .between = .emit tokens next := begins
          rw [begins] at moves
          rw [ofBytes, cut_of_emit moves, cut_of_emit alone, List.cons_append]
      | refuse tokens =>
          have alone : step byte .between = .refuse tokens := begins
          rw [begins] at moves
          simp [ofBytes, cut, moves, alone]

theorem exists_ofBytes_number
    {written : Bytes}
    (isNumber : IsNumber written)
    (ends : Ends rest) :
    ∃ digits, ofBytes (written ++ rest) = number digits :: ofBytes rest := by
  obtain ⟨signed, isWhole, isFraction, isExponent⟩ := isNumber
  obtain ⟨part, read, start, cutWhole⟩ := exists_cut_whole signed isWhole
  obtain ⟨middle, further, takes, cutFraction⟩ := exists_cut_fraction start isFraction read
  obtain ⟨last, all, complete, cutExponent⟩ := exists_cut_exponent takes isExponent further
  refine ⟨all.reverse, ?_⟩
  rw [List.append_assoc, List.append_assoc, List.append_assoc, cutWhole, cutFraction, cutExponent]
  exact cut_number_of_ends complete ends

/-! ## Strings -/

/-- Bytes that are no quote, no backslash and no control character stand for themselves. -/
theorem cut_string_visible
    {visible : Bytes}
    (plain : ∀ byte ∈ visible, byte ≠ 0x22 ∧ byte ≠ 0x5c ∧ 0x20 ≤ byte.toNat) :
    cut (.string .none read) [] (visible ++ rest) =
      cut (.string .none (visible.reverse ++ read)) [] rest := by
  induction visible generalizing read with
  | nil => rfl
  | cons byte more induction =>
      obtain ⟨⟨notQuote, notBackslash, printable⟩, others⟩ := List.forall_mem_cons.mp plain
      have notControl : ¬ byte < 0x20 := by
        rw [UInt8.lt_iff_toNat_lt]
        exact Nat.not_lt.mpr printable
      have moves : step byte (.string .none read) = .continue (.string .none (byte :: read)) := by
        simp [step, stepString, notQuote, notBackslash, notControl]
      rw [List.cons_append, cut_of_continue moves, induction others]
      simp

theorem isHexDigit_of_hexDigit {value : Nat} (digit : HexDigit byte value) :
    isHexDigit byte = true := by
  cases digit with
  | decimal lower upper => simp [isHexDigit, isDigit, UInt8.le_iff_toNat_le, lower, upper]
  | upperCase lower upper => simp [isHexDigit, isDigit, UInt8.le_iff_toNat_le, lower, upper]
  | lowerCase lower upper => simp [isHexDigit, isDigit, UInt8.le_iff_toNat_le, lower, upper]

theorem cut_string_code {code : Nat} (written : FourDigits digits code) :
    cut (.string .none read) [] (0x5c :: 0x75 :: (digits ++ rest)) =
      cut (.string .none (digits.reverse ++ 0x75 :: 0x5c :: read)) [] rest := by
  obtain ⟨first, second, third, fourth⟩ := written
  have escapes : step 0x5c (.string .none read) = .continue (.string .backslash (0x5c :: read)) :=
    rfl
  have announces :
      step 0x75 (.string .backslash (0x5c :: read)) =
        .continue (.string (.unit 3) (0x75 :: 0x5c :: read)) :=
    rfl
  rw [cut_of_continue escapes, cut_of_continue announces]
  simp [cut, step, stepString, isHexDigit_of_hexDigit first, isHexDigit_of_hexDigit second,
    isHexDigit_of_hexDigit third, isHexDigit_of_hexDigit fourth]

end Token

/-- The bytes of a plain character are neither quotes nor backslashes nor control characters. -/
theorem plain_utf8EncodeChar
    {char : Char}
    (visible : 0x20 ≤ char.toNat)
    (notQuote : char ≠ '"')
    (notBackslash : char ≠ '\\') :
    ∀ byte ∈ String.utf8EncodeChar char, byte ≠ 0x22 ∧ byte ≠ 0x5c ∧ 0x20 ≤ byte.toNat := by
  intro byte member
  rcases utf8EncodeChar_cases char with ⟨ascii, encoded⟩ | beyond
  · rw [encoded, List.mem_singleton] at member
    have code : byte.toNat = char.toNat := by
      rw [member, UInt8.toNat_ofNat']
      omega
    refine ⟨?_, ?_, by omega⟩
    · rintro rfl
      exact notQuote (Char.toNat_inj.mp code.symm)
    · rintro rfl
      exact notBackslash (Char.toNat_inj.mp code.symm)
  · have large := beyond byte member
    refine ⟨?_, ?_, by omega⟩
    · rintro rfl
      exact absurd large (by decide)
    · rintro rfl
      exact absurd large (by decide)

namespace Token

variable {read rest : Bytes}

theorem cut_string_char {char : Char} {written : Bytes} (spells : SpellsChar char written) :
    cut (.string .none read) [] (written ++ rest) =
      cut (.string .none (written.reverse ++ read)) [] rest := by
  cases spells with
  | plain visible notQuote notBackslash =>
      exact cut_string_visible (plain_utf8EncodeChar visible notQuote notBackslash)
  | @short letter listed =>
      simp only [shortEscapes, List.mem_cons, Prod.mk.injEq, List.not_mem_nil, or_false] at listed
      rcases listed with ⟨rfl, -⟩ | ⟨rfl, -⟩ | ⟨rfl, -⟩ | ⟨rfl, -⟩ | ⟨rfl, -⟩ | ⟨rfl, -⟩ |
        ⟨rfl, -⟩ | ⟨rfl, -⟩ <;> rfl
  | code written =>
      rw [List.cons_append, List.cons_append, cut_string_code written]
      simp
  | pair writtenHigh writtenLow isHigh isLow code =>
      simp only [List.cons_append, List.append_assoc]
      rw [cut_string_code writtenHigh, cut_string_code writtenLow]
      simp

theorem cut_string_chars {chars : List Char} {raw : Bytes} (spells : SpellsChars chars raw) :
    cut (.string .none read) [] (raw ++ rest) =
      cut (.string .none (raw.reverse ++ read)) [] rest := by
  induction spells generalizing read with
  | nil => rfl
  | cons first others induction =>
      rw [List.append_assoc, cut_string_char first, induction]
      simp

theorem ofBytes_string {chars : List Char} {raw : Bytes} (spells : SpellsChars chars raw) :
    ofBytes (0x22 :: (raw ++ 0x22 :: rest)) = string raw :: ofBytes rest := by
  have opens : step 0x22 .between = .continue (.string .none []) := rfl
  have closes :
      step 0x22 (.string .none (raw.reverse ++ [])) = .emit [string raw] .between := by
    simp [step, stepString]
  rw [ofBytes, cut_of_continue opens, cut_string_chars spells, cut_of_emit closes,
    List.singleton_append, ofBytes]

end Token

/-! ## What a string stands for -/

theorem hexByte?_of_hexDigit {byte : UInt8} {value : Nat} (digit : HexDigit byte value) :
    hexByte? byte = some value := by
  simp only [hexByte?, UInt8.le_iff_toNat_le, UInt8.reduceToNat]
  cases digit with
  | decimal lower upper => rw [if_pos ⟨lower, upper⟩]
  | upperCase lower upper =>
      rw [if_neg (by omega), if_pos ⟨lower, upper⟩]
      congr 1
      omega
  | lowerCase lower upper =>
      rw [if_neg (by omega), if_neg (by omega), if_pos ⟨lower, upper⟩]
      congr 1
      omega

theorem hexUnit?_of_hexDigit
    {a b c d : UInt8}
    {p q r s : Nat}
    (first : HexDigit a p)
    (second : HexDigit b q)
    (third : HexDigit c r)
    (fourth : HexDigit d s) :
    hexUnit? a b c d = some (((p * 16 + q) * 16 + r) * 16 + s) := by
  simp [hexUnit?, hexByte?_of_hexDigit first, hexByte?_of_hexDigit second,
    hexByte?_of_hexDigit third, hexByte?_of_hexDigit fourth]

variable {read raw : Bytes} {char : Char}

theorem unescape_of_ne {byte : UInt8} (notBackslash : byte ≠ 0x5c) :
    unescape read (byte :: raw) = unescape (byte :: read) raw := by
  rw [unescape.eq_def]
  split <;> simp_all

theorem unescape_visible
    {visible : Bytes}
    (plain : ∀ byte ∈ visible, byte ≠ 0x22 ∧ byte ≠ 0x5c ∧ 0x20 ≤ byte.toNat) :
    unescape read (visible ++ raw) = unescape (visible.reverse ++ read) raw := by
  induction visible generalizing read with
  | nil => rfl
  | cons byte more induction =>
      obtain ⟨⟨-, notBackslash, -⟩, others⟩ := List.forall_mem_cons.mp plain
      rw [List.cons_append, unescape_of_ne notBackslash, induction others]
      simp

/-- No character has the code of a surrogate. -/
theorem not_surrogate_toNat (char : Char) :
    isLowSurrogate char.toNat = false ∧ isHighSurrogate char.toNat = false := by
  have valid : char.toNat < 0xD800 ∨ (0xDFFF < char.toNat ∧ char.toNat < 0x110000) := char.valid
  simp only [isLowSurrogate, isHighSurrogate, decide_eq_false_iff_not]
  omega

theorem unescape_char {written : Bytes} (spells : SpellsChar char written) :
    unescape read (written ++ raw) =
      unescape ((String.utf8EncodeChar char).reverse ++ read) raw := by
  cases spells with
  | plain visible notQuote notBackslash =>
      exact unescape_visible (plain_utf8EncodeChar visible notQuote notBackslash)
  | short listed =>
      simp only [shortEscapes, List.mem_cons, Prod.mk.injEq, List.not_mem_nil, or_false] at listed
      rcases listed with ⟨rfl, rfl⟩ | ⟨rfl, rfl⟩ | ⟨rfl, rfl⟩ | ⟨rfl, rfl⟩ | ⟨rfl, rfl⟩ |
        ⟨rfl, rfl⟩ | ⟨rfl, rfl⟩ | ⟨rfl, rfl⟩ <;> rfl
  | code written =>
      generalize same : char.toNat = code at written
      obtain ⟨first, second, third, fourth⟩ := written
      have digits := hexUnit?_of_hexDigit first second third fourth
      rw [← same] at digits
      obtain ⟨notLow, notHigh⟩ := not_surrogate_toNat char
      simp [unescape, digits, notLow, notHigh, pushCode]
  | @pair highDigits lowDigits high low writtenHigh writtenLow isHigh isLow code =>
      have highIsHigh : isHighSurrogate high = true := by simpa [isHighSurrogate] using isHigh
      have lowIsLow : isLowSurrogate low = true := by simpa [isLowSurrogate] using isLow
      have highIsNotLow : isLowSurrogate high = false := by
        simp only [isLowSurrogate, decide_eq_false_iff_not]
        omega
      have whole : pairCode high low = char.toNat := code.symm
      obtain ⟨first, second, third, fourth⟩ := writtenHigh
      obtain ⟨fifth, sixth, seventh, eighth⟩ := writtenLow
      simp only [List.cons_append, List.nil_append, unescape,
        hexUnit?_of_hexDigit first second third fourth,
        hexUnit?_of_hexDigit fifth sixth seventh eighth, highIsNotLow, highIsHigh, lowIsLow, whole,
        pushCode, Char.ofNat_toNat, if_true, if_false, Bool.false_eq_true]

theorem unescape_chars {chars : List Char} {written : Bytes} (spells : SpellsChars chars written) :
    unescape read written = some (read.reverse ++ chars.flatMap String.utf8EncodeChar) := by
  induction spells generalizing read with
  | nil => simp [unescape]
  | cons first others induction =>
      rw [unescape_char first, induction]
      simp

/-- The raw bytes of a string are read as the text that they spell. -/
theorem unquote?_of_spells {text : String} (spells : SpellsChars text.toList raw) :
    unquote? raw = some text := by
  rw [unquote?, unescape_chars spells, List.reverse_nil, List.nil_append, ← utf8_eq_flatMap]
  exact ofUtf8?_utf8 text

end WorkGate.Json
