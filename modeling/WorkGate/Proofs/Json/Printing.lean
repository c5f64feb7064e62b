import WorkGate.Proofs.Bytes
import WorkGate.Proofs.Json.Grammar
import WorkGate.Registration

/-!
# What is printed is JSON

A text that is written as a string, as a member or as an object of two fields spells what it is
meant to say, whatever follows it.
-/

namespace WorkGate.Json

/-- The digits that are printed are hexadecimal digits of their values. -/
theorem exists_hexDigit_lowerDigit
    {value : Nat}
    (small : value < 16) :
    ∃ byte, String.utf8EncodeChar (lowerDigit value) = [byte] ∧ HexDigit byte value := by
  by_cases decimal : value < 10
  · rcases value with _ | _ | _ | _ | _ | _ | _ | _ | _ | _ | value
    all_goals first | exact ⟨_, rfl, .decimal (by decide) (by decide)⟩ | omega
  · rcases value with _ | _ | _ | _ | _ | _ | _ | _ | _ | _ | _ | _ | _ | _ | _ | _ | value
    all_goals first | exact ⟨_, rfl, .lowerCase (by decide) (by decide)⟩ | omega

/-- A character that is escaped or stands for itself spells itself. -/
theorem spellsChar_escape (char : Char) :
    SpellsChar char ((escape char).flatMap String.utf8EncodeChar) := by
  simp only [escape]
  split
  · exact .short (by decide)
  · exact .short (by decide)
  · exact .short (by decide)
  · exact .short (by decide)
  · exact .short (by decide)
  · exact .short (by decide)
  · exact .short (by decide)
  · next notQuote notBackslash _ _ _ _ _ =>
      split
      · next control =>
          obtain ⟨high, writtenHigh, isHigh⟩ :=
            exists_hexDigit_lowerDigit (show char.toNat / 16 < 16 by omega)
          obtain ⟨low, writtenLow, isLow⟩ :=
            exists_hexDigit_lowerDigit (show char.toNat % 16 < 16 by omega)
          have zero : HexDigit 0x30 0 := .decimal (by decide) (by decide)
          have digits := FourDigits.mk zero zero isHigh isLow
          have code :
              ((0 * 16 + 0) * 16 + char.toNat / 16) * 16 + char.toNat % 16 = char.toNat := by
            omega
          rw [code] at digits
          have written :
              ['\\', 'u', '0', '0', lowerDigit (char.toNat / 16),
                  lowerDigit (char.toNat % 16)].flatMap String.utf8EncodeChar =
                0x5c :: 0x75 :: [0x30, 0x30, high, low] := by
            simp only [List.flatMap_cons, List.flatMap_nil, writtenHigh, writtenLow]
            rfl
          rw [written]
          exact .code digits
      · next visible =>
          rw [List.flatMap_singleton]
          exact .plain (Nat.not_lt.mp visible) notQuote notBackslash

theorem spellsChars_escape (chars : List Char) :
    SpellsChars chars ((chars.flatMap escape).flatMap String.utf8EncodeChar) := by
  induction chars with
  | nil => exact .nil
  | cons char others induction =>
      rw [List.flatMap_cons, List.flatMap_append]
      exact .cons (spellsChar_escape char) induction

/-- The bytes of a quoted text: its escapes between two quotes. -/
theorem utf8_quote (text : String) :
    utf8 (quote text) =
      0x22 :: ((text.toList.flatMap escape).flatMap String.utf8EncodeChar ++ [0x22]) := by
  rw [utf8_eq_flatMap, quote, String.toList_ofList, List.flatMap_cons, List.flatMap_append]
  rfl

/-- The text is a spelling of the tree, whatever follows it. -/
def Prints (text : String) (tree : Tree) : Prop :=
  ∀ rest, Spells (.value tree) (utf8 text ++ rest) rest

theorem prints_quote (text : String) : Prints (quote text) (.string text) := by
  intro rest
  rw [utf8_quote, List.cons_append, List.append_assoc]
  exact .string (spellsChars_escape text.toList)

variable {name first second value text : String} {tree firstTree secondTree : Tree}

theorem Prints.spells_padded (prints : Prints text tree) (rest : Bytes) :
    Spells (.padded tree) (utf8 text ++ rest) rest :=
  .padded .none (prints rest) .none

theorem Prints.isText (prints : Prints text tree) : IsText tree (utf8 text) := by
  have spells := prints.spells_padded []
  rwa [List.append_nil] at spells

theorem Prints.spells_member (prints : Prints value tree) (rest : Bytes) :
    Spells (.member name tree) (utf8 (Json.member name value) ++ rest) rest := by
  have written :
      utf8 (Json.member name value) ++ rest =
        0x22 :: ((name.toList.flatMap escape).flatMap String.utf8EncodeChar ++
          0x22 :: 0x3a :: (utf8 value ++ rest)) := by
    simp only [Json.member, utf8_append, utf8_quote, List.cons_append, List.append_assoc]
    rfl
  rw [written]
  exact .member .none (spellsChars_escape name.toList) .none (prints.spells_padded rest)

theorem Prints.objectOfTwo
    (printsFirst : Prints first firstTree)
    (printsSecond : Prints second secondTree)
    {firstName secondName : String} :
    Prints (Json.objectOfTwo (Json.member firstName first) (Json.member secondName second))
      (.object [(firstName, firstTree), (secondName, secondTree)]) := by
  intro rest
  have written :
      utf8 (Json.objectOfTwo (Json.member firstName first) (Json.member secondName second)) ++
          rest =
        0x7b :: (utf8 (Json.member firstName first) ++
          0x2c :: (utf8 (Json.member secondName second) ++ 0x7d :: rest)) := by
    simp only [Json.objectOfTwo, utf8_append, List.append_assoc]
    rfl
  rw [written]
  apply Spells.object
  apply Spells.nextMember (printsFirst.spells_member _)
  apply Spells.lastMember
  exact printsSecond.spells_member _

end WorkGate.Json
