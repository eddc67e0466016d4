import Intake.Text.Digits

/-! Universally unique identifiers: 128 bits, their hyphenated text, and the forms that are read. -/

namespace Intake

/-- An identifier of 128 bits. -/
structure Uuid where
  value : BitVec 128
deriving DecidableEq, Repr

namespace Uuid

/-- The identifier whose bits write a number. -/
def ofNat (n : Nat) : Uuid := ⟨BitVec.ofNat 128 n⟩

/-- Sets the bits that mark an identifier as random. -/
def asRandom (id : Uuid) : Uuid :=
  -- The version stands in bits 76 to 79, the variant in bits 62 and 63.
  let cleared := id.value &&& ~~~((0xF#128 <<< 76) ||| (0x3#128 <<< 62))
  ⟨cleared ||| (0x4#128 <<< 76) ||| (0x2#128 <<< 62)⟩

/-- Whether the bits of an identifier mark it as random. -/
def isRandom (id : Uuid) : Bool :=
  (id.value >>> 76) &&& 0xF#128 = 0x4#128 && (id.value >>> 62) &&& 0x3#128 = 0x2#128

/-- Thirty-two digits in groups of eight, four, four, four and twelve. -/
def hyphenate (digits : List Char) : List Char :=
  digits.take 8 ++ '-' :: (digits.drop 8).take 4 ++ '-' :: (digits.drop 12).take 4 ++
    '-' :: (digits.drop 16).take 4 ++ '-' :: digits.drop 20

/-- The hyphenated text in lower case. -/
def text (id : Uuid) : String := String.ofList (hyphenate (hexDigits 32 id.value.toNat))

/-- The identifier that thirty-two digits write. -/
def ofDigits? (digits : List Char) : Option Uuid :=
  if digits.length = 32 then (readHex? digits).map ofNat else none

/-- The identifier that a hyphenated form writes. -/
def ofHyphenated? (cs : List Char) : Option Uuid :=
  let digits := cs.take 8 ++ (cs.drop 9).take 4 ++ (cs.drop 14).take 4 ++
    (cs.drop 19).take 4 ++ cs.drop 24
  -- The hyphens must stand where the form puts them, and nowhere else.
  if cs = hyphenate digits then ofDigits? digits else none

/-- The hyphenated form inside braces or behind its name as a resource, in any case. -/
def unwrap (cs : List Char) : List Char :=
  if cs.length = 38 ∧ cs.head? = some '\x7b' ∧ cs.getLast? = some '\x7d' then
    (cs.drop 1).take 36
  else if (cs.take 9).map Char.toLower = "urn:uuid:".toList then cs.drop 9
  else cs

/-- Reads thirty-two digits, or the hyphenated form bare, in braces, or as a resource name. -/
def parse? (text : String) : Option Uuid :=
  let cs := text.toList
  if cs.length = 32 then ofDigits? cs else ofHyphenated? (unwrap cs)

end Uuid

end Intake
