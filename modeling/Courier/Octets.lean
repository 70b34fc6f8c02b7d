import Courier.Text

/-!
# Octets

Header values, content units and response chunks are lists of octets. Text enters as UTF-8.
-/

namespace Courier

/-- A sequence of octets. -/
abbrev Octets := List UInt8

namespace Octets

/-- The UTF-8 octets of a string. -/
def ofString (s : String) : Octets :=
  s.toUTF8.data.toList

/-- The UTF-8 octets of a text. -/
def ofText (t : Text) : Octets :=
  ofString (String.ofList t)

/-- The string of which these are the UTF-8 octets, if there is one. -/
def toString? (o : Octets) : Option String :=
  String.fromUTF8? ⟨o.toArray⟩

/-- Each octet as the character of its number. -/
def toLatinText (o : Octets) : Text :=
  o.map fun b => Char.ofNat b.toNat

/-- Two lower-case hexadecimal digits for each octet. -/
def toHex (o : Octets) : Text :=
  o.flatMap fun b => [hexDigit (b.toNat / 16), hexDigit (b.toNat % 16)]

/-- ASCII capital letters as small ones, all else as it is. -/
def lowerOctet (b : UInt8) : UInt8 :=
  if 65 ≤ b && b ≤ 90 then b + 32 else b

/-- Equality up to the case of ASCII letters. -/
def sameLetters (a b : Octets) : Bool :=
  a.map lowerOctet == b.map lowerOctet

end Octets

end Courier
