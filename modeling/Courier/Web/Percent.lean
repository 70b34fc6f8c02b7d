import Courier.Octets

/-!
# Percent encoding

Each part of a web address has a set of characters that cannot stand in it as they are. Such a
character is written as one percent sign and two hexadecimal digits per UTF-8 octet. The sets
are predicates; every one of them holds all controls and everything outside ASCII.
-/

namespace Courier.Web

/-- Controls and all that lies outside ASCII. -/
def isControl (c : Char) : Bool :=
  c < ' ' || '~' < c

/-- What a fragment cannot hold. -/
def isFragmentEscaped (c : Char) : Bool :=
  isControl c || " \"<>\x60".toList.contains c

/-- What a path cannot hold. -/
def isPathEscaped (c : Char) : Bool :=
  isFragmentEscaped c || "#?\x7b\x7d".toList.contains c

/-- What user name and password cannot hold. -/
def isUserinfoEscaped (c : Char) : Bool :=
  isPathEscaped c || "/:;=@[\\]^|".toList.contains c

/-- What a query cannot hold; a special scheme escapes the apostrophe too. -/
def isQueryEscaped (special : Bool) (c : Char) : Bool :=
  isControl c || " \"#<>".toList.contains c || (special && c == '\'')

/-- The upper-case hexadecimal digit of a number below sixteen. -/
def upperHexDigit (n : Nat) : Char :=
  (hexDigit n).toUpper

/-- A percent sign and two upper-case hexadecimal digits. -/
def escapeOctet (b : UInt8) : Text :=
  ['%', upperHexDigit (b.toNat / 16), upperHexDigit (b.toNat % 16)]

/-- One character, escaped if it is in the set. -/
def escapeChar (escaped : Char → Bool) (c : Char) : Text :=
  if escaped c then (Octets.ofText [c]).flatMap escapeOctet else [c]

/-- A text with the characters of the set escaped. -/
def percentEncode (escaped : Char → Bool) (t : Text) : Text :=
  t.flatMap (escapeChar escaped)

/-- The octets of a text, where a percent sign before two hexadecimal digits stands for the octet
they write. A percent sign that stands otherwise is itself. -/
def percentDecode : Text → Octets
  | '%' :: a :: b :: rest =>
    if isHexDigit a && isHexDigit b then
      UInt8.ofNat (hexDigitValue a * 16 + hexDigitValue b) :: percentDecode rest
    else 37 :: percentDecode (a :: b :: rest)
  | c :: rest => Octets.ofText [c] ++ percentDecode rest
  | [] => []

end Courier.Web
