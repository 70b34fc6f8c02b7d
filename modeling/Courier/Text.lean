/-!
# Text

Rules on characters are stated over lists of characters. This module names that form and
holds the ASCII classes and the few list operations that the parsers share. Every class here
is ASCII only: a character outside ASCII belongs to none of them.
-/

namespace Courier

/-- Text as its list of characters. -/
abbrev Text := List Char

/-- A letter or digit of ASCII. -/
def isAsciiAlphanum (c : Char) : Bool :=
  c.isAlpha || c.isDigit

/-- A hexadecimal digit in either case. -/
def isHexDigit (c : Char) : Bool :=
  c.isDigit || ('a' ≤ c && c ≤ 'f') || ('A' ≤ c && c ≤ 'F')

/-- The value of a hexadecimal digit; zero for any other character. -/
def hexDigitValue (c : Char) : Nat :=
  if c.isDigit then c.toNat - '0'.toNat
  else if 'a' ≤ c && c ≤ 'f' then c.toNat - 'a'.toNat + 10
  else if 'A' ≤ c && c ≤ 'F' then c.toNat - 'A'.toNat + 10
  else 0

/-- The lower-case hexadecimal digit of a number below sixteen. -/
def hexDigit (n : Nat) : Char :=
  if n < 10 then Char.ofNat (n + '0'.toNat) else Char.ofNat (n - 10 + 'a'.toNat)

/-- A character of the tokens that HTTP names are made of. -/
def isTokenChar (c : Char) : Bool :=
  isAsciiAlphanum c || "!#$%&'*+-.^_\x60|~".toList.contains c

namespace Text

/-- ASCII letters in lower case, all else as it is. -/
def lower (t : Text) : Text :=
  t.map Char.toLower

/-- Equality up to the case of ASCII letters. -/
def sameLetters (a b : Text) : Bool :=
  a.lower == b.lower

/-- The text before the first character that satisfies `p`, and the rest from that character on. -/
def breakAt (p : Char → Bool) (t : Text) : Text × Text :=
  (t.takeWhile (!p ·), t.dropWhile (!p ·))

/-- The text before the first `sep`, and the text after it where there is one. -/
def cutAt (sep : Char) (t : Text) : Text × Option Text :=
  match t.breakAt (· == sep) with
  | (before, []) => (before, none)
  | (before, _ :: after) => (before, some after)

/-- The pieces between the characters that satisfy `p`; always at least one. -/
def pieces (p : Char → Bool) : Text → List Text
  | [] => [[]]
  | c :: rest =>
    if p c then [] :: pieces p rest
    else match pieces p rest with
      | [] => [[c]]
      | piece :: more => (c :: piece) :: more

/-- The text without the characters satisfying `p` at its two ends. -/
def trim (p : Char → Bool) (t : Text) : Text :=
  ((t.dropWhile p).reverse.dropWhile p).reverse

/-- The text after `pre`, if it starts with it. -/
def after? (pre t : Text) : Option Text :=
  if pre.isPrefixOf t then some (t.drop pre.length) else none

/-- The number written in base `base` by a digit text, most significant digit first. -/
def digitsValue (base : Nat) (t : Text) : Nat :=
  t.foldl (fun n c => n * base + hexDigitValue c) 0

/-- The number that decimal digits write; a plus sign may stand before them. -/
def toNat? (t : Text) : Option Nat :=
  let digits : Text := match t with
    | '+' :: rest => rest
    | _ => t
  if digits ≠ [] ∧ digits.all Char.isDigit then some (digits.digitsValue 10) else none

/-- The number of octets of the text in UTF-8. -/
def octetLength (t : Text) : Nat :=
  t.foldl (fun n c => n + c.utf8Size) 0

/-- The decimal digits of a number. -/
def ofNat (n : Nat) : Text :=
  Nat.toDigits 10 n

/-- The number `n` in decimal, padded with zeros on the left to `width` digits. -/
def ofNatPadded (width n : Nat) : Text :=
  List.replicate (width - (ofNat n).length) '0' ++ ofNat n

end Text

end Courier
