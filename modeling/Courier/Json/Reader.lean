import Courier.Json.Binary64
import Courier.Json.Value

/-!
# Reading JSON

A reader takes octets from the front of its input and returns what it read with what is left. It
fails in one of three ways: the text is malformed, the text ends too early, or the value is not
of the kind that was asked for. Of several faults the first in the text counts. `skipValue`
passes over a value that nobody needs; it is more lenient with large numbers and surrogates and
has no limit on nesting. Every call that enters a value, an item or a member uses up one unit of
fuel and at least one octet, so that the length of the input is fuel enough.
-/

namespace Courier.Json

/-- Why a text could not be read. -/
inductive ReadError
  | malformed
  | unfinished
  | unexpected
deriving DecidableEq, Repr

/-- Blank, tab, line feed and carriage return. -/
def isBlank (b : UInt8) : Bool :=
  b == 32 || b == 9 || b == 10 || b == 13

def skipBlanks (o : Octets) : Octets :=
  o.dropWhile isBlank

/-- The first octet that is not blank; the rest starts with it. -/
def peek (o : Octets) : Except ReadError (UInt8 × Octets) :=
  match skipBlanks o with
  | [] => .error .unfinished
  | b :: rest => .ok (b, b :: rest)

/-- Takes exactly these octets. -/
def expect : Octets → Octets → Except ReadError Octets
  | [], o => .ok o
  | _ :: _, [] => .error .unfinished
  | w :: word, b :: o => if w == b then expect word o else .error .malformed

/-- Takes one octet after blanks. -/
def punctuation (mark : UInt8) (o : Octets) : Except ReadError Octets := do
  let (b, rest) ← peek o
  if b == mark then .ok (rest.drop 1) else .error .malformed

/-! ## Words and numbers -/

def wordNull : Octets := Octets.ofString "null"
def wordTrue : Octets := Octets.ofString "true"
def wordFalse : Octets := Octets.ofString "false"

def isDigit (b : UInt8) : Bool :=
  48 ≤ b && b ≤ 57

/-- The digits at the front, of which there has to be one. -/
def digits (o : Octets) : Except ReadError (Octets × Octets) :=
  match o with
  | [] => .error .unfinished
  | b :: _ =>
    if isDigit b then .ok (o.takeWhile isDigit, o.dropWhile isDigit) else .error .malformed

/-- The number that a run of digits writes. -/
def digitsValue (o : Octets) : Nat :=
  o.foldl (fun n b => n * 10 + (b.toNat - 48)) 0

/-- A number as it was written: sign, whole part, decimals, exponent. -/
structure NumberText where
  negative : Bool
  whole : Octets
  decimals : Option Octets
  exponent : Option Int

/-- Reads the decimals after a point, if there is one. -/
def readDecimals (o : Octets) : Except ReadError (Option Octets × Octets) :=
  match o with
  | 46 :: rest => do
    let (ds, rest) ← digits rest
    .ok (some ds, rest)
  | _ => .ok (none, o)

/-- Reads the exponent after its letter, if there is one. -/
def readExponent (o : Octets) : Except ReadError (Option Int × Octets) :=
  match o with
  | b :: rest =>
    if b == 101 || b == 69 then do
      let negative := rest.head? == some 45
      let signed := negative || rest.head? == some 43
      let (ds, rest) ← digits (if signed then rest.drop 1 else rest)
      let n : Int := digitsValue ds
      .ok (some (if negative then -n else n), rest)
    else .ok (none, o)
  | [] => .ok (none, o)

/-- Reads a number. Only a lone zero starts with a zero. -/
def readNumberText (o : Octets) : Except ReadError (NumberText × Octets) := do
  let negative := o.head? == some 45
  let (whole, rest) ← digits (if negative then o.drop 1 else o)
  if whole.head? == some 48 && whole.length ≠ 1 then .error .malformed
  else
    let (decimals, rest) ← readDecimals rest
    let (exponent, rest) ← readExponent rest
    .ok (⟨negative, whole, decimals, exponent⟩, rest)

namespace NumberText

/-- The integer of 64 bits that was written, if it is one. Negative zero is none. -/
def integer? (n : NumberText) : Option Int :=
  let value := digitsValue n.whole
  if n.decimals.isSome || n.exponent.isSome then none
  else if n.negative then
    if 0 < value && value ≤ Nat.pow 2 63 then some (-(value : Int)) else none
  else if value < Nat.pow 2 64 then some value else none

/-- The digits of whole part and decimals as one number. -/
def mantissa (n : NumberText) : Nat :=
  digitsValue (n.whole ++ n.decimals.getD [])

/-- The power of ten that the mantissa is multiplied with. -/
def scale (n : NumberText) : Int :=
  n.exponent.getD 0 - (n.decimals.getD []).length

/-- Takes over the decimal digits that a significand below 2^64 has room for, from the front on.
The rest starts with the first digit that does not fit. -/
def fillSignificand (s : Nat) : Octets → Nat × Octets
  | [] => (s, [])
  | d :: rest =>
    let next := s * 10 + (d.toNat - 48)
    if next < Nat.pow 2 64 then fillSignificand next rest else (s, d :: rest)

/-- The significand and the power of ten of a number. A digit of the whole part that finds no
room still counts as a place, one of the decimals is dropped. -/
def scaled (n : NumberText) : Nat × Int :=
  let (s, dropped) := fillSignificand 0 n.whole
  let decimals := n.decimals.getD []
  let (t, unused) := fillSignificand s decimals
  (t, dropped.length - (decimals.length - unused.length : Int) + n.exponent.getD 0)

/-- Whether the number is too large for a floating-point number. Significand and power of ten are
rounded each before they are multiplied. -/
def overflows (n : NumberText) : Bool :=
  let (s, e) := n.scaled
  if s == 0 || e < 0 then false
  else if 308 < e then true
  else
    Binary64.limit
      ≤ Binary64.nearest (Binary64.nearest s * Binary64.nearest (Nat.pow 10 e.toNat))

/-- The value of a number. -/
def value (n : NumberText) : Except ReadError Json :=
  match n.integer? with
  | some i => .ok (.integer i)
  | none =>
    if n.overflows then .error .malformed
    else .ok (.decimal n.negative n.mantissa n.scale)

end NumberText

/-! ## Strings -/

/-- The value of a hexadecimal digit. -/
def hexValue? (b : UInt8) : Option Nat :=
  let c := Char.ofNat b.toNat
  if isHexDigit c then some (hexDigitValue c) else none

/-- Four hexadecimal digits. -/
def readHex : Octets → Except ReadError (Nat × Octets)
  | a :: b :: c :: d :: rest =>
    match hexValue? a, hexValue? b, hexValue? c, hexValue? d with
    | some a, some b, some c, some d => .ok (((a * 16 + b) * 16 + c) * 16 + d, rest)
    | _, _, _, _ => .error .malformed
  | _ => .error .unfinished

/-- Takes one octet without skipping blanks. -/
def exactly (mark : UInt8) : Octets → Except ReadError Octets
  | [] => .error .unfinished
  | b :: rest => if b == mark then .ok rest else .error .malformed

/-- The octets of an escaped code unit. In a string that is kept, the two halves of a pair of
surrogates have to follow each other. -/
def readUnit (keep : Bool) (o : Octets) : Except ReadError (Octets × Octets) := do
  let (n, rest) ← readHex o
  if !keep then .ok ([], rest)
  else if 0xDC00 ≤ n && n ≤ 0xDFFF then .error .malformed
  else if 0xD800 ≤ n && n ≤ 0xDBFF then do
    let rest ← exactly 92 rest
    let rest ← exactly 117 rest
    let (m, rest) ← readHex rest
    if 0xDC00 ≤ m && m ≤ 0xDFFF then
      .ok (Octets.ofText [Char.ofNat (0x10000 + (n - 0xD800) * 0x400 + (m - 0xDC00))], rest)
    else .error .malformed
  else .ok (Octets.ofText [Char.ofNat n], rest)

/-- The octets that an escape stands for, read after its backslash. -/
def readEscape (keep : Bool) : Octets → Except ReadError (Octets × Octets)
  | [] => .error .unfinished
  | b :: rest =>
    if b == 34 || b == 92 || b == 47 then .ok ([b], rest)
    else if b == 98 then .ok ([8], rest)
    else if b == 102 then .ok ([12], rest)
    else if b == 110 then .ok ([10], rest)
    else if b == 114 then .ok ([13], rest)
    else if b == 116 then .ok ([9], rest)
    else if b == 117 then readUnit keep rest
    else .error .malformed

/-- The octets of a string up to its closing quote, which is taken too. -/
def readContent (keep : Bool) : Nat → Octets → Except ReadError (Octets × Octets)
  | 0, _ => .error .malformed
  | _ + 1, [] => .error .unfinished
  | fuel + 1, b :: rest =>
    if b == 34 then .ok ([], rest)
    else if b == 92 then do
      let (part, rest) ← readEscape keep rest
      let (more, rest) ← readContent keep fuel rest
      .ok (part ++ more, rest)
    else if b < 32 then .error .malformed
    else do
      let (more, rest) ← readContent keep fuel rest
      .ok (b :: more, rest)

/-- Reads a string whose opening quote is next. -/
def readString (o : Octets) : Except ReadError (String × Octets) := do
  let (content, rest) ← readContent true o.length (o.drop 1)
  match content.toString? with
  | some s => .ok (s, rest)
  | none => .error .malformed

/-- Passes over a string whose opening quote is next. -/
def skipString (o : Octets) : Except ReadError Octets := do
  let (_, rest) ← readContent false o.length (o.drop 1)
  .ok rest

/-! ## Items and members -/

/-- Steps to the next item of an array: whether there is one, and the input from there on. -/
def nextItem (first : Bool) (o : Octets) : Except ReadError (Bool × Octets) := do
  let (b, rest) ← peek o
  if b == 93 then .ok (false, rest.drop 1)
  else if first then .ok (true, rest)
  else if b == 44 then
    let (b, rest) ← peek (rest.drop 1)
    if b == 93 then .error .malformed else .ok (true, rest)
  else .error .malformed

/-- Steps to the next member of an object: whether there is one, and the input from the opening
quote of its name on. -/
def nextMember (first : Bool) (o : Octets) : Except ReadError (Bool × Octets) := do
  let (b, rest) ← peek o
  if b == 125 then .ok (false, rest.drop 1)
  else if first then
    if b == 34 then .ok (true, rest) else .error .malformed
  else if b == 44 then
    let (b, rest) ← peek (rest.drop 1)
    if b == 34 then .ok (true, rest) else .error .malformed
  else .error .malformed

/-! ## Values -/

/-- How deep values may be nested, the outermost array or object counting as one. -/
def maxDepth : Nat := 127

/-- Reads a value that is not an array or object; `b` is its first octet. -/
def readScalar (b : UInt8) (o : Octets) : Except ReadError (Json × Octets) :=
  if b == 110 then return (.null, ← expect wordNull o)
  else if b == 116 then return (.bool true, ← expect wordTrue o)
  else if b == 102 then return (.bool false, ← expect wordFalse o)
  else if b == 34 then do
    let (s, rest) ← readString o
    .ok (.string s, rest)
  else if b == 45 || isDigit b then do
    let (n, rest) ← readNumberText o
    .ok (← n.value, rest)
  else .error .malformed

mutual

/-- Reads a value that may be nested `depth` deep. -/
def readValue : Nat → Nat → Octets → Except ReadError (Json × Octets)
  | 0, _, _ => .error .malformed
  | fuel + 1, depth, o => do
    let (b, rest) ← peek o
    if b == 91 || b == 123 then
      match depth with
      | 0 => .error .malformed
      | depth + 1 =>
        if b == 91 then
          let (items, rest) ← readItems fuel depth true (rest.drop 1)
          .ok (.array items, rest)
        else
          let (members, rest) ← readMembers fuel depth true (rest.drop 1)
          .ok (ofMembers members, rest)
    else readScalar b rest

/-- Reads the items of an array and its closing bracket. -/
def readItems : Nat → Nat → Bool → Octets → Except ReadError (List Json × Octets)
  | 0, _, _, _ => .error .malformed
  | fuel + 1, depth, first, o => do
    let (more, rest) ← nextItem first o
    if !more then .ok ([], rest)
    else
      let (item, rest) ← readValue fuel depth rest
      let (items, rest) ← readItems fuel depth false rest
      .ok (item :: items, rest)

/-- Reads the members of an object and its closing brace. -/
def readMembers : Nat → Nat → Bool → Octets → Except ReadError (List (String × Json) × Octets)
  | 0, _, _, _ => .error .malformed
  | fuel + 1, depth, first, o => do
    let (more, rest) ← nextMember first o
    if !more then .ok ([], rest)
    else
      let (name, rest) ← readString rest
      let rest ← punctuation 58 rest
      let (value, rest) ← readValue fuel depth rest
      let (members, rest) ← readMembers fuel depth false rest
      .ok ((name, value) :: members, rest)

end

/-- Passes over a number. Any fault in it is a malformed text, the end of the input too. -/
def skipNumber (o : Octets) : Except ReadError Octets :=
  match readNumberText o with
  | .ok (_, rest) => .ok rest
  | .error _ => .error .malformed

mutual

/-- Passes over a value. -/
def skipValue : Nat → Octets → Except ReadError Octets
  | 0, _ => .error .malformed
  | fuel + 1, o => do
    let (b, rest) ← peek o
    if b == 91 then skipItems fuel true (rest.drop 1)
    else if b == 123 then skipMembers fuel true (rest.drop 1)
    else if b == 34 then skipString rest
    else if b == 45 || isDigit b then skipNumber rest
    else
      let (_, rest) ← readScalar b rest
      .ok rest

/-- Passes over the items of an array and its closing bracket. -/
def skipItems : Nat → Bool → Octets → Except ReadError Octets
  | 0, _, _ => .error .malformed
  | fuel + 1, first, o => do
    let (more, rest) ← nextItem first o
    if !more then .ok rest
    else skipItems fuel false (← skipValue fuel rest)

/-- Passes over the members of an object and its closing brace. -/
def skipMembers : Nat → Bool → Octets → Except ReadError Octets
  | 0, _, _ => .error .malformed
  | fuel + 1, first, o => do
    let (more, rest) ← nextMember first o
    if !more then .ok rest
    else
      let rest ← punctuation 58 (← skipString rest)
      skipMembers fuel false (← skipValue fuel rest)

end

/-- Nothing but blanks may follow the outermost value. -/
def finish {α : Type} (read : Except ReadError (α × Octets)) : Except ReadError α := do
  let (a, rest) ← read
  if (skipBlanks rest).isEmpty then .ok a else .error .malformed

/-- Fuel enough for any reader on this input. -/
def fuelFor (o : Octets) : Nat :=
  2 * o.length + 2

/-- Reads a text that holds one value. -/
def read (o : Octets) : Except ReadError Json :=
  finish (readValue (fuelFor o) maxDepth o)

end Courier.Json
