import Courier.Octets

/-!
# JSON values

A JSON value and its compact written form. An object is a list of members, which are written in
the order of that list; `ofMembers` puts them in the order of their names, each name once. A number
is an integer where it can be one of 64 bits, and otherwise a floating-point number, which is known
by a decimal and written in a form that depends on its size.
-/

namespace Courier

/-- A JSON value. A `decimal` is `mantissa` times ten to the power `exponent`: the floating-point
number for which it stands, with the fewest digits that tell this from any other. Zero has a sign. -/
inductive Json
  | null
  | bool (value : Bool)
  | integer (value : Int)
  | decimal (negative : Bool) (mantissa : Nat) (exponent : Int)
  | string (text : String)
  | array (items : List Json)
  | object (members : List (String × Json))
deriving Repr

namespace Json

/-- Puts a member into a list ordered by name; an earlier member of the name goes. -/
def insertMember (name : String) (value : Json) : List (String × Json) → List (String × Json)
  | [] => [(name, value)]
  | (n, v) :: rest =>
    if name < n then (name, value) :: (n, v) :: rest
    else if name == n then (name, value) :: rest
    else (n, v) :: insertMember name value rest

/-- The object with these members, of which the last one of a name counts. -/
def ofMembers (members : List (String × Json)) : Json :=
  .object (members.foldl (fun list (name, value) => insertMember name value list) [])

/-! ## Writing -/

/-- A character inside a written string. -/
def escapeChar (c : Char) : Text :=
  if c == '"' || c == '\\' then ['\\', c]
  else if c == '\x08' then ['\\', 'b']
  else if c == '\t' then ['\\', 't']
  else if c == '\n' then ['\\', 'n']
  else if c == '\x0c' then ['\\', 'f']
  else if c == '\r' then ['\\', 'r']
  else if c < ' ' then
    ['\\', 'u', '0', '0', hexDigit (c.toNat / 16), hexDigit (c.toNat % 16)]
  else [c]

/-- A written string. -/
def stringText (s : String) : Text :=
  '"' :: s.toList.flatMap escapeChar ++ ['"']

/-- A written integer. -/
def integerText : Int → Text
  | .ofNat n => Text.ofNat n
  | .negSucc n => '-' :: Text.ofNat (n + 1)

/-- The digits of a number without the zeros at its end. -/
def significantDigits (n : Nat) : Text :=
  ((Text.ofNat n).reverse.dropWhile (· == '0')).reverse

/-- Digits with a point behind the first `point` of them, which may be none or less. A number that
is large or very small is written with an exponent, and any other with decimals. -/
def placePoint (digits : Text) (point : Int) : Text :=
  if 0 < point ∧ point ≤ 16 then
    if digits.length ≤ point.toNat then
      digits ++ List.replicate (point.toNat - digits.length) '0' ++ ".0".toList
    else digits.take point.toNat ++ '.' :: digits.drop point.toNat
  else if -5 < point ∧ point ≤ 0 then
    "0.".toList ++ (List.replicate (-point).toNat '0' ++ digits)
  else
    digits.take 1 ++ (if digits.length ≤ 1 then [] else '.' :: digits.drop 1)
      ++ 'e' :: integerText (point - 1)

/-- A written decimal without its sign. -/
def decimalText (mantissa : Nat) (exponent : Int) : Text :=
  if significantDigits mantissa = [] then "0.0".toList
  else placePoint (significantDigits mantissa) ((Text.ofNat mantissa).length + exponent)

mutual

/-- The compact written form. -/
def toText : Json → Text
  | null => "null".toList
  | bool b => if b then "true".toList else "false".toList
  | integer i => integerText i
  | decimal negative m e => (if negative then ['-'] else []) ++ decimalText m e
  | string s => stringText s
  | array [] => ['[', ']']
  | array (first :: rest) => '[' :: first.toText ++ itemsText rest ++ [']']
  | object [] => ['\x7b', '\x7d']
  | object ((name, value) :: rest) =>
    '\x7b' :: stringText name ++ ':' :: value.toText ++ membersText rest ++ ['\x7d']

/-- The items after the first, with a comma before each. -/
def itemsText : List Json → Text
  | [] => []
  | item :: rest => ',' :: item.toText ++ itemsText rest

/-- The members after the first, with a comma before each. -/
def membersText : List (String × Json) → Text
  | [] => []
  | (name, value) :: rest => ',' :: stringText name ++ ':' :: value.toText ++ membersText rest

end

example : ([decimal false 15 (-1), decimal true 0 0, decimal false 1 3, decimal false 1 16,
    decimal true 25 (-6), decimal false 123 (-9)].map (String.ofList ·.toText)) =
      ["1.5", "-0.0", "1000.0", "1e16", "-0.000025", "1.23e-7"] := by
  decide

end Json

end Courier
