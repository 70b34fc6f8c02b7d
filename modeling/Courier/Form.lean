import Courier.Json.Value

/-!
# Forms

A form is a list of names and values, written as `name=value` with `&` between the pairs. Letters,
digits and `*-._` stand for themselves, a blank is written as a plus sign and any other octet by
percent sign and number.
-/

namespace Courier.Form

/-- A character that stands for itself. -/
def isPlain (c : Char) : Bool :=
  isAsciiAlphanum c || c == '*' || c == '-' || c == '.' || c == '_'

/-- One octet of a name or value. -/
def encodeOctet (b : UInt8) : Text :=
  if isPlain (Char.ofNat b.toNat) then [Char.ofNat b.toNat]
  else if b == 32 then ['+']
  else ['%', (hexDigit (b.toNat / 16)).toUpper, (hexDigit (b.toNat % 16)).toUpper]

/-- A name or value. -/
def encode (s : String) : Text :=
  (Octets.ofString s).flatMap encodeOctet

/-- One pair. -/
def encodePair (pair : String × String) : Text :=
  encode pair.1 ++ '=' :: encode pair.2

/-- Pairs behind a form that is there already, which may be empty. -/
def appendTo (form : Text) (pairs : List (String × String)) : Text :=
  pairs.foldl (fun form pair => form ++ (if form.isEmpty then [] else ['&']) ++ encodePair pair) form

/-- A list of pairs. -/
def encodePairs (pairs : List (String × String)) : Text :=
  appendTo [] pairs

/-! ## Forms from JSON -/

/-- Why a JSON value is not a form. -/
inductive FormError
  | notPairs
  | notAPair
  | notAValue
deriving DecidableEq, Repr

/-- The wording of the reason. -/
def FormError.message : FormError → String
  | .notPairs => "top-level serializer supports only maps and structs"
  | .notAPair => "unsupported pair"
  | .notAValue => "unsupported value"

/-- The text of a member, which has to be a string, a number or a truth value. -/
def valueText : Json → Except FormError String
  | .string s => .ok s
  | .null | .array _ | .object _ => .error .notAValue
  | scalar => .ok (String.ofList scalar.toText)

/-- The form of an object. Nothing and an empty array are the empty form. -/
def ofJson : Json → Except FormError Text
  | .null | .array [] => .ok []
  | .array _ => .error .notAPair
  | .object members => do
    .ok (encodePairs (← members.mapM fun (name, value) => do return (name, ← valueText value)))
  | _ => .error .notPairs

end Courier.Form
