import Mathlib.Data.List.Forall2
import Courier.Json.Reader

/-!
# The grammar of JSON

Which octets are a JSON text: blanks may stand around each of its parts, a character of a string may
stand for itself or be escaped, and nesting has no limit. Strings and numbers are put in relation to
what they say, and an array or object to the texts of its items or members.
-/

namespace Courier.Json

/-- Blanks, any number of them. -/
def IsBlanks (o : Octets) : Prop :=
  ∀ b ∈ o, isBlank b = true

theorem isBlanks_nil : IsBlanks [] := by
  intro b hb
  exact absurd hb List.not_mem_nil

/-! ## Strings -/

/-- The number that four hexadecimal digits write. -/
inductive SpellsUnit : Nat → Octets → Prop
  | mk {a b c d : UInt8} {p q r s : Nat} (ha : hexValue? a = some p) (hb : hexValue? b = some q)
    (hc : hexValue? c = some r) (hd : hexValue? d = some s) :
    SpellsUnit (((p * 16 + q) * 16 + r) * 16 + s) [a, b, c, d]

/-- The characters that have an escape of two characters, and the second of these. -/
def shortEscapes : List (Char × UInt8) :=
  [('"', 34), ('\\', 92), ('/', 47), ('\x08', 98), ('\x0c', 102), ('\n', 110), ('\r', 114),
    ('\t', 116)]

/-- A character within a string: itself, or one of its escapes. -/
inductive SpellsChar (c : Char) : Octets → Prop
  | plain (hlow : ' ' ≤ c) (hquote : c ≠ '"') (hslash : c ≠ '\\') :
    SpellsChar c (String.utf8EncodeChar c)
  | short {mark : UInt8} (h : (c, mark) ∈ shortEscapes) : SpellsChar c [92, mark]
  | unit {o : Octets} (h : SpellsUnit c.toNat o) : SpellsChar c (92 :: 117 :: o)
  | pair {high low : Nat} {o o' : Octets} (h : SpellsUnit high o) (h' : SpellsUnit low o')
    (hhigh : 0xD800 ≤ high ∧ high ≤ 0xDBFF) (hlow : 0xDC00 ≤ low ∧ low ≤ 0xDFFF)
    (hc : c.toNat = 0x10000 + (high - 0xD800) * 0x400 + (low - 0xDC00)) :
    SpellsChar c (92 :: 117 :: o ++ 92 :: 117 :: o')

/-- The characters of a string one after the other. -/
inductive SpellsText : Text → Octets → Prop
  | nil : SpellsText [] []
  | cons {c : Char} {t : Text} {o o' : Octets} (h : SpellsChar c o) (h' : SpellsText t o') :
    SpellsText (c :: t) (o ++ o')

/-- A string in its quotes. -/
inductive SpellsString (s : String) : Octets → Prop
  | mk {o : Octets} (h : SpellsText s.toList o) : SpellsString s (34 :: o ++ [34])

/-! ## Numbers -/

/-- Digits, at least one. -/
def IsDigits (o : Octets) : Prop :=
  o ≠ [] ∧ ∀ b ∈ o, isDigit b = true

/-- The whole part of a number, which only starts with a zero if it is one. -/
def IsWhole (o : Octets) : Prop :=
  IsDigits o ∧ (o.head? = some 48 → o.length = 1)

/-- The decimals of a number, if it has any. -/
inductive SpellsDecimals : Option Octets → Octets → Prop
  | none : SpellsDecimals none []
  | some {o : Octets} (h : IsDigits o) : SpellsDecimals (some o) (46 :: o)

/-- The exponent of a number, if it has one. -/
inductive SpellsExponent : Option Int → Octets → Prop
  | none : SpellsExponent none []
  | plain {mark : UInt8} {o : Octets} (hmark : mark = 101 ∨ mark = 69) (h : IsDigits o) :
    SpellsExponent (some (digitsValue o)) (mark :: o)
  | plus {mark : UInt8} {o : Octets} (hmark : mark = 101 ∨ mark = 69) (h : IsDigits o) :
    SpellsExponent (some (digitsValue o)) (mark :: 43 :: o)
  | minus {mark : UInt8} {o : Octets} (hmark : mark = 101 ∨ mark = 69) (h : IsDigits o) :
    SpellsExponent (some (-(digitsValue o : Int))) (mark :: 45 :: o)

/-- A number: sign, whole part, decimals, exponent. -/
inductive SpellsNumber (n : NumberText) : Octets → Prop
  | mk {decimals exponent : Octets} (hwhole : IsWhole n.whole)
    (hdecimals : SpellsDecimals n.decimals decimals)
    (hexponent : SpellsExponent n.exponent exponent) :
    SpellsNumber n ((if n.negative then [45] else []) ++ n.whole ++ decimals ++ exponent)

/-! ## Arrays and objects -/

/-- What stands before an item: blanks, with a comma among them if the item is not the first. -/
inductive IsLead : Bool → Octets → Prop
  | first {blanks : Octets} (h : IsBlanks blanks) : IsLead true blanks
  | next {before after : Octets} (h : IsBlanks before) (h' : IsBlanks after) :
    IsLead false (before ++ 44 :: after)

/-- Items with these texts, from the first or from a later one on. -/
inductive IsListed : Bool → List Octets → Octets → Prop
  | nil {first : Bool} {blanks : Octets} (h : IsBlanks blanks) : IsListed first [] blanks
  | cons {first : Bool} {lead item o : Octets} {items : List Octets} (h : IsLead first lead)
    (h' : IsListed false items o) : IsListed first (item :: items) (lead ++ item ++ o)

/-- An array of items with these texts. -/
inductive IsArray (items : List Octets) : Octets → Prop
  | mk {o : Octets} (h : IsListed true items o) : IsArray items (91 :: o ++ [93])

/-- A member of an object: its name, a colon, and the text of its value. -/
inductive IsMember (name : String) (value : Octets) : Octets → Prop
  | mk {spelled before after : Octets} (hname : SpellsString name spelled)
    (hbefore : IsBlanks before) (hafter : IsBlanks after) :
    IsMember name value (spelled ++ before ++ 58 :: after ++ value)

/-- An object of members with these names and texts of values. -/
inductive IsObject (members : List (String × Octets)) : Octets → Prop
  | mk {texts : List Octets} {o : Octets}
    (hmembers : List.Forall₂ (fun m text => IsMember m.1 m.2 text) members texts)
    (h : IsListed true texts o) : IsObject members (123 :: o ++ [125])

/-! ## Values -/

/-- The text of a value. -/
inductive IsValue : Octets → Prop
  | word {o : Octets} (h : o = wordNull ∨ o = wordTrue ∨ o = wordFalse) : IsValue o
  | number {n : NumberText} {o : Octets} (h : SpellsNumber n o) : IsValue o
  | string {s : String} {o : Octets} (h : SpellsString s o) : IsValue o
  | array {items : List Octets} {o : Octets} (h : IsArray items o)
    (hitems : ∀ item ∈ items, IsValue item) : IsValue o
  | object {members : List (String × Octets)} {o : Octets} (h : IsObject members o)
    (hmembers : ∀ m ∈ members, IsValue m.2) : IsValue o

/-- The text of a value that is neither an array nor an object. -/
inductive SpellsScalar : Json → Octets → Prop
  | null : SpellsScalar .null wordNull
  | bool (b : Bool) : SpellsScalar (.bool b) (if b then wordTrue else wordFalse)
  | integer {i : Int} {n : NumberText} {o : Octets} (h : SpellsNumber n o)
    (hvalue : n.value = .ok (.integer i)) : SpellsScalar (.integer i) o
  | decimal {negative : Bool} {m : Nat} {e : Int} {n : NumberText} {o : Octets}
    (h : SpellsNumber n o) (hvalue : n.value = .ok (.decimal negative m e)) :
    SpellsScalar (.decimal negative m e) o
  | string {s : String} {o : Octets} (h : SpellsString s o) : SpellsScalar (.string s) o

end Courier.Json
