import Courier.Inspect.Hidden

/-!
# Inspection text

The one-line form in which a value is shown to a programmer. Text stands in quotes and its hidden
characters are written by number; records, tuples, lists and maps have one layout each.
-/

namespace Courier

/-- Values with an inspection text. -/
class Inspect (α : Type) where
  inspect : α → String

export Inspect (inspect)

namespace Inspect

/-- A character by its number. -/
def byNumber (c : Char) : String :=
  "\\u\x7b" ++ String.ofList (Nat.toDigits 16 c.toNat) ++ "\x7d"

/-- A character inside quotes of the kind `quote`. -/
def escapeChar (quote c : Char) : String :=
  if c == '\x00' then "\\0"
  else if c == '\t' then "\\t"
  else if c == '\n' then "\\n"
  else if c == '\r' then "\\r"
  else if c == '\\' || c == quote then String.ofList ['\\', c]
  else if isHidden c then byNumber c
  else c.toString

/-- A character in single quotes. -/
def quotedChar (c : Char) : String :=
  "'" ++ escapeChar '\'' c ++ "'"

/-- A text in double quotes. -/
def quoted (s : String) : String :=
  "\"" ++ String.join (s.toList.map (escapeChar '"')) ++ "\""

/-- Items with commas between them. -/
def commas (items : List String) : String :=
  ", ".intercalate items

/-- A record with all of its fields. -/
def record (name : String) (fields : List (String × String)) : String :=
  name ++ " \x7b " ++ commas (fields.map fun (f, v) => f ++ ": " ++ v) ++ " \x7d"

/-- A record that has more fields than it shows. -/
def openRecord (name : String) (fields : List (String × String)) : String :=
  name ++ " \x7b " ++ commas (fields.map (fun (f, v) => f ++ ": " ++ v) ++ [".."]) ++ " \x7d"

/-- A constructor with its arguments. -/
def tuple (name : String) (arguments : List String) : String :=
  name ++ "(" ++ commas arguments ++ ")"

instance : Inspect Bool := ⟨fun b => if b then "true" else "false"⟩

instance : Inspect Nat := ⟨fun n => String.ofList (Nat.toDigits 10 n)⟩

instance : Inspect String := ⟨quoted⟩

instance {α : Type} [Inspect α] : Inspect (Option α) where
  inspect
    | none => "None"
    | some a => tuple "Some" [inspect a]

instance {α β : Type} [Inspect α] [Inspect β] : Inspect (α × β) where
  inspect p := tuple "" [inspect p.1, inspect p.2]

instance {α : Type} [Inspect α] : Inspect (List α) where
  inspect list := "[" ++ commas (list.map inspect) ++ "]"

end Inspect

end Courier
