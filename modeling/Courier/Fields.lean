import Courier.Field

/-!
# Header lists

A header list keeps its entries in the order in which they were added and may hold a name any
number of times. Lookups take a name in any letter case. `getAll` is the view through which each
operation can be described.
-/

namespace Courier

/-- One header field. -/
structure Field where
  name : FieldName
  value : FieldValue
deriving DecidableEq

/-- A header list (`Headers`). -/
@[ext]
structure Fields where
  entries : List Field := []
deriving DecidableEq

namespace Fields

def empty : Fields := {}

def size (h : Fields) : Nat := h.entries.length

def isEmpty (h : Fields) : Bool := h.entries.isEmpty

/-! ## Lookups -/

/-- All values of a name, in order. -/
def getAll (h : Fields) (name : Text) : List FieldValue :=
  (h.entries.filter (·.name.answers name)).map (·.value)

/-- The first value of a name. -/
def get? (h : Fields) (name : Text) : Option FieldValue :=
  (h.getAll name).head?

/-- The first value of a name, if it is text (`get_str`). -/
def text? (h : Fields) (name : Text) : Option Text :=
  (h.get? name).bind FieldValue.text?

/-- Whether a name is present. -/
def contains (h : Fields) (name : Text) : Bool :=
  h.entries.any (·.name.answers name)

/-- Whether a name has a value with these octets, or with these up to the case of letters
(`contains_value`). -/
def containsValue (h : Fields) (name : Text) (value : Octets) (ignoreCase : Bool) : Bool :=
  (h.getAll name).any fun v =>
    if ignoreCase then v.octets.sameLetters value else v.octets == value

/-- The names in the order of their first entries, each once. -/
def names (h : Fields) : List FieldName :=
  h.entries.foldl (fun seen f => if seen.contains f.name then seen else seen ++ [f.name]) []

/-! ## Changes -/

/-- Adds an entry at the end. -/
def append (h : Fields) (name : FieldName) (value : FieldValue) : Fields :=
  ⟨h.entries ++ [⟨name, value⟩]⟩

/-- Drops all entries of a name. -/
def erase (h : Fields) (name : Text) : Fields :=
  ⟨h.entries.filter (!·.name.answers name)⟩

/-- Drops all entries of a name, and says whether there were any. -/
def remove (h : Fields) (name : Text) : Bool × Fields :=
  let kept := h.erase name
  (h.size != kept.size, kept)

/-- Puts these values in the place of all the values of a name: where the first of them stood, or at
the end if there was none (`replace_all`). -/
def replaceAll (h : Fields) (name : FieldName) (values : List FieldValue) : Fields :=
  let isOther := fun (f : Field) => f.name != name
  ⟨h.entries.takeWhile isOther ++ values.map (⟨name, ·⟩)
    ++ (h.entries.dropWhile isOther).filter isOther⟩

/-- Leaves a name with one value. -/
def insert (h : Fields) (name : FieldName) (value : FieldValue) : Fields :=
  h.replaceAll name [value]

/-- Adds several values of a name at the end. -/
def appendAll (h : Fields) (name : FieldName) (values : List FieldValue) : Fields :=
  values.foldl (·.append name ·) h

/-! ## Comparison and inspection -/

/-- Whether two lists have the same names and octets in the same order. -/
def same (h k : Fields) : Bool :=
  h.size == k.size
    && (h.entries.zip k.entries).all fun (f, g) => f.name == g.name && f.value.same g.value

instance : Inspect Field := ⟨fun f => inspect (f.name, f.value)⟩

instance : Inspect Fields := ⟨fun h => inspect h.entries⟩

end Fields

/-! ## Grouped lists -/

/-- A header list that keeps all values of a name together (`HeaderMap`). A name has its place from
its first entry on. -/
structure GroupedFields where
  groups : List (FieldName × List FieldValue) := []
deriving DecidableEq

namespace GroupedFields

/-- Adds a value behind the others of its name. -/
def append (g : GroupedFields) (name : FieldName) (value : FieldValue) : GroupedFields :=
  if g.groups.any (·.1 == name) then
    ⟨g.groups.map fun (n, values) => if n == name then (n, values ++ [value]) else (n, values)⟩
  else ⟨g.groups ++ [(name, [value])]⟩

/-- Leaves a name with one value, in the place it has. -/
def insert (g : GroupedFields) (name : FieldName) (value : FieldValue) : GroupedFields :=
  if g.groups.any (·.1 == name) then
    ⟨g.groups.map fun (n, values) => if n == name then (n, [value]) else (n, values)⟩
  else ⟨g.groups ++ [(name, [value])]⟩

/-- The first value of a name. -/
def get? (g : GroupedFields) (name : Text) : Option FieldValue :=
  (g.groups.find? (·.1.answers name)).bind (·.2.head?)

/-- Groups a header list. -/
def ofFields (h : Fields) : GroupedFields :=
  h.entries.foldl (fun g f => g.append f.name f.value) {}

/-- The entries one after the other. -/
def toFields (g : GroupedFields) : Fields :=
  ⟨g.groups.flatMap fun (n, values) => values.map (⟨n, ·⟩)⟩

/-- The most entries that a table can make room for. -/
def maxRoom : Nat := 24576

/-- What a table makes of the entries that it is to hold. It may turn entries away however few they
are, where too many of their names fall together in it. -/
structure Room where
  /-- Whether entries with these names, added in this order, all find their place. -/
  takes : List FieldName → Bool
  le_maxRoom : ∀ names, takes names = true → names.length ≤ maxRoom

/-- The room of a table in which no two names fall together. -/
def Room.widest : Room where
  takes names := names.length ≤ maxRoom
  le_maxRoom _ := of_decide_eq_true

/-- Groups a header list (`to_header_map`). Room is made for each of its entries beforehand, as if
no two of them had the same name. -/
def ofFields? (room : Room) (h : Fields) : Option GroupedFields :=
  if room.takes (h.entries.map (·.name)) then some (ofFields h) else none

end GroupedFields

/-- The header list after it was grouped, if it can be. -/
def Fields.regrouped? (h : Fields) (room : GroupedFields.Room) : Option Fields :=
  (GroupedFields.ofFields? room h).map (·.toFields)

end Courier
