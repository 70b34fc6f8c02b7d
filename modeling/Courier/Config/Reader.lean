import Courier.Config
import Courier.Json.Reader

/-!
# Reading configurations

A configuration is read from an object, in which each setting may stand once and unknown members
are passed over, or from an array of the settings in their order. Settings that are not given have
their usual values. A value of the wrong kind is unexpected; numbers have to be written as
integers. Faults count in the order of the text, and a setting that is given twice is a fault
before its second value.
-/

namespace Courier.Config

open Json

/-! ## Settings -/

/-- The names of the settings. -/
inductive Key
  | version
  | followsRedirects
  | maxRedirects
  | readTimeoutMs
  | stripsCredentials
  | userAgent
deriving DecidableEq, Repr

namespace Key

/-- The settings in their order. -/
def all : List Key :=
  [version, followsRedirects, maxRedirects, readTimeoutMs, stripsCredentials, userAgent]

def name : Key → String
  | version => "version"
  | followsRedirects => "follow_redirects"
  | maxRedirects => "max_redirects"
  | readTimeoutMs => "read_timeout_ms"
  | stripsCredentials => "strip_sensitive_headers_on_redirect"
  | userAgent => "user_agent"

/-- The setting of a name. -/
def ofName? (name : String) : Option Key :=
  all.find? (·.name == name)

end Key

/-! ## Values -/

/-- Reads a value that is of no use here. Arrays and objects are not read to their end. -/
def readUnexpected {α : Type} (b : UInt8) (o : Octets) : Except ReadError α := do
  if b != 91 && b != 123 then
    let _ ← readScalar b o
  throw .unexpected

def readBool (o : Octets) : Except ReadError (Bool × Octets) := do
  let (b, rest) ← peek o
  if b == 116 then return (true, ← expect wordTrue rest)
  else if b == 102 then return (false, ← expect wordFalse rest)
  else readUnexpected b rest

/-- Reads an integer from zero up to below `bound`. -/
def readNat (bound : Nat) (o : Octets) : Except ReadError (Nat × Octets) := do
  let (b, rest) ← peek o
  if b == 45 || isDigit b then
    let (n, rest) ← readNumberText rest
    match ← n.value with
    | .integer (.ofNat n) => if n < bound then return (n, rest) else throw .unexpected
    | _ => throw .unexpected
  else readUnexpected b rest

def readText (o : Octets) : Except ReadError (String × Octets) := do
  let (b, rest) ← peek o
  if b == 34 then readString rest else readUnexpected b rest

def readNull (o : Octets) : Except ReadError Octets := do
  let (b, rest) ← peek o
  if b == 110 then expect wordNull rest else readUnexpected b rest

/-- Reads a value or null. -/
def readOption {α : Type} (read : Octets → Except ReadError (α × Octets)) (o : Octets) :
    Except ReadError (Option α × Octets) := do
  let (b, rest) ← peek o
  if b == 110 then return (none, ← expect wordNull rest)
  else
    let (a, rest) ← read rest
    return (some a, rest)

/-- Reads the name of a version. -/
def readVersionName (o : Octets) : Except ReadError (ConfigVersion × Octets) := do
  let (name, rest) ← readText o
  match ConfigVersion.ofName? name with
  | some v => return (v, rest)
  | none => throw .unexpected

/-- Reads a version: its name, or an object in which null stands under its name. -/
def readVersion (o : Octets) : Except ReadError (ConfigVersion × Octets) := do
  let (b, rest) ← peek o
  if b == 34 then readVersionName rest
  else if b == 123 then
    let (b, rest) ← peek (rest.drop 1)
    if b ≠ 34 then throw .malformed
    let (v, rest) ← readVersionName rest
    let rest ← readNull (← punctuation 58 rest)
    return (v, ← punctuation 125 rest)
  else throw .malformed

/-! ## Configurations -/

/-- The settings that a text gives. -/
structure Given where
  version : Option ConfigVersion := none
  followsRedirects : Option Bool := none
  maxRedirects : Option Nat := none
  readTimeoutMs : Option (Option Nat) := none
  stripsCredentials : Option Bool := none
  userAgent : Option (Option String) := none

namespace Given

/-- Whether a setting is given. -/
def has (g : Given) : Key → Bool
  | .version => g.version.isSome
  | .followsRedirects => g.followsRedirects.isSome
  | .maxRedirects => g.maxRedirects.isSome
  | .readTimeoutMs => g.readTimeoutMs.isSome
  | .stripsCredentials => g.stripsCredentials.isSome
  | .userAgent => g.userAgent.isSome

/-- Reads the value of a setting. -/
def readValue (g : Given) (k : Key) (o : Octets) : Except ReadError (Given × Octets) :=
  match k with
  | .version => return (← readVersion o).map (fun v => { g with version := some v }) id
  | .followsRedirects =>
    return (← readBool o).map (fun b => { g with followsRedirects := some b }) id
  | .maxRedirects =>
    return (← readNat (Nat.pow 2 32) o).map (fun n => { g with maxRedirects := some n }) id
  | .readTimeoutMs =>
    let limit := Nat.pow 2 64
    return (← readOption (readNat limit) o).map (fun n => { g with readTimeoutMs := some n }) id
  | .stripsCredentials =>
    return (← readBool o).map (fun b => { g with stripsCredentials := some b }) id
  | .userAgent =>
    return (← readOption readText o).map (fun t => { g with userAgent := some t }) id

/-- Reads the members of an object and its closing brace. -/
def readMembers : Nat → Bool → Given → Octets → Except ReadError (Given × Octets)
  | 0, _, _, _ => .error .malformed
  | fuel + 1, first, g, o => do
    let (more, rest) ← nextMember first o
    if !more then return (g, rest)
    else
      let (name, rest) ← readString rest
      match Key.ofName? name with
      | some k =>
        if g.has k then throw .unexpected
        else
          let (g, rest) ← g.readValue k (← punctuation 58 rest)
          readMembers fuel false g rest
      | none =>
        let rest ← punctuation 58 rest
        readMembers fuel false g (← skipValue (fuelFor rest) rest)

/-- Reads the items of an array, which are these settings, and its closing bracket. -/
def readItems : List Key → Bool → Given → Octets → Except ReadError (Given × Octets)
  | [], _, g, o => return (g, ← punctuation 93 o)
  | k :: keys, first, g, o => do
    let (more, rest) ← nextItem first o
    if !more then return (g, rest)
    else
      let (g, rest) ← g.readValue k rest
      readItems keys false g rest

/-- The configuration in which all other settings have their usual values. -/
def toConfig (g : Given) : Config :=
  let usual : Config := {}
  { version := g.version.getD usual.version
    followsRedirects := g.followsRedirects.getD usual.followsRedirects
    maxRedirects := (g.maxRedirects.map UInt32.ofNat).getD usual.maxRedirects
    readTimeoutMs := (g.readTimeoutMs.map (·.map UInt64.ofNat)).getD usual.readTimeoutMs
    stripsCredentials := g.stripsCredentials.getD usual.stripsCredentials
    userAgent := g.userAgent.getD usual.userAgent }

end Given

/-- Reads an object or array of settings. -/
def readGiven (o : Octets) : Except ReadError (Given × Octets) := do
  let (b, rest) ← peek o
  if b == 123 then Given.readMembers (fuelFor rest) true {} (rest.drop 1)
  else if b == 91 then Given.readItems Key.all true {} (rest.drop 1)
  else readUnexpected b rest

/-- Reads a configuration. -/
def read (o : Octets) : Except ReadError Config := do
  return (← finish (readGiven o)).toConfig

end Courier.Config
