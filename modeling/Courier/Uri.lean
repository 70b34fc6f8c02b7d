import Courier.Text

/-!
# Request targets

A request names its target in one of four forms: a path on the peer that is asked, the asterisk,
an authority alone, or an absolute address. `Uri.parse` reads a text as one of them and
`Uri.toText` writes it. Nothing is decoded: path, query and authority keep the spelling they
came with, a fragment is dropped, and an absolute target always has a path.
-/

namespace Courier

/-- Why a text is not a request target. -/
inductive UriError
  | empty
  | tooLong
  | schemeTooLong
  | invalidCharacter
  | invalidAuthority
  | invalidFormat
deriving DecidableEq, Repr

/-- The wording of the reason. -/
def UriError.message : UriError → String
  | .empty => "empty string"
  | .tooLong => "uri too long"
  | .schemeTooLong => "scheme too long"
  | .invalidCharacter => "invalid uri character"
  | .invalidAuthority => "invalid authority"
  | .invalidFormat => "invalid format"

/-! ## Authorities -/

/-- The authority of a target as it was written: userinfo, host and port. -/
structure Authority where
  text : Text
deriving DecidableEq, Repr

namespace Authority

/-- A character that may stand in an authority besides its delimiters. -/
def isPlainChar (c : Char) : Bool :=
  isAsciiAlphanum c || "!$&'()*+,-.;=_~".toList.contains c

/-- Where an authority ends: at a path, a query or a fragment. -/
def isEnd (c : Char) : Bool :=
  c == '/' || c == '?' || c == '#'

/-- What the check of an authority remembers of the characters before. Colons and percent signs
count since the last userinfo or bracketed host only. -/
structure Scan where
  colons : Nat := 0
  opened : Bool := false
  closed : Bool := false
  percent : Bool := false

/-- Takes one more character of an authority. -/
def Scan.step (s : Scan) (c : Char) : Except UriError Scan :=
  if c == ':' then
    if 8 ≤ s.colons then .error .invalidAuthority else .ok { s with colons := s.colons + 1 }
  else if c == '[' then
    if s.percent || s.opened then .error .invalidAuthority else .ok { s with opened := true }
  else if c == ']' then
    if !s.opened || s.closed then .error .invalidAuthority
    else .ok { s with closed := true, colons := 0, percent := false }
  else if c == '@' then .ok { s with colons := 0, percent := false }
  else if c == '%' then .ok { s with percent := true }
  else if isPlainChar c then .ok s
  else .error .invalidCharacter

/-- Checks a whole authority: brackets close, at most one colon after the host, no percent sign
in the host, and something after the last `@`. -/
def check (t : Text) : Except UriError Authority := do
  let s ← t.foldlM Scan.step {}
  if s.opened != s.closed || 1 < s.colons || t.getLast? == some '@' || s.percent then
    .error .invalidAuthority
  else .ok ⟨t⟩

/-- Reads the authority at the front of a text and returns what follows it. -/
def read (t : Text) : Except UriError (Authority × Text) := do
  let (front, rest) := t.breakAt isEnd
  return (← check front, rest)

/-- Host and port, without the userinfo. -/
def hostAndPort (a : Authority) : Text :=
  (a.text.reverse.takeWhile (· != '@')).reverse

/-- The host; one in brackets keeps them. -/
def host (a : Authority) : Text :=
  match a.hostAndPort with
  | '[' :: rest => '[' :: (rest.takeWhile (· != ']') ++ [']'])
  | plain => plain.takeWhile (· != ':')

/-- The number after the last colon, if it is a port. -/
def port? (a : Authority) : Option Nat :=
  if a.text.contains ':' then
    (Text.toNat? (a.text.reverse.takeWhile (· != ':')).reverse).filter (· < 65536)
  else none

end Authority

/-! ## Targets -/

/-- A request target in one of its four forms. -/
inductive Uri
  | origin (path : Text) (query : Option Text)
  | asterisk
  | authority (name : Authority)
  | absolute (scheme : Text) (name : Authority) (path : Text) (query : Option Text)
deriving DecidableEq, Repr

namespace Uri

def scheme? : Uri → Option Text
  | absolute s _ _ _ => some s
  | _ => none

def authority? : Uri → Option Authority
  | authority a => some a
  | absolute _ a _ _ => some a
  | _ => none

def host? (u : Uri) : Option Text :=
  u.authority?.map Authority.host

def port? (u : Uri) : Option Nat :=
  u.authority?.bind Authority.port?

def path : Uri → Text
  | origin p _ => p
  | asterisk => ['*']
  | authority _ => []
  | absolute _ _ p _ => p

def query? : Uri → Option Text
  | origin _ q => q
  | absolute _ _ _ q => q
  | _ => none

/-- A path with its query. -/
def joinQuery (path : Text) (query : Option Text) : Text :=
  path ++ (query.map ('?' :: ·)).getD []

/-- Path and query as written. -/
def pathAndQuery (u : Uri) : Text :=
  joinQuery u.path u.query?

/-- The written form. -/
def toText (u : Uri) : Text :=
  (u.scheme?.map (· ++ "://".toList)).getD [] ++ (u.authority?.map (·.text)).getD [] ++ u.pathAndQuery

def toString (u : Uri) : String :=
  String.ofList u.toText

instance : ToString Uri := ⟨toString⟩

/-- Whether two targets are the same one: scheme and authority are compared without regard to
the case of letters, path and query exactly. -/
def same (u v : Uri) : Bool :=
  u.scheme?.map Text.lower == v.scheme?.map Text.lower
    && u.authority?.map (·.text.lower) == v.authority?.map (·.text.lower)
    && u.path == v.path && u.query? == v.query?

/-- A character that may stand in a path; those outside ASCII may. -/
def isPathChar (c : Char) : Bool :=
  ('!' ≤ c && c ≤ '~' && !"#<>?\x60".toList.contains c) || '\x80' ≤ c

/-- A character that may stand in a query; those outside ASCII may. -/
def isQueryChar (c : Char) : Bool :=
  ('!' ≤ c && c ≤ '~' && !"\"#<>".toList.contains c) || '\x80' ≤ c

/-- Reads a path with an optional query and drops a fragment. -/
def readPathAndQuery (t : Text) : Except UriError (Text × Option Text) :=
  let (path, query) := Text.cutAt '?' (t.takeWhile (· != '#'))
  if path.all isPathChar && (query.getD []).all isQueryChar then .ok (path, query)
  else .error .invalidCharacter

/-- A character of a scheme name. -/
def isSchemeChar (c : Char) : Bool :=
  isAsciiAlphanum c || c == '+' || c == '-' || c == '.' || c == '~'

/-- The longest scheme name that is read. -/
def maxSchemeLength : Nat := 64

/-- The longest target that is read, in octets. -/
def maxLength : Nat := 65534

/-- Cuts a scheme and its `://` off the front, if the text starts so. The two web schemes are
put in lower case, any other is kept as written. -/
def readScheme (t : Text) : Except UriError (Option (Text × Text)) :=
  let (name, rest) := t.breakAt (!isSchemeChar ·)
  match rest with
  | ':' :: '/' :: '/' :: after =>
    if name.lower == "http".toList || name.lower == "https".toList then .ok (some (name.lower, after))
    else if t.length ≤ 3 then .ok none
    else if maxSchemeLength < name.length then .error .schemeTooLong
    else .ok (some (name, after))
  | _ => .ok none

/-- Reads what follows a scheme: an authority, then a path that is at least the root. -/
def readAbsolute (scheme t : Text) : Except UriError Uri :=
  if t.isEmpty then .error .empty
  else do
    let (name, rest) ← Authority.read t
    if name.text.isEmpty then .error .invalidFormat
    else
      let (path, query) ← readPathAndQuery rest
      .ok (.absolute scheme name (if path.isEmpty then ['/'] else path) query)

/-- Reads an authority that is the whole target. A target of one character that is none is said
to have a wrong character, a longer one a wrong format. -/
def readAuthority (t : Text) : Except UriError Uri := do
  let (name, rest) ← Authority.read t
  if rest.isEmpty then .ok (.authority name)
  else if t.length == 1 then .error .invalidCharacter
  else .error .invalidFormat

/-- Reads a target. -/
def parse (t : Text) : Except UriError Uri :=
  if maxLength < t.octetLength then .error .tooLong
  else if t.isEmpty then .error .empty
  else if t == ['*'] then .ok .asterisk
  else if t.head? == some '/' then do
    let (path, query) ← readPathAndQuery t
    .ok (.origin path query)
  else do
    match ← readScheme t with
    | some (scheme, rest) => readAbsolute scheme rest
    | none => readAuthority t

/-- The root path on the peer that is asked. -/
def root : Uri := .origin ['/'] none

end Uri

end Courier
