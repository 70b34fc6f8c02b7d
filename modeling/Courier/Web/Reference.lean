import Courier.Web.Address

/-!
# References to web addresses

`Address.parse` reads an absolute address and `Address.join` resolves a reference against a base.
Controls and blanks at the two ends of the text do not count, tabs and line breaks nowhere. The
text splits into a body, a query and a fragment once and for all, since no scheme, authority or
path reaches past the first `?` or `#`. The body then decides: it has a scheme of its own, or a
slash, or is a path to be walked from the base. Only the path of a local address is looked at as
it was written, since a drive ends at a tab or line break after its colon.
-/

namespace Courier.Web

/-! ## The parts of a reference -/

/-- Tab and line breaks, which do not count in an address. -/
def isIgnored (c : Char) : Bool :=
  c == '\t' || c == '\n' || c == '\r'

/-- The characters that count. -/
def clean (t : Text) : Text :=
  t.filter (!isIgnored ·)

/-- A reference, cut at its query and its fragment. The part before them is kept as it was
written. -/
structure Reference where
  written : Text
  query : Option Text
  fragment : Option Text
deriving DecidableEq, Repr

namespace Reference

/-- Cuts a text. -/
def ofText (t : Text) : Reference :=
  let (front, fragment) := Text.cutAt '#' (Text.trim (· ≤ ' ') t)
  let (written, query) := Text.cutAt '?' front
  ⟨written, query.map clean, fragment.map clean⟩

/-- Scheme, authority and path. -/
def body (r : Reference) : Text :=
  clean r.written

/-- A text without its first `n` characters that count, from the next such character on. -/
def dropCounted : Nat → Text → Text
  | _, [] => []
  | n, c :: rest =>
    if isIgnored c then dropCounted n rest
    else match n with
      | 0 => c :: rest
      | n + 1 => dropCounted n rest

/-- What was written for the last part of the body. -/
def writtenFor (r : Reference) (part : Text) : Text :=
  dropCounted (r.body.length - part.length) r.written

end Reference

/-- A character of a scheme. -/
def isSchemeChar (c : Char) : Bool :=
  isAsciiAlphanum c || c == '+' || c == '-' || c == '.'

/-- The scheme before a colon, in lower case, and what follows the colon. -/
def splitScheme (body : Text) : Option (Text × Text) :=
  let (name, rest) := Text.breakAt (!isSchemeChar ·) body
  match name, rest with
  | c :: _, ':' :: after => if c.isAlpha then some (Text.lower name, after) else none
  | _, _ => none

/-- A slash; under a special scheme a backslash is one too. -/
def isSlash (special : Bool) (c : Char) : Bool :=
  c == '/' || (special && c == '\\')

/-! ## Sites -/

/-- The userinfo before the last `@` of an authority, cut at its first colon and escaped, and the
authority that remains. An empty password is none. -/
def splitUserinfo (authority : Text) : Option (Text × Option Text) × Text :=
  if authority.contains '@' then
    let host := (authority.reverse.takeWhile (· != '@')).reverse
    let userinfo := authority.take (authority.length - host.length - 1)
    let (name, password) := Text.cutAt ':' userinfo
    let password := (password.filter (!·.isEmpty)).map (percentEncode isUserinfoEscaped)
    (some (percentEncode isUserinfoEscaped name, password), host)
  else (none, authority)

/-- The host text of `host:port`, where a colon inside brackets does not count, and what follows
the colon if there is one. -/
def splitPort (inside : Bool) : Text → Text × Option Text
  | [] => ([], none)
  | c :: rest =>
    if c == ':' && !inside then ([], some rest)
    else
      let inside := if c == '[' then true else if c == ']' then false else inside
      let (host, port) := splitPort inside rest
      (c :: host, port)

/-- Reads a port, which ends at a backslash, and what follows it. The default port of the scheme
and an empty one are left out. -/
def readPort (scheme : Text) (t : Text) : Except AddressError (Option Nat × Text) :=
  let (digits, rest) := Text.breakAt (!Char.isDigit ·) t
  if rest.head?.any (· ≠ '\\') then .error .invalidPort
  else if digits.isEmpty then .ok (none, rest)
  else
    let n := Text.digitsValue 10 digits
    if 65535 < n then .error .invalidPort
    else .ok (if defaultPort? scheme == some n then none else some n, rest)

/-- Reads host and port of an authority without userinfo, and what follows the port. -/
def readHostAndPort (scheme : Text) (t : Text) :
    Except AddressError (Option Host × Option Nat × Text) := do
  let special := isSpecial scheme
  let (name, port) := splitPort false t
  if name.isEmpty then
    if special || port.isSome then .error .emptyHost else .ok (none, none, [])
  else
    let host ← if special then Host.parse name else Host.parseFree name
    .ok (some host, ← readPort scheme (port.getD []))

/-- Reads the authority after two slashes, and the start of the path where it follows the port
without a slash. Userinfo needs a host, and so does a lone `@` before another part of the
address. -/
def readSite (scheme : Text) (authority : Text) (ends : Bool) :
    Except AddressError (Site × Text) := do
  if authority == ['@'] && ends then .error .emptyHost
  else
    let (userinfo, rest) := splitUserinfo authority
    let (host, port, start) ← readHostAndPort scheme rest
    let (name, password) := userinfo.getD ([], none)
    if host.isNone && !(name.isEmpty && password.isNone) then .error .emptyHost
    else .ok ({ username := name, password := password, host := host, port := port }, start)

/-! ## Paths -/

/-- A segment that stands for the place it is in. -/
def isSingleDot (segment : Text) : Bool :=
  let s := Text.lower segment
  s == ".".toList || s == "%2e".toList

/-- A segment that stands for the place above. -/
def isDoubleDot (segment : Text) : Bool :=
  let s := Text.lower segment
  s == "..".toList || s == ".%2e".toList || s == "%2e.".toList || s == "%2e%2e".toList

/-- Two characters that name a drive: a letter, then a colon or a bar. -/
def isDrive (segment : Text) : Bool :=
  match segment with
  | [c, d] => c.isAlpha && (d == ':' || d == '|')
  | _ => false

/-- A segment with nothing above it, whatever the scheme: a drive, alone or before a backslash. -/
def isTop (segment : Text) : Bool :=
  isDrive (segment.take 2) && (segment.drop 2).head?.all (· == '\\')

/-- The place above a place. -/
def ascend (place : List Text) : List Text :=
  if place.getLast?.any isTop then place else place.dropLast

/-- Where a segment leads from a place, which is the list of segments above it. The last segment
of a path names what is found there; where it is a dotted one, that is the empty name. -/
def enter (above : List Text) (segment : Text) (last : Bool) : List Text :=
  let found := if last then [[]] else []
  if isDoubleDot segment then ascend above ++ found
  else if isSingleDot segment then above ++ found
  else above ++ [percentEncode isPathEscaped segment]

/-- Walks segments from a place. -/
def walk (above : List Text) : List Text → List Text
  | [] => above
  | segment :: rest => walk (enter above segment rest.isEmpty) rest

/-- The segments of a path text, in which the slash at the front is not one of its own. -/
def pathSegments (special : Bool) (path : Text) : List Text :=
  match path with
  | c :: rest => Text.pieces (isSlash special) (if isSlash special c then rest else path)
  | [] => [[]]

/-- Reads the path after an authority. Only a special scheme has one where the text is empty. -/
def readPath (special : Bool) (path : Text) : Path :=
  if path.isEmpty && !special then .segments []
  else .segments (walk [] (pathSegments special path))

/-- The drive at the front of a segment as it was written, with a colon, and the name that follows
it. Only a tab or line break sets a name apart from the colon of its drive. -/
def splitDrive (written : Text) : Option (Text × Option Text) :=
  match clean written with
  | [c, d] => if isDrive [c, d] then some ([c, ':'], none) else none
  | c :: ':' :: name =>
    let apart := ((Text.breakAt (· == ':') written).2.drop 1).head?.any isIgnored
    if c.isAlpha && apart then some ([c, ':'], some name) else none
  | _ => none

/-- Walks the segments of a local path as they were written, and tells whether a drive alone was
entered at the root. A name that follows a drive is never a dotted one. -/
def walkLocal (above : List Text) : List Text → Bool × List Text
  | [] => (false, above)
  | written :: rest =>
    match if above.isEmpty then splitDrive written else none with
    | some (drive, none) => (true, walk [drive] (rest.map clean))
    | some (drive, some name) =>
      (false, walk [drive, percentEncode isPathEscaped name] (rest.map clean))
    | none => walkLocal (enter above (clean written) rest.isEmpty) rest

/-- Empty segments at the front of the path of a local address do not count. -/
def trimSegments (list : List Text) : List Text :=
  match list.dropWhile List.isEmpty with
  | [] => [[]]
  | rest => rest

/-! ## Resolution -/

namespace Address

/-- The query of a reference, escaped for its scheme. -/
def queryOf (scheme : Text) (r : Reference) : Option Text :=
  r.query.map (percentEncode (isQueryEscaped (isSpecial scheme)))

/-- The fragment of a reference, escaped. -/
def fragmentOf (r : Reference) : Option Text :=
  r.fragment.map (percentEncode isFragmentEscaped)

/-- An address with query and fragment of a reference. -/
def withParts (scheme : Text) (site : Option Site) (path : Path) (r : Reference) : Address :=
  { scheme, site, path, query := queryOf scheme r, fragment := fragmentOf r }

/-- Reads an address from what follows the two slashes of its authority. -/
def ofAuthority (scheme : Text) (afterSlashes : Text) (r : Reference) :
    Except AddressError Address := do
  let special := isSpecial scheme
  let (authority, path) := Text.breakAt (isSlash special) afterSlashes
  let (site, start) ←
    readSite scheme authority (!path.isEmpty || r.query.isSome || r.fragment.isSome)
  .ok (withParts scheme (some site) (readPath special (start ++ path)) r)

/-- Reads a local address from what follows its two slashes. A drive in the place of the host is
the start of the path, a drive at its front needs no host, and the host `localhost` is none. -/
def ofFileAuthority (afterSlashes : Text) (r : Reference) : Except AddressError Address := do
  let (name, path) := Text.breakAt (isSlash true) afterSlashes
  let (name, path) := if isDrive name then ([], afterSlashes) else (name, path)
  let host ← if name.isEmpty then .ok none else some <$> Host.parse name
  let host := if host == some (.domain "localhost".toList) then none else host
  let (drive, segments) := walkLocal [] (pathSegments true (r.writtenFor path))
  let host := if drive then none else host
  .ok (withParts fileScheme (some { host }) (.segments (trimSegments segments)) r)

/-- Resolves a path of a local reference against the local base, if there is one. -/
def ofFilePath (base : Option Address) (body : Text) (r : Reference) :
    Except AddressError Address :=
  let rooted := body.head?.any (isSlash true)
  let segments := pathSegments true (r.writtenFor body)
  let placed (site : Site) (above : List Text) : Address :=
    withParts fileScheme (some site) (.segments (trimSegments (walkLocal above segments).2)) r
  match base with
  | some b =>
    if body.isEmpty then
      .ok { b with query := (queryOf b.scheme r).orElse fun _ => b.query, fragment := fragmentOf r }
    else if (segments.head?.map clean).any isDrive then .ok (placed {} [])
    else
      let above := if rooted then b.segments.take 1 |>.filter isDrive else b.segments.dropLast
      .ok (placed (b.site.getD {}) above)
  | none => .ok (placed {} [])

/-- Resolves the body of a local reference against the local base, if there is one. -/
def ofFileBody (base : Option Address) (body : Text) (r : Reference) :
    Except AddressError Address :=
  match body with
  | c :: d :: rest =>
    if isSlash true c && isSlash true d then ofFileAuthority rest r
    else ofFilePath base body r
  | _ => ofFilePath base body r

/-- Resolves a body without a scheme of its own against a base of segments. -/
def ofRelativeBody (base : Address) (body : Text) (r : Reference) : Except AddressError Address :=
  let special := isSpecial base.scheme
  let slashes := body.takeWhile (isSlash special)
  if body.isEmpty then
    .ok { base with
      query := (queryOf base.scheme r).orElse fun _ => base.query, fragment := fragmentOf r }
  else if 2 ≤ slashes.length then
    let rest := (Text.after? "//".toList body).getD (body.drop slashes.length)
    ofAuthority base.scheme rest r
  else if slashes.length == 1 then
    .ok (withParts base.scheme base.site (.segments (walk [] (pathSegments special body))) r)
  else
    .ok (withParts base.scheme base.site
      (.segments (walk base.segments.dropLast (pathSegments special body))) r)

/-- Reads a body that starts with a scheme. A reference with the special scheme of its base and
less than two slashes is a relative one. -/
def ofSchemeBody (base : Option Address) (scheme body : Text) (r : Reference) :
    Except AddressError Address :=
  if scheme == fileScheme then
    ofFileBody (base.filter (·.scheme == fileScheme)) body r
  else if isSpecial scheme then
    let slashes := body.takeWhile (isSlash true)
    match base.filter (·.scheme == scheme) with
    | some b => if slashes.length < 2 then ofRelativeBody b body r
      else ofAuthority scheme (body.drop slashes.length) r
    | none => ofAuthority scheme (body.drop slashes.length) r
  else match Text.after? "//".toList body with
    | some rest => ofAuthority scheme rest r
    | none =>
      if body.head? == some '/' then
        .ok (withParts scheme none (.segments (walk [] (pathSegments false body))) r)
      else .ok (withParts scheme none (.rootless (percentEncode isControl body)) r)

/-- Resolves a reference against a base, if there is one. -/
def resolve (base : Option Address) (t : Text) : Except AddressError Address :=
  let r := Reference.ofText t
  match splitScheme r.body, base with
  | some (scheme, body), _ => ofSchemeBody base scheme body r
  | none, none => .error .relativeWithoutBase
  | none, some b =>
    if r.body.isEmpty && r.query.isNone && r.fragment.isSome then
      .ok { b with fragment := fragmentOf r }
    else if b.isRootless then .error .relativeToRootless
    else if b.scheme == fileScheme then ofFileBody (some b) r.body r
    else ofRelativeBody b r.body r

/-- Reads an absolute address. -/
def parse (t : Text) : Except AddressError Address :=
  resolve none t

/-- Resolves a reference against a base. -/
def join (base : Address) (t : Text) : Except AddressError Address :=
  resolve (some base) t

end Address

end Courier.Web
