import Courier.Web.Host

/-!
# Web addresses

A web address has a scheme, an optional authority, a path, and optionally a query and a
fragment. All parts are kept in their escaped form, so that writing an address is joining its
parts. A special scheme is one whose addresses always have a host and a path of segments.
-/

namespace Courier.Web

/-! ## Schemes -/

/-- The scheme of addresses on the local machine. -/
def fileScheme : Text := "file".toList

/-- The port that an address of the scheme has when it names none. -/
def defaultPort? (scheme : Text) : Option Nat :=
  if scheme == "http".toList || scheme == "ws".toList then some 80
  else if scheme == "https".toList || scheme == "wss".toList then some 443
  else if scheme == "ftp".toList then some 21
  else none

/-- Whether addresses of the scheme always have a host and a path of segments. -/
def isSpecial (scheme : Text) : Bool :=
  (defaultPort? scheme).isSome || scheme == fileScheme

/-! ## Parts -/

/-- User name, password, host and port. A password is never empty. -/
structure Site where
  username : Text := []
  password : Option Text := none
  host : Option Host := none
  port : Option Nat := none
deriving DecidableEq, Repr

/-- A path: either one text without a root or a list of segments. -/
inductive Path
  | rootless (text : Text)
  | segments (list : List Text)
deriving DecidableEq, Repr

/-- A web address with its parts in escaped form. -/
structure Address where
  scheme : Text
  site : Option Site
  path : Path
  query : Option Text := none
  fragment : Option Text := none
deriving DecidableEq, Repr

/-! ## Writing -/

/-- User name and password before the `@`; nothing at all if there is neither. -/
def Site.userinfoText (s : Site) : Text :=
  if s.username.isEmpty && s.password.isNone then []
  else s.username ++ (s.password.map (':' :: ·)).getD [] ++ ['@']

/-- The text between the two slashes and the path. -/
def Site.toText (s : Site) : Text :=
  s.userinfoText ++ (s.host.map Host.toText).getD [] ++ (s.port.map (':' :: Text.ofNat ·)).getD []

/-- The written path: a slash before each segment. -/
def Path.toText : Path → Text
  | rootless t => t
  | segments list => list.flatMap ('/' :: ·)

namespace Address

/-- Scheme and site. A path that starts with two slashes is kept apart from the scheme by `/.`
where there is no site. -/
def siteText (a : Address) : Text :=
  match a.site, a.path with
  | some s, _ => "://".toList ++ s.toText
  | none, .segments ([] :: _ :: _) => ":/.".toList
  | none, _ => [':']

/-- The address without its fragment. -/
def resourceText (a : Address) : Text :=
  a.scheme ++ a.siteText ++ a.path.toText ++ (a.query.map ('?' :: ·)).getD []

/-- The written form. -/
def toText (a : Address) : Text :=
  a.resourceText ++ (a.fragment.map ('#' :: ·)).getD []

def toString (a : Address) : String :=
  String.ofList a.toText

instance : ToString Address := ⟨toString⟩

/-- Whether the path has no root, so that nothing can be resolved against the address. -/
def isRootless (a : Address) : Bool :=
  match a.path with
  | .rootless _ => true
  | .segments _ => false

/-- The segments of the path; one without a root has none. -/
def segments (a : Address) : List Text :=
  match a.path with
  | .rootless _ => []
  | .segments list => list

/-- The host, if the address has one. -/
def host? (a : Address) : Option Host :=
  a.site.bind (·.host)

/-- The port of the address: the one it names, else the one of its scheme. -/
def port? (a : Address) : Option Nat :=
  (a.site.bind (·.port)).orElse fun _ => defaultPort? a.scheme

end Address

end Courier.Web
