import Courier.Web.Label
import Courier.Web.Percent

/-!
# Hosts of web addresses

A host is a domain, an IPv4 or an IPv6 address. `Host.parse` reads the host of a special scheme:
percent escapes are undone, the name is put in ASCII, in lower case, and a name whose last label is
a number has to be an IPv4 address in one of its many spellings. A scheme that is not special has a
free host, which is kept as it is.
-/

namespace Courier.Web

/-- Why a text is not a web address. -/
inductive AddressError
  | emptyHost
  | invalidDomain
  | invalidPort
  | invalidIpv4
  | invalidIpv6
  | invalidDomainCharacter
  | relativeWithoutBase
  | relativeToRootless
deriving DecidableEq, Repr

/-- The wording of the reason. -/
def AddressError.message : AddressError → String
  | .emptyHost => "empty host"
  | .invalidDomain => "invalid international domain name"
  | .invalidPort => "invalid port number"
  | .invalidIpv4 => "invalid IPv4 address"
  | .invalidIpv6 => "invalid IPv6 address"
  | .invalidDomainCharacter => "invalid domain character"
  | .relativeWithoutBase => "relative URL without a base"
  | .relativeToRootless => "relative URL with a cannot-be-a-base base"

/-! ## IPv4 -/

namespace Ipv4

/-- The number written by one part of an IPv4 address: hexadecimal after `0x`, octal after `0`,
decimal otherwise. A bare `0x` is zero. -/
def readPart? (t : Text) : Option Nat :=
  match t with
  | [] => none
  | '0' :: 'x' :: digits | '0' :: 'X' :: digits =>
    if digits.all isHexDigit then some (Text.digitsValue 16 digits) else none
  | '0' :: d :: digits =>
    if (d :: digits).all (fun c => '0' ≤ c && c ≤ '7') then some (Text.digitsValue 8 (d :: digits))
    else none
  | digits => if digits.all Char.isDigit then some (Text.digitsValue 10 digits) else none

/-- The parts of a dotted name; one empty part at the end does not count. -/
def parts (t : Text) : List Text :=
  let all := Text.pieces (· == '.') t
  if all.getLast? == some [] then all.dropLast else all

/-- Whether the last label of a name is a number, so that the name has to be an IPv4 address. -/
def endsInNumber (t : Text) : Bool :=
  match (parts t).getLast? with
  | none => false
  | some last => (last ≠ [] && last.all Char.isDigit) || (readPart? last).isSome

/-- Reads an IPv4 address as a number of 32 bits. All parts but the last are octets, the last one
fills the rest. -/
def parse (t : Text) : Except AddressError Nat :=
  match (parts t).mapM readPart? with
  | none => .error .invalidIpv4
  | some numbers =>
    match numbers.reverse with
    | [] => .error .invalidIpv4
    | last :: before =>
      let octets := before.reverse
      if 3 < octets.length || Nat.pow 256 (4 - octets.length) ≤ last || octets.any (255 < ·) then
        .error .invalidIpv4
      else
        .ok (octets.foldl (fun n b => n * 256 + b) 0 * Nat.pow 256 (4 - octets.length) + last)

/-- The dotted form. -/
def toText (n : Nat) : Text :=
  ['.'].intercalate
    [Text.ofNat (n / Nat.pow 256 3 % 256), Text.ofNat (n / Nat.pow 256 2 % 256),
      Text.ofNat (n / 256 % 256), Text.ofNat (n % 256)]

end Ipv4

/-! ## IPv6 -/

namespace Ipv6

/-- The two pieces that a dotted IPv4 address at the end of an IPv6 address stands for. Its four
numbers are decimal octets without leading zeros. -/
def readDotted? (t : Text) : Option (List Nat) :=
  match Text.pieces (· == '.') t with
  | [a, b, c, d] =>
    if [a, b, c, d].all fun p => p ≠ [] && p.all Char.isDigit && (p.length == 1 || p.head? ≠ some '0')
        && Text.digitsValue 10 p < 256 then
      some [Text.digitsValue 10 a * 256 + Text.digitsValue 10 b,
        Text.digitsValue 10 c * 256 + Text.digitsValue 10 d]
    else none
  | _ => none

/-- The piece written by one to four hexadecimal digits. -/
def readPiece? (t : Text) : Option Nat :=
  if t ≠ [] && t.length ≤ 4 && t.all isHexDigit then some (Text.digitsValue 16 t) else none

/-- The pieces between colons; with `dotted`, the last one may be an IPv4 address. -/
def readPieces? (dotted : Bool) : List Text → Option (List Nat)
  | [] => some []
  | [last] =>
    if dotted && last.contains '.' then readDotted? last else (readPiece? last).map ([·])
  | first :: rest => do return (← readPiece? first) :: (← readPieces? dotted rest)

/-- The pieces of one side of the double colon; an empty side has none. -/
def readSide? (dotted : Bool) (t : Text) : Option (List Nat) :=
  if t.isEmpty then some [] else readPieces? dotted (Text.pieces (· == ':') t)

/-- Cuts a text at its first double colon. -/
def cutAtGap : Text → Option (Text × Text)
  | ':' :: ':' :: rest => some ([], rest)
  | c :: rest => (cutAtGap rest).map fun (a, b) => (c :: a, b)
  | [] => none

/-- Reads the eight pieces of an IPv6 address. A double colon stands for at least one zero
piece. -/
def parse (t : Text) : Except AddressError (List Nat) :=
  let pieces? := match cutAtGap t with
    | none => (readSide? true t).filter (·.length == 8)
    | some (left, right) => do
      let l ← readSide? false left
      let r ← readSide? true right
      if l.length + r.length ≤ 7 then
        some (l ++ List.replicate (8 - l.length - r.length) 0 ++ r)
      else none
  match pieces? with
  | some pieces => .ok pieces
  | none => .error .invalidIpv6

/-- The hexadecimal digits of a piece, without leading zeros. -/
def pieceText (n : Nat) : Text :=
  Nat.toDigits 16 n

/-- Position and length of the first longest run of zero pieces, looking at `index` next. -/
def longestGap (index : Nat) : List Nat → Nat × Nat
  | [] => (index, 0)
  | p :: rest =>
    let here := ((p :: rest).takeWhile (· == 0)).length
    let later := longestGap (index + 1) rest
    if later.2 ≤ here then (index, here) else later

/-- The written form: the first longest run of at least two zero pieces becomes a double colon. -/
def toText (pieces : List Nat) : Text :=
  let (start, length) := longestGap 0 pieces
  if length < 2 then [':'].intercalate (pieces.map pieceText)
  else
    [':'].intercalate ((pieces.take start).map pieceText) ++ "::".toList
      ++ [':'].intercalate ((pieces.drop (start + length)).map pieceText)

end Ipv6

/-! ## Hosts -/

/-- The host of a web address. -/
inductive Host
  | domain (name : Text)
  | ipv4 (value : Nat)
  | ipv6 (pieces : List Nat)
deriving DecidableEq, Repr

namespace Host

/-- The written form; an IPv6 address stands in brackets. -/
def toText : Host → Text
  | domain name => name
  | ipv4 value => Ipv4.toText value
  | ipv6 pieces => '[' :: Ipv6.toText pieces ++ [']']

/-- A character that no domain may hold. -/
def isForbidden (c : Char) : Bool :=
  c ≤ ' ' || "%#/:<>?@[\\]^|\x7f".toList.contains c

/-- The IPv6 address between brackets. -/
def parseBracketed (t : Text) : Except AddressError Host :=
  if t.getLast? == some ']' then .ipv6 <$> Ipv6.parse t.dropLast else .error .invalidIpv6

/-- The name in ASCII that a text stands for that is not in brackets. -/
def name? (t : Text) : Option Text :=
  (percentDecode t).toString?.bind fun s => Label.name? s.toList

/-- Reads the host of a special scheme. -/
def parse (t : Text) : Except AddressError Host :=
  match t with
  | '[' :: rest => parseBracketed rest
  | _ =>
    match name? t with
    | none => .error .invalidDomain
    | some name =>
      if name.any isForbidden then .error .invalidDomain
      else if name.isEmpty then .error .emptyHost
      else if Ipv4.endsInNumber name then .ipv4 <$> Ipv4.parse name
      else .ok (.domain name)

/-- A character that no free host may hold. -/
def isFreeForbidden (c : Char) : Bool :=
  "\x00\t\n\r #/:<>?@[\\]^|".toList.contains c

/-- Reads the host of a scheme that is not special. -/
def parseFree (t : Text) : Except AddressError Host :=
  match t with
  | '[' :: rest => parseBracketed rest
  | _ =>
    if t.any isFreeForbidden then .error .invalidDomainCharacter
    else .ok (.domain (percentEncode isControl t))

end Host

end Courier.Web
