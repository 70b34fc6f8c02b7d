import Courier.Fields

/-!
# Versions, methods and statuses

The small vocabulary of request and response heads.
-/

namespace Courier

/-! ## Versions -/

/-- A protocol version. -/
inductive Version
  | http09
  | http10
  | http11
  | http2
  | http3
deriving DecidableEq, Repr

namespace Version

def toString : Version → String
  | http09 => "HTTP/0.9"
  | http10 => "HTTP/1.0"
  | http11 => "HTTP/1.1"
  | http2 => "HTTP/2.0"
  | http3 => "HTTP/3.0"

/-- The versions. -/
def all : List Version := [http09, http10, http11, http2, http3]

/-- Reads the written form of a version. -/
def ofString? (s : String) : Option Version :=
  all.find? (·.toString == s)

/-- Whether a connection stays open after an exchange unless a header says otherwise. -/
def isPersistent : Version → Bool
  | http09 | http10 => false
  | http11 | http2 | http3 => true

instance : Inspect Version := ⟨toString⟩

end Version

/-! ## Methods -/

/-- A request method. Methods are told apart by the case of their letters. -/
structure Method where
  text : Text
deriving DecidableEq, Repr

namespace Method

def get : Method := ⟨"GET".toList⟩
def head : Method := ⟨"HEAD".toList⟩
def post : Method := ⟨"POST".toList⟩
def put : Method := ⟨"PUT".toList⟩
def patch : Method := ⟨"PATCH".toList⟩
def delete : Method := ⟨"DELETE".toList⟩
def options : Method := ⟨"OPTIONS".toList⟩

/-- Reads a method, which has to be a token. -/
def ofText? (t : Text) : Option Method :=
  if !t.isEmpty && t.all isTokenChar then some ⟨t⟩ else none

def toString (m : Method) : String :=
  String.ofList m.text

instance : Inspect Method := ⟨toString⟩

end Method

/-! ## Statuses and response heads -/

/-- A status code. -/
structure Status where
  code : Nat
deriving DecidableEq, Repr

instance : Inspect Status := ⟨fun s => inspect s.code⟩

/-- What a response says before its body. -/
structure ResponseHead where
  status : Status
  version : Version := .http11
  fields : Fields := {}
deriving DecidableEq

end Courier
