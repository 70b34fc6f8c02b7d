import Courier.Web.Label.Bootstring
import Courier.Web.Label.Direction
import Courier.Web.Label.Joining
import Courier.Web.Label.Mapping
import Courier.Web.Label.Permitted

/-!
# Labels of domains

A domain outside ASCII is put in its simplest spelling, in composed form, and each of its labels
outside ASCII is written in ASCII after the mark `xn--`. Such a label has to be written in the only
right way, also where it is given in its ASCII form: with permitted characters in composed form, not
with a combining mark in front, and with joiners only where they show. The labels of one domain have
to go together in the direction of their writing.
-/

namespace Courier.Web.Label

/-- What the ASCII form of an international label starts with. -/
def codedMark : Text := "xn--".toList

/-- How long an ASCII form may be after its mark where it is read. -/
def maxCodedLength : Nat := 2000

/-- How many characters an international label may have. -/
def maxLength : Nat := 1000

/-- Whether an international label is written in the right way. -/
def isInternational (label : Text) : Bool :=
  label.all isPermitted && !label.head?.any isMark && isComposed label && joinersFit [] label
    && label.length ≤ maxLength

/-- The label that a label of a domain stands for. -/
def decode? (t : Text) : Option Text :=
  match Text.after? codedMark t with
  | none => if t.all isPlain || isInternational t then some t else none
  | some coded =>
    if maxCodedLength < coded.length || !coded.all isPlain then none
    else (Bootstring.decode? coded).filter isInternational

/-- Whether the labels of a domain stand for labels that go together. -/
def areLabels (labels : List Text) : Bool :=
  (labels.mapM decode?).any directionsFit

/-- The simplest spelling of a domain. -/
def prepare (t : Text) : Text :=
  if t.all (·.toNat < 128) then t.lower else compose (ordered ((t.flatMap image).flatMap parts))

/-- A label of a domain in ASCII. -/
def encode (label : Text) : Text :=
  if label.all isPlain then label else codedMark ++ Bootstring.encode label

/-- The name of a domain in ASCII, if its labels go together. -/
def name? (t : Text) : Option Text :=
  let labels := Text.pieces (· == '.') (prepare t)
  if areLabels labels then some (['.'].intercalate (labels.map encode)) else none

end Courier.Web.Label
