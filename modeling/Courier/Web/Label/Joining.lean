import Courier.Web.Label.Composition

/-!
# Joiners

The joiner and the non-joiner change how the letters beside them are drawn and are hard to see.
Both may follow a virama, the mark that takes the vowel from a consonant; the non-joiner may also
stand between two letters that would be drawn joined. The table holds for the characters that a
label may have.
-/

namespace Courier.Web.Label

/-- To which of its neighbours a letter is joined in writing. -/
inductive Joining
  | isolated
  | next
  | previous
  | both
deriving DecidableEq, Repr

/-- Lengths of the runs with one way of joining, from code point 128 on. -/
def joiningRuns : List (Nat × Joining) :=
  [(1440, .isolated), (1, .both), (1, .isolated), (4, .previous), (1, .both), (1, .previous),
   (1, .both), (1, .previous), (5, .both), (4, .previous), (13, .both), (1, .isolated), (7, .both),
   (1, .previous), (23, .both), (14, .isolated), (3, .both), (3, .previous), (5, .isolated),
   (15, .both), (18, .previous), (38, .both), (1, .previous), (2, .both), (9, .previous),
   (1, .both), (1, .previous), (1, .both), (1, .previous), (2, .both), (2, .previous),
   (1, .isolated), (9, .previous), (16, .isolated), (2, .previous), (10, .isolated), (3, .both),
   (2, .isolated), (1, .both), (16, .isolated), (2, .previous), (3, .both), (5, .previous),
   (4, .both), (1, .previous), (9, .both), (1, .previous), (1, .both), (1, .previous), (1, .both),
   (1, .previous), (2, .both), (31, .previous), (11, .both), (3, .previous), (15, .both),
   (2, .previous), (4, .both), (1, .previous), (1, .both), (2, .previous), (3, .both),
   (2, .previous), (6, .both), (74, .isolated), (42, .both), (76, .isolated), (1, .previous),
   (5, .both), (2, .previous), (1, .both), (1, .previous), (10, .both), (1, .previous), (1, .both),
   (8, .previous), (2, .isolated), (1, .both), (1, .isolated), (4, .both), (1, .isolated),
   (1, .previous), (1, .both), (26, .previous), (3, .isolated), (1, .both), (2, .isolated),
   (5, .both), (1, .previous), (27, .both), (3, .previous), (1, .isolated), (1, .previous),
   (2, .both), (2, .previous), (6, .both), (1, .previous), (15, .both), (3902, .isolated),
   (1, .both), (24, .isolated), (96, .both), (7, .isolated), (41, .both), (36752, .isolated),
   (50, .both), (1, .next), (25165, .isolated), (5, .both), (1, .previous), (1, .isolated),
   (1, .previous), (1, .isolated), (2, .previous), (2, .isolated), (1, .next), (5, .previous),
   (4, .both), (1, .next), (5, .both), (1, .previous), (3, .both), (1, .previous), (2, .isolated),
   (7, .previous), (4, .both), (1, .previous), (144, .isolated), (1, .both), (1, .previous),
   (1, .both), (3, .previous), (3, .both), (1, .previous), (2, .both), (1, .previous), (1, .both),
   (2, .previous), (1, .both), (8, .previous), (16, .isolated), (4, .previous), (2, .both),
   (337, .isolated), (1, .next), (33, .both), (1, .previous), (13, .both), (402, .isolated),
   (1, .previous), (2, .both), (1, .isolated), (10, .both), (96, .isolated), (3, .both),
   (1, .previous), (17, .both), (12, .isolated), (3, .both), (1, .previous), (27, .isolated),
   (4, .both), (2, .previous), (16, .both), (42, .isolated), (1, .both), (1, .isolated), (2, .both),
   (3, .previous), (1, .isolated), (1, .both), (2, .previous), (2, .both), (1, .previous),
   (2, .both), (1, .isolated), (1, .both), (2, .previous), (1, .both), (4, .isolated),
   (1, .previous), (1, .both), (21, .next), (55618, .isolated), (46, .both), (988848, .isolated)]

/-- How a letter is joined. -/
def joining (c : Char) : Joining :=
  if c.toNat < 128 then .isolated else (Runs.value? joiningRuns (c.toNat - 128)).getD .isolated

/-- A mark through which letters join; the nasalization mark of Adlam, a letter, is one too. -/
def isTransparent (c : Char) : Bool :=
  isNonspacing c || c.toNat == 0x1E94B

/-- Whether the first letter of a text, marks left aside, joins in one of these ways. -/
def startsJoining (ways : List Joining) (t : Text) : Bool :=
  (t.dropWhile isTransparent).head?.any (ways.contains <| joining ·)

/-- A mark that takes the vowel from a consonant. -/
def isVirama (c : Char) : Bool :=
  combiningClass c == 9

def nonJoiner : Char := '\u200C'

def joiner : Char := '\u200D'

/-- Whether all joiners stand where they may. `before` is the text before, its last character
first. -/
def joinersFit (before : Text) : Text → Bool
  | [] => true
  | c :: rest =>
    let afterVirama := before.head?.any isVirama
    let between := startsJoining [.next, .both] before && startsJoining [.previous, .both] rest
    let fits :=
      if c == joiner then afterVirama
      else if c == nonJoiner then afterVirama || between
      else true
    fits && joinersFit (c :: before) rest

end Courier.Web.Label
