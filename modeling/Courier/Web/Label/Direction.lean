import Courier.Text
import Courier.Web.Label.Mark

/-!
# Directions of writing

A domain with a character that is written from right to left must not look like another one. So
each of its labels has to start with a letter of one direction, may not hold letters of the
other, and ends with a letter or a digit. The table holds for the characters that a label may
have.
-/

namespace Courier.Web.Label

/-- How the direction of a character is found: letters from the left and from the right, European
and Arabic digits, nonspacing marks, and characters that follow their surroundings. -/
inductive Direction
  | left
  | right
  | european
  | arabic
  | mark
  | neutral
deriving DecidableEq, Repr

/-- Lengths of the runs with one direction. -/
def directionRuns : List (Nat × Direction) :=
  [(48, .neutral), (11, .european), (38, .neutral), (26, .left), (100, .neutral), (24, .left),
   (1, .neutral), (449, .left), (2, .neutral), (7, .left), (14, .neutral), (2, .left),
   (28, .neutral), (1, .left), (130, .neutral), (4, .left), (2, .neutral), (127, .left),
   (2, .neutral), (402, .left), (52, .neutral), (72, .right), (2, .neutral), (1, .right),
   (2, .neutral), (1, .right), (1, .neutral), (1, .right), (13, .neutral), (69, .right),
   (10, .arabic), (1, .neutral), (2, .arabic), (113, .right), (7, .neutral), (4, .right),
   (5, .neutral), (2, .right), (10, .european), (252, .right), (4, .neutral), (265, .right),
   (239, .left), (2, .neutral), (7, .left), (1, .neutral), (245, .left), (8, .neutral),
   (250, .left), (14, .neutral), (119, .left), (7, .neutral), (448, .left), (1, .neutral),
   (250, .left), (4, .neutral), (1106, .left), (16, .neutral), (96, .left), (1, .neutral),
   (666, .left), (5, .neutral), (315, .left), (1, .neutral), (20, .left), (32, .neutral),
   (304, .left), (6, .neutral), (152, .left), (34, .neutral), (1548, .left), (322, .neutral),
   (60, .left), (428, .neutral), (69, .left), (26, .neutral), (1, .left), (790, .neutral),
   (1, .left), (339, .neutral), (256, .left), (816, .neutral), (181, .left), (7, .neutral),
   (13, .left), (7, .neutral), (256, .left), (517, .neutral), (3, .left), (25, .neutral),
   (15, .left), (1, .neutral), (6, .left), (4, .neutral), (2, .left), (4, .neutral), (95, .left),
   (1, .neutral), (90, .left), (1, .neutral), (196, .left), (48, .neutral), (7120, .left),
   (64, .neutral), (22160, .left), (64, .neutral), (317, .left), (3, .neutral), (99, .left),
   (14, .neutral), (127, .left), (35, .neutral), (101, .left), (1, .neutral), (159, .left),
   (8, .neutral), (8, .left), (8, .neutral), (52, .left), (12, .neutral), (746, .left),
   (86, .neutral), (20466, .left), (17, .right), (688, .neutral), (397, .right), (257, .left),
   (1, .neutral), (62, .left), (77, .neutral), (3, .left), (64, .neutral), (273, .left),
   (31, .european), (1280, .left), (287, .right), (1, .neutral), (537, .right), (7, .neutral),
   (496, .right), (26, .arabic), (36, .right), (1, .neutral), (241, .right), (32, .arabic),
   (80, .right), (48, .neutral), (256, .right), (82, .left), (20, .neutral), (1530, .left),
   (32, .neutral), (2389, .left), (42, .neutral), (20451, .left), (1, .neutral), (23581, .left),
   (848, .neutral), (665, .left), (215, .neutral), (64, .left), (96, .neutral), (3999, .left),
   (465, .neutral), (816, .left), (1776, .right), (608, .neutral), (29, .left), (3, .neutral),
   (61, .left), (57, .neutral), (122, .left), (3488, .neutral), (983040, .left)]

/-- The nonspacing marks that count as letters from the left. -/
def leftMarks : List Nat :=
  [0xCBF, 0xCC6, 0x11A07, 0x11A08, 0x11C3F]

/-- The direction of a character. -/
def direction (c : Char) : Direction :=
  if isNonspacing c then if leftMarks.contains c.toNat then .left else .mark
  else (Runs.value? directionRuns c.toNat).getD .left

/-- The directions of a label without the marks at its end. -/
def directions (label : Text) : List Direction :=
  ((label.map direction).reverse.dropWhile (· == .mark)).reverse

/-- Whether a label keeps to one direction. -/
def keepsDirection (label : Text) : Bool :=
  match directions label with
  | [] => label.isEmpty
  | .left :: rest =>
    rest.getLast?.all [Direction.left, .european].contains
      && rest.all [Direction.left, .european, .mark, .neutral].contains
  | .right :: rest =>
    rest.getLast?.all [Direction.right, .european, .arabic].contains
      && !rest.contains .left && !(rest.contains .european && rest.contains .arabic)
  | _ => false

/-- Whether a text holds a character that is written from right to left or an Arabic digit. -/
def isRightward (t : Text) : Bool :=
  t.any fun c => [Direction.right, .arabic].contains (direction c)

/-- Whether the labels of a domain go together. -/
def directionsFit (labels : List Text) : Bool :=
  !labels.any isRightward || labels.all keepsDirection

end Courier.Web.Label
