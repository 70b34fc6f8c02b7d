import Courier.Runs

/-!
# Combining marks

A combining mark belongs to the character before it. A nonspacing mark takes no room of its own,
a spacing one does. The tables begin after ASCII, which has no marks. They hold for the
characters that a label may have, and what they say of any other is of no use.
-/

namespace Courier.Web.Label

/-- Lengths of the runs of other characters and nonspacing marks, from code point 128 on. -/
def nonspacingRuns : List (Nat × Nat) :=
  [(640, 113), (274, 8), (262, 45), (1, 1), (1, 2), (1, 2), (1, 9), (64, 11), (48, 21), (16, 1),
   (101, 8), (1, 6), (2, 2), (1, 4), (35, 1), (30, 29), (89, 11), (58, 9), (9, 1), (24, 4), (1, 9),
   (1, 3), (1, 7), (41, 5), (57, 9), (42, 57), (55, 1), (1, 1), (4, 8), (4, 1), (3, 15), (2, 2),
   (29, 1), (58, 1), (4, 6), (6, 1), (20, 4), (24, 5), (57, 2), (3, 27), (20, 2), (3, 1), (11, 2),
   (57, 1), (4, 8), (4, 3), (18, 4), (20, 8), (58, 1), (2, 1), (1, 6), (6, 10), (11, 4), (28, 1),
   (61, 1), (12, 3), (48, 1), (3, 1), (55, 1), (1, 3), (5, 18), (10, 4), (27, 1), (58, 1), (2, 1),
   (6, 1), (5, 9), (13, 4), (26, 2), (57, 2), (4, 5), (7, 1), (20, 4), (27, 1), (72, 5), (3, 6),
   (89, 1), (2, 11), (8, 8), (98, 1), (2, 9), (11, 8), (72, 2), (27, 1), (1, 1), (1, 1), (55, 14),
   (1, 5), (1, 2), (5, 49), (8, 1), (102, 4), (1, 6), (1, 2), (2, 2), (25, 2), (4, 3), (16, 4),
   (13, 1), (2, 2), (6, 1), (15, 1), (703, 3), (946, 3), (29, 2), (30, 14), (18, 14), (55, 7),
   (8, 1), (2, 11), (9, 3), (165, 2), (34, 1), (118, 3), (4, 2), (9, 1), (6, 7), (215, 2), (2, 3),
   (56, 1), (1, 9), (1, 1), (2, 8), (6, 13), (48, 84), (48, 1), (1, 5), (1, 1), (5, 1), (40, 9),
   (12, 2), (32, 4), (2, 2), (1, 3), (56, 1), (1, 2), (3, 1), (1, 3), (58, 8), (2, 5), (149, 3),
   (1, 13), (1, 7), (4, 1), (6, 1), (3, 2), (198, 65), (719, 52), (3051, 4), (140, 1), (96, 32),
   (554, 4), (107, 4), (30162, 4), (1, 10), (32, 2), (80, 2), (272, 1), (3, 1), (4, 1), (25, 2),
   (5, 4), (148, 10), (18, 18), (13, 1), (38, 8), (25, 11), (46, 3), (48, 1), (2, 4), (2, 2),
   (39, 1), (67, 6), (2, 2), (2, 11), (3, 1), (8, 1), (47, 1), (51, 1), (1, 3), (2, 2), (5, 2),
   (1, 1), (42, 2), (8, 11), (228, 1), (2, 1), (4, 3), (20270, 148), (622, 37), (952, 131), (96, 1),
   (149, 10), (1665, 15), (40, 8), (165, 6), (569, 12), (57, 5), (317, 2), (77, 6), (70, 11),
   (49, 4), (123, 1), (54, 15), (41, 1), (2, 2), (10, 3), (49, 4), (2, 2), (7, 14), (48, 3),
   (36, 5), (1, 9), (61, 1), (12, 2), (52, 9), (10, 4), (2, 1), (95, 3), (2, 1), (1, 2), (6, 1),
   (2, 63), (95, 1), (3, 13), (16, 2), (57, 2), (3, 1), (37, 26), (59, 7), (12, 1), (1, 1), (1, 1),
   (14, 31), (56, 8), (2, 3), (1, 1), (23, 1), (84, 6), (1, 1), (4, 2), (1, 2), (238, 6), (4, 2),
   (1, 2), (27, 36), (51, 8), (2, 1), (1, 2), (106, 1), (1, 1), (2, 6), (1, 1), (101, 1), (1, 1),
   (2, 4), (1, 9), (255, 9), (1, 2), (256, 2), (1, 1), (4, 1), (144, 8), (4, 1), (32, 10), (40, 6),
   (2, 4), (8, 9), (1, 6), (2, 3), (46, 13), (1, 2), (198, 1), (1, 3), (1, 1), (201, 14), (1, 1),
   (82, 23), (1, 7), (1, 2), (1, 75), (49, 21), (1, 9), (64, 3), (2, 1), (1, 1), (347, 2), (11, 2),
   (52, 8), (2, 1), (1, 1), (23, 86), (5264, 1), (6, 25), (11454, 12), (3, 3), (2496, 5), (59, 7),
   (1048, 1), (63, 4), (81, 12), (19629, 2), (4705, 80), (535, 3), (17, 8), (2, 7), (30, 4),
   (148, 3), (1979, 55), (4, 50), (8, 1), (14, 1), (22, 1125), (256, 256), (48, 7), (375, 18),
   (44, 4), (508, 4), (254, 2), (243, 1), (2, 1), (7, 2), (5, 9), (466, 82), (34, 7)]

/-- Lengths of the runs of other characters and spacing marks, from code point 128 on. -/
def spacingRuns : List (Nat × Nat) :=
  [(2179, 1), (55, 2), (1, 18), (50, 3), (57, 16), (9, 9), (35, 2), (57, 30), (39, 2), (57, 18),
   (50, 3), (57, 33), (95, 18), (7, 15), (27, 4), (60, 23), (42, 2), (58, 30), (23, 17), (58, 16),
   (9, 1), (42, 3), (74, 23), (12, 2), (330, 2), (63, 6), (166, 20), (23, 4), (8, 3), (2, 7),
   (21, 11), (1, 1), (10, 4), (1655, 10), (21, 1), (129, 30), (335, 29), (217, 5), (55, 43),
   (132, 1), (48, 16), (61, 1), (30, 13), (57, 21), (40, 23), (166, 8), (14, 3), (4916, 2),
   (30707, 5), (88, 2), (50, 26), (132, 13), (36, 1), (48, 13), (110, 17), (13, 3), (43, 3),
   (109, 5), (5, 12), (226, 8), (1, 4), (25616, 3), (127, 1), (45, 11), (113, 10), (15, 2), (59, 1),
   (48, 14), (13, 2), (92, 12), (168, 16), (18, 3), (57, 18), (7, 6), (5, 30), (56, 25), (100, 18),
   (105, 20), (235, 18), (111, 17), (107, 12), (102, 18), (252, 15), (245, 15), (1, 1), (1, 2),
   (141, 16), (3, 28), (57, 1), (29, 5), (59, 3), (199, 95), (111, 17), (105, 87), (138, 14),
   (349, 2), (12, 1), (48, 15), (16871, 6), (3617, 66), (93, 2), (24947, 5), (3, 22)]

/-- A mark that takes no room. -/
def isNonspacing (c : Char) : Bool :=
  128 ≤ c.toNat && Runs.holds nonspacingRuns (c.toNat - 128)

/-- A mark of either kind. -/
def isMark (c : Char) : Bool :=
  isNonspacing c || (128 ≤ c.toNat && Runs.holds spacingRuns (c.toNat - 128))

end Courier.Web.Label
