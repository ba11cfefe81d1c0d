import Failsafe.Text.Mark
/-
  The direction in which characters are written.

  Letters run from left to right or from right to left, and numbers have rules of their own.
  Everything else follows what is around it. Characters that no table holds run from left to right.
-/

namespace Failsafe.Text

/-- How a character takes part in the order of a text. -/
inductive Direction where
  | left
  | right
  /-- a digit as they are written in Europe -/
  | europeanDigit
  | arabicDigit
  /-- a mark on the character before it -/
  | mark
  | neutral
deriving DecidableEq, Repr

/-- Ranges of the characters that run from right to left. -/
def rightward : List (Nat × Nat) := [
    (1470, 1470), (1472, 1472), (1475, 1475), (1478, 1478), (1488, 1524), (1544, 1544),
    (1547, 1547), (1549, 1549), (1563, 1610), (1645, 1647), (1649, 1749), (1765, 1766),
    (1774, 1775), (1786, 1808), (1810, 1839), (1869, 1957), (1969, 2026), (2036, 2037),
    (2042, 2042), (2046, 2069), (2074, 2074), (2084, 2084), (2088, 2088), (2096, 2136),
    (2142, 2191), (2208, 2249), (64285, 64285), (64287, 64296), (64298, 64450), (64467, 64829),
    (64848, 64911), (64914, 64967), (65008, 65020), (65136, 65276), (67584, 67867), (67872, 68096),
    (68112, 68149), (68160, 68324), (68331, 68405), (68416, 68899), (68938, 68965), (68975, 69007),
    (69248, 69289), (69293, 69319), (69376, 69445), (69457, 69505), (69510, 69622),
    (124928, 125135), (125184, 125251), (125259, 126651)]

/-- Ranges of the digits that stand in texts from right to left. -/
def arabicDigits : List (Nat × Nat) := [
    (1632, 1641), (1643, 1644), (68912, 68921), (69216, 69246)]

/-- Ranges of the other digits that have no direction of their own. -/
def europeanDigits : List (Nat × Nat) := [
    (48, 57), (178, 179), (185, 185), (1776, 1785), (8304, 8304), (8308, 8313), (8320, 8329),
    (9352, 9371), (65296, 65305), (66273, 66299), (68928, 68937), (118000, 118009),
    (120782, 120831), (127232, 127242), (130032, 130041)]

/-- Ranges of the characters that follow what is around them. -/
def neutrals : List (Nat × Nat) := [
    (33, 47), (58, 64), (91, 96), (123, 169), (171, 177), (180, 180), (182, 184), (187, 191),
    (215, 215), (247, 247), (697, 698), (706, 719), (722, 735), (741, 749), (751, 767), (884, 885),
    (894, 894), (900, 901), (903, 903), (1014, 1014), (1418, 1423), (1542, 1543), (1545, 1546),
    (1548, 1548), (1550, 1551), (1642, 1642), (1758, 1758), (1769, 1769), (2038, 2041),
    (2546, 2547), (2555, 2555), (2801, 2801), (3059, 3066), (3192, 3198), (3647, 3647),
    (3898, 3901), (5008, 5017), (5120, 5120), (5787, 5788), (6107, 6107), (6128, 6154),
    (6464, 6469), (6622, 6655), (8125, 8125), (8127, 8129), (8141, 8143), (8157, 8159),
    (8173, 8175), (8189, 8286), (8314, 8318), (8330, 8334), (8352, 8385), (8448, 8449),
    (8451, 8454), (8456, 8457), (8468, 8468), (8470, 8472), (8478, 8483), (8485, 8485),
    (8487, 8487), (8489, 8489), (8494, 8494), (8506, 8507), (8512, 8516), (8522, 8525),
    (8528, 8543), (8585, 9013), (9083, 9108), (9110, 9351), (9450, 9899), (9901, 10239),
    (10496, 11263), (11493, 11498), (11513, 11519), (11776, 12292), (12296, 12320), (12336, 12336),
    (12342, 12343), (12349, 12351), (12443, 12444), (12448, 12448), (12539, 12539), (12736, 12783),
    (12829, 12830), (12880, 12895), (12924, 12926), (12977, 12991), (13004, 13007), (13175, 13178),
    (13278, 13279), (13311, 13311), (19904, 19967), (42128, 42182), (42509, 42511), (42611, 42611),
    (42622, 42623), (42752, 42785), (42888, 42888), (43048, 43051), (43064, 43065), (43124, 43127),
    (43882, 43883), (64297, 64297), (64451, 64466), (64830, 64847), (64912, 64913), (64968, 64975),
    (65021, 65023), (65040, 65049), (65072, 65131), (65281, 65295), (65306, 65312), (65339, 65344),
    (65371, 65381), (65504, 65533), (65793, 65793), (65856, 65932), (65936, 65952), (67871, 67871),
    (68409, 68415), (68974, 68974), (69328, 69336), (69714, 69733), (71264, 71276), (73685, 73713),
    (94178, 94178), (117760, 117999), (118010, 118512), (119273, 119361), (119365, 119365),
    (119552, 119638), (120539, 120539), (120597, 120597), (120655, 120655), (120713, 120713),
    (120771, 120771), (123647, 123647), (124415, 124415), (126704, 127221), (127243, 127247),
    (127279, 127279), (127338, 127343), (127405, 127405), (127584, 130031), (130042, 130042)]

/-- Marks that run from left to right like the letters they belong to. -/
def leftwardMarks : List Nat := [0xCBF, 0xCC6, 0x11A07, 0x11A08, 0x11C3F]

/-- The direction of a character. -/
def direction (c : Char) : Direction :=
  let n := c.toNat
  if isNonspacing c then if leftwardMarks.contains n then .left else .mark
  else if inRanges n rightward then .right
  else if inRanges n arabicDigits then .arabicDigit
  else if inRanges n europeanDigits then .europeanDigit
  else if isJoiner c || inRanges n neutrals then .neutral
  else .left

end Failsafe.Text
