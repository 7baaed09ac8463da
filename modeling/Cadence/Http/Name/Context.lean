/-
# Characters that need others around them

Some characters may stand in a name only where others around them allow it: the invisible joiners
after a mark that takes a vowel away, or, for the one that keeps letters apart, between letters that
would be joined; the Catalan dot between two l; the Greek numeral sign before a Greek letter; the
Hebrew marks of punctuation after a Hebrew letter; the dot of Katakana in a name with Japanese
letters; and the two kinds of Arabic digits in names without the other kind.

The ranges run over characters that no name may have.

Key definitions: `Name.mayJoin`, `Name.mayStand`.
-/
import Cadence.Http.Name.Direction

namespace Cadence
namespace Http
namespace Name

/-- The letters that join the letters on both sides. -/
def dualRanges : Text.Ranges := [
    (0x620, 0x620), (0x626, 0x626), (0x628, 0x628), (0x62a, 0x62e), (0x633, 0x647), (0x649, 0x64a),
    (0x66e, 0x66f), (0x679, 0x687), (0x69a, 0x6bf), (0x6c1, 0x6c2), (0x6cc, 0x6cc), (0x6ce, 0x6ce),
    (0x6d0, 0x6d1), (0x6fa, 0x6fc), (0x6ff, 0x6ff), (0x712, 0x714), (0x71a, 0x71d), (0x71f, 0x727),
    (0x729, 0x729), (0x72b, 0x72b), (0x72d, 0x72e), (0x74e, 0x758), (0x75c, 0x76a), (0x76d, 0x770),
    (0x772, 0x772), (0x775, 0x777), (0x77a, 0x77f), (0x7ca, 0x7ea), (0x841, 0x845), (0x848, 0x848),
    (0x84a, 0x853), (0x855, 0x855), (0x860, 0x860), (0x862, 0x865), (0x868, 0x868), (0x886, 0x886),
    (0x889, 0x88d), (0x8a0, 0x8a9), (0x8af, 0x8b0), (0x8b3, 0x8b8), (0x8ba, 0x8c8),
    (0x1820, 0x1878), (0x1887, 0x18a8), (0x18aa, 0x18aa), (0xa840, 0xa871), (0x10ac0, 0x10ac4),
    (0x10ad3, 0x10ad6), (0x10ad8, 0x10adc), (0x10ade, 0x10ae0), (0x10b80, 0x10b80),
    (0x10b82, 0x10b82), (0x10b86, 0x10b88), (0x10b8a, 0x10b8b), (0x10b8d, 0x10b8d),
    (0x10b90, 0x10b90), (0x10d01, 0x10d21), (0x10d23, 0x10d23), (0x10f30, 0x10f32),
    (0x10f34, 0x10f44), (0x10f70, 0x10f73), (0x10f76, 0x10f81), (0x10fb0, 0x10fb0),
    (0x10fb2, 0x10fb3), (0x10fb8, 0x10fb8), (0x10fbb, 0x10fbc), (0x10fbe, 0x10fbf),
    (0x10fc1, 0x10fc1), (0x10fc4, 0x10fc4), (0x1e922, 0x1e943)]

/-- The letters that join the letter before them. -/
def rightJoiningRanges : Text.Ranges := [
    (0x622, 0x625), (0x627, 0x627), (0x629, 0x629), (0x62f, 0x632), (0x648, 0x648), (0x671, 0x673),
    (0x688, 0x699), (0x6c0, 0x6c0), (0x6c3, 0x6cb), (0x6cd, 0x6cd), (0x6cf, 0x6cf), (0x6d2, 0x6d5),
    (0x6ee, 0x6ef), (0x710, 0x710), (0x715, 0x719), (0x71e, 0x71e), (0x728, 0x728), (0x72a, 0x72a),
    (0x72c, 0x72c), (0x72f, 0x72f), (0x74d, 0x74d), (0x759, 0x75b), (0x76b, 0x76c), (0x771, 0x771),
    (0x773, 0x774), (0x778, 0x779), (0x840, 0x840), (0x846, 0x847), (0x849, 0x849), (0x854, 0x854),
    (0x856, 0x858), (0x867, 0x867), (0x869, 0x882), (0x88e, 0x88e), (0x8aa, 0x8ac), (0x8ae, 0x8ae),
    (0x8b1, 0x8b2), (0x8b9, 0x8b9), (0x10ac5, 0x10ac5), (0x10ac7, 0x10aca), (0x10ace, 0x10ad2),
    (0x10add, 0x10add), (0x10ae1, 0x10ae1), (0x10ae4, 0x10ae4), (0x10b81, 0x10b81),
    (0x10b83, 0x10b85), (0x10b89, 0x10b89), (0x10b8c, 0x10b8c), (0x10b8e, 0x10b8f),
    (0x10b91, 0x10b91), (0x10d22, 0x10d22), (0x10f33, 0x10f33), (0x10f74, 0x10f75),
    (0x10fb4, 0x10fb6), (0x10fb9, 0x10fba), (0x10fbd, 0x10fbd), (0x10fc2, 0x10fc3)]

/-- The letters that join the letter after them. -/
def leftJoiningRanges : Text.Ranges := [
    (0xa872, 0xa872), (0x10acd, 0x10acd), (0x10ad7, 0x10ad7), (0x10d00, 0x10d00)]

/-- The marks over which letters are joined, next to those that go with the character before. -/
def passedMarks : List Nat := [0xcbf, 0xcc6, 0x11a07, 0x11a08, 0x11c3f, 0x1e94b]

/-- Whether letters are joined over a mark. -/
def isPassed (n : Nat) : Bool :=
  (attachedRanges.mem n && n ≠ 0x1171e) || passedMarks.contains n

/-- The marks that take a vowel away. -/
def vowelKillerRanges : Text.Ranges := [
    (0x94d, 0x94d), (0x9cd, 0x9cd), (0xa4d, 0xa4d), (0xacd, 0xacd), (0xb4d, 0xb4d), (0xbcd, 0xbcd),
    (0xc4d, 0xc4d), (0xccd, 0xccd), (0xd3b, 0xd3c), (0xd4d, 0xd4d), (0xdca, 0xdca), (0xe3a, 0xe3a),
    (0xeba, 0xeba), (0xf84, 0xf84), (0x1039, 0x103a), (0x1714, 0x1715), (0x1734, 0x1734),
    (0x17d2, 0x17d2), (0x1a60, 0x1a60), (0x1b44, 0x1b44), (0x1baa, 0x1bab), (0x1bf2, 0x1bf3),
    (0x2d7f, 0x2d7f), (0xa806, 0xa806), (0xa82c, 0xa82c), (0xa8c4, 0xa8c4), (0xa953, 0xa953),
    (0xa9c0, 0xa9c0), (0xaaf6, 0xaaf6), (0xabed, 0xabed), (0x10a3f, 0x10a3f), (0x11046, 0x11046),
    (0x11070, 0x11070), (0x1107f, 0x1107f), (0x110b9, 0x110b9), (0x11133, 0x11134),
    (0x111c0, 0x111c0), (0x11235, 0x11235), (0x112ea, 0x112ea), (0x1134d, 0x1134d),
    (0x11442, 0x11442), (0x114c2, 0x114c2), (0x115bf, 0x115bf), (0x1163f, 0x1163f),
    (0x116b6, 0x116b6), (0x1172b, 0x1172b), (0x11839, 0x11839), (0x1193d, 0x1193e),
    (0x119e0, 0x119e0), (0x11a34, 0x11a34), (0x11a47, 0x11a47), (0x11a99, 0x11a99),
    (0x11c3f, 0x11c3f), (0x11d44, 0x11d45), (0x11d97, 0x11d97)]

/-- The Greek letters. -/
def greekRanges : Text.Ranges := [
    (0x371, 0x3e1), (0x3f3, 0x3fc), (0x1d26, 0x1d2a), (0x1f00, 0x1ff6), (0xab65, 0xab65)]

/-- The Hebrew letters. -/
def hebrewRanges : Text.Ranges := [(0x591, 0x5f4), (0xfb1e, 0xfb1e)]

/-- The Japanese letters. -/
def japaneseRanges : Text.Ranges := [
    (0x3005, 0x3005), (0x3007, 0x3007), (0x3041, 0x3096), (0x309d, 0x30fa), (0x30fd, 0x30fe),
    (0x31f0, 0x9fff), (0xfa0e, 0xfa29), (0x16fe3, 0x16fe3), (0x16ff0, 0x16ff1), (0x1aff0, 0x1b167),
    (0x20000, 0x3134a)]

/-- Whether the nearest of some characters that is not passed over joins, by a test. -/
def joins (joinsThere : Nat → Bool) (cs : List Char) : Bool :=
  (cs.find? fun c => !isPassed c.toNat).any fun c => joinsThere c.toNat

/-- Whether letters are joined here, given what stands before, nearest first, and after. -/
def mayJoin (before after : List Char) : Bool :=
  joins (fun n => leftJoiningRanges.mem n || dualRanges.mem n) before &&
    joins (fun n => rightJoiningRanges.mem n || dualRanges.mem n) after

/-- Whether the first of some characters is in some ranges. -/
def startsIn (ranges : Text.Ranges) (cs : List Char) : Bool :=
  cs.head?.any fun c => ranges.mem c.toNat

/-- Whether a character may stand between what is before it, nearest first, and what is after it,
although it may not stand anywhere. -/
def mayStand (before : List Char) (c : Char) (after : List Char) : Bool :=
  let n := c.toNat
  let around := before ++ after
  if n = 0x200c then startsIn vowelKillerRanges before || mayJoin before after
  else if n = 0x200d then startsIn vowelKillerRanges before
  else if n = 0xb7 then before.head? = some 'l' && after.head? = some 'l'
  else if n = 0x375 then startsIn greekRanges after
  else if n = 0x5f3 || n = 0x5f4 then startsIn hebrewRanges before
  else if n = 0x30fb then around.any fun d => japaneseRanges.mem d.toNat
  else if 0x660 ≤ n && n ≤ 0x669 then !around.any fun d => 0x6f0 ≤ d.toNat && d.toNat ≤ 0x6f9
  else if 0x6f0 ≤ n && n ≤ 0x6f9 then !around.any fun d => 0x660 ≤ d.toNat && d.toNat ≤ 0x669
  else false

end Name
end Http
end Cadence
