import ClusterBrowser.Text.Point

/-!
# The direction of a label

A label that holds letters written from right to left must be readable in one way only.

* `Direction`: how a letter of a label is written.
* `directionsFit`: the rule for labels with letters from right to left.
-/

namespace ClusterBrowser.DomainName

/-- How a letter of a label is written. -/
inductive Direction where
  | left
  | right
  | arabic
  | arabicNumber
  | europeanNumber
  | neutral
  | nonspacing
  deriving DecidableEq, Repr

/-- Inclusive ranges of the letters that are not written from left to right. -/
def directionRanges : List (Nat × Nat × Direction) := [
  (0x2d, 0x2d, .neutral), (0x30, 0x39, .europeanNumber), (0xb7, 0xb7, .neutral), (0x2b9, 0x2ba, .neutral),
  (0x2c6, 0x2cf, .neutral), (0x2ec, 0x2ec, .neutral), (0x300, 0x36f, .nonspacing), (0x375, 0x375, .neutral),
  (0x483, 0x487, .nonspacing), (0x591, 0x5c7, .nonspacing), (0x5d0, 0x5f4, .right), (0x610, 0x61a, .nonspacing),
  (0x620, 0x64a, .arabic), (0x64b, 0x65f, .nonspacing), (0x660, 0x669, .arabicNumber), (0x66e, 0x66f, .arabic),
  (0x670, 0x670, .nonspacing), (0x671, 0x6d5, .arabic), (0x6d6, 0x6e4, .nonspacing), (0x6e5, 0x6e6, .arabic),
  (0x6e7, 0x6ed, .nonspacing), (0x6ee, 0x6ef, .arabic), (0x6f0, 0x6f9, .europeanNumber), (0x6fa, 0x710, .arabic),
  (0x711, 0x711, .nonspacing), (0x712, 0x72f, .arabic), (0x730, 0x74a, .nonspacing), (0x74d, 0x7a5, .arabic),
  (0x7a6, 0x7b0, .nonspacing), (0x7b1, 0x7b1, .arabic), (0x7c0, 0x7ea, .right), (0x7eb, 0x7f3, .nonspacing),
  (0x7f4, 0x7f5, .right), (0x7fd, 0x7fd, .nonspacing), (0x800, 0x815, .right), (0x816, 0x819, .nonspacing),
  (0x81a, 0x81a, .right), (0x81b, 0x823, .nonspacing), (0x824, 0x824, .right), (0x825, 0x827, .nonspacing),
  (0x828, 0x828, .right), (0x829, 0x82d, .nonspacing), (0x840, 0x858, .right), (0x859, 0x85b, .nonspacing),
  (0x860, 0x88e, .arabic), (0x898, 0x89f, .nonspacing), (0x8a0, 0x8c9, .arabic), (0x8ca, 0x902, .nonspacing),
  (0x93a, 0x93a, .nonspacing), (0x93c, 0x93c, .nonspacing), (0x941, 0x948, .nonspacing), (0x94d, 0x94d, .nonspacing),
  (0x951, 0x957, .nonspacing), (0x962, 0x963, .nonspacing), (0x981, 0x981, .nonspacing), (0x9bc, 0x9bc, .nonspacing),
  (0x9c1, 0x9c4, .nonspacing), (0x9cd, 0x9cd, .nonspacing), (0x9e2, 0x9e3, .nonspacing), (0x9fe, 0xa02, .nonspacing),
  (0xa3c, 0xa3c, .nonspacing), (0xa41, 0xa51, .nonspacing), (0xa70, 0xa71, .nonspacing), (0xa75, 0xa82, .nonspacing),
  (0xabc, 0xabc, .nonspacing), (0xac1, 0xac8, .nonspacing), (0xacd, 0xacd, .nonspacing), (0xae2, 0xae3, .nonspacing),
  (0xafa, 0xb01, .nonspacing), (0xb3c, 0xb3c, .nonspacing), (0xb3f, 0xb3f, .nonspacing), (0xb41, 0xb44, .nonspacing),
  (0xb4d, 0xb56, .nonspacing), (0xb62, 0xb63, .nonspacing), (0xb82, 0xb82, .nonspacing), (0xbc0, 0xbc0, .nonspacing),
  (0xbcd, 0xbcd, .nonspacing), (0xc00, 0xc00, .nonspacing), (0xc04, 0xc04, .nonspacing), (0xc3c, 0xc3c, .nonspacing),
  (0xc3e, 0xc40, .nonspacing), (0xc46, 0xc56, .nonspacing), (0xc62, 0xc63, .nonspacing), (0xc81, 0xc81, .nonspacing),
  (0xcbc, 0xcbc, .nonspacing), (0xccc, 0xccd, .nonspacing), (0xce2, 0xce3, .nonspacing), (0xd00, 0xd01, .nonspacing),
  (0xd3b, 0xd3c, .nonspacing), (0xd41, 0xd44, .nonspacing), (0xd4d, 0xd4d, .nonspacing), (0xd62, 0xd63, .nonspacing),
  (0xd81, 0xd81, .nonspacing), (0xdca, 0xdca, .nonspacing), (0xdd2, 0xdd6, .nonspacing), (0xe31, 0xe31, .nonspacing),
  (0xe34, 0xe3a, .nonspacing), (0xe47, 0xe4e, .nonspacing), (0xeb1, 0xeb1, .nonspacing), (0xeb4, 0xebc, .nonspacing),
  (0xec8, 0xecd, .nonspacing), (0xf18, 0xf19, .nonspacing), (0xf35, 0xf39, .nonspacing), (0xf71, 0xf7e, .nonspacing),
  (0xf80, 0xf87, .nonspacing), (0xf8d, 0xfc6, .nonspacing), (0x102d, 0x1030, .nonspacing),
  (0x1032, 0x1037, .nonspacing), (0x1039, 0x103a, .nonspacing), (0x103d, 0x103e, .nonspacing),
  (0x1058, 0x1059, .nonspacing), (0x105e, 0x1060, .nonspacing), (0x1071, 0x1074, .nonspacing),
  (0x1082, 0x1082, .nonspacing), (0x1085, 0x1086, .nonspacing), (0x108d, 0x108d, .nonspacing),
  (0x109d, 0x109d, .nonspacing), (0x135d, 0x135f, .nonspacing), (0x1712, 0x1714, .nonspacing),
  (0x1732, 0x1733, .nonspacing), (0x1752, 0x1753, .nonspacing), (0x1772, 0x1773, .nonspacing),
  (0x17b7, 0x17bd, .nonspacing), (0x17c6, 0x17c6, .nonspacing), (0x17c9, 0x17d3, .nonspacing),
  (0x17dd, 0x17dd, .nonspacing), (0x1885, 0x1886, .nonspacing), (0x18a9, 0x18a9, .nonspacing),
  (0x1920, 0x1922, .nonspacing), (0x1927, 0x1928, .nonspacing), (0x1932, 0x1932, .nonspacing),
  (0x1939, 0x193b, .nonspacing), (0x1a17, 0x1a18, .nonspacing), (0x1a1b, 0x1a1b, .nonspacing),
  (0x1a56, 0x1a56, .nonspacing), (0x1a58, 0x1a60, .nonspacing), (0x1a62, 0x1a62, .nonspacing),
  (0x1a65, 0x1a6c, .nonspacing), (0x1a73, 0x1a7f, .nonspacing), (0x1ab0, 0x1b03, .nonspacing),
  (0x1b34, 0x1b34, .nonspacing), (0x1b36, 0x1b3a, .nonspacing), (0x1b3c, 0x1b3c, .nonspacing),
  (0x1b42, 0x1b42, .nonspacing), (0x1b6b, 0x1b81, .nonspacing), (0x1ba2, 0x1ba5, .nonspacing),
  (0x1ba8, 0x1ba9, .nonspacing), (0x1bab, 0x1bad, .nonspacing), (0x1be6, 0x1be6, .nonspacing),
  (0x1be8, 0x1be9, .nonspacing), (0x1bed, 0x1bed, .nonspacing), (0x1bef, 0x1bf1, .nonspacing),
  (0x1c2c, 0x1c33, .nonspacing), (0x1c36, 0x1c37, .nonspacing), (0x1cd0, 0x1ce0, .nonspacing),
  (0x1ce2, 0x1ce8, .nonspacing), (0x1ced, 0x1ced, .nonspacing), (0x1cf4, 0x1cf4, .nonspacing),
  (0x1cf8, 0x1cf9, .nonspacing), (0x1dc0, 0x1dff, .nonspacing), (0x200c, 0x200d, .neutral),
  (0x2cef, 0x2cf1, .nonspacing), (0x2d7f, 0x2d7f, .nonspacing), (0x2de0, 0x2dff, .nonspacing),
  (0x2e2f, 0x2e2f, .neutral), (0x302a, 0x302d, .nonspacing), (0x3099, 0x309a, .nonspacing),
  (0x30fb, 0x30fb, .neutral), (0xa66f, 0xa67d, .nonspacing), (0xa67f, 0xa67f, .neutral),
  (0xa69e, 0xa69f, .nonspacing), (0xa6f0, 0xa6f1, .nonspacing), (0xa717, 0xa71f, .neutral),
  (0xa788, 0xa788, .neutral), (0xa802, 0xa802, .nonspacing), (0xa806, 0xa806, .nonspacing),
  (0xa80b, 0xa80b, .nonspacing), (0xa825, 0xa826, .nonspacing), (0xa82c, 0xa82c, .nonspacing),
  (0xa8c4, 0xa8c5, .nonspacing), (0xa8e0, 0xa8f1, .nonspacing), (0xa8ff, 0xa8ff, .nonspacing),
  (0xa926, 0xa92d, .nonspacing), (0xa947, 0xa951, .nonspacing), (0xa980, 0xa982, .nonspacing),
  (0xa9b3, 0xa9b3, .nonspacing), (0xa9b6, 0xa9b9, .nonspacing), (0xa9bc, 0xa9bd, .nonspacing),
  (0xa9e5, 0xa9e5, .nonspacing), (0xaa29, 0xaa2e, .nonspacing), (0xaa31, 0xaa32, .nonspacing),
  (0xaa35, 0xaa36, .nonspacing), (0xaa43, 0xaa43, .nonspacing), (0xaa4c, 0xaa4c, .nonspacing),
  (0xaa7c, 0xaa7c, .nonspacing), (0xaab0, 0xaab0, .nonspacing), (0xaab2, 0xaab4, .nonspacing),
  (0xaab7, 0xaab8, .nonspacing), (0xaabe, 0xaabf, .nonspacing), (0xaac1, 0xaac1, .nonspacing),
  (0xaaec, 0xaaed, .nonspacing), (0xaaf6, 0xaaf6, .nonspacing), (0xabe5, 0xabe5, .nonspacing),
  (0xabe8, 0xabe8, .nonspacing), (0xabed, 0xabed, .nonspacing), (0xfb1e, 0xfe2f, .nonspacing),
  (0xfe73, 0xfe73, .arabic), (0x101fd, 0x101fd, .nonspacing), (0x102e0, 0x102e0, .nonspacing),
  (0x10376, 0x1037a, .nonspacing), (0x10800, 0x10a00, .right), (0x10a01, 0x10a0f, .nonspacing),
  (0x10a10, 0x10a35, .right), (0x10a38, 0x10a3f, .nonspacing), (0x10a60, 0x10ae4, .right),
  (0x10ae5, 0x10ae6, .nonspacing), (0x10b00, 0x10cf2, .right), (0x10d00, 0x10d23, .arabic),
  (0x10d24, 0x10d27, .nonspacing), (0x10d30, 0x10d39, .arabicNumber), (0x10e80, 0x10ea9, .right),
  (0x10eab, 0x10eac, .nonspacing), (0x10eb0, 0x10f27, .right), (0x10f30, 0x10f45, .arabic),
  (0x10f46, 0x10f50, .nonspacing), (0x10f70, 0x10f81, .right), (0x10f82, 0x10f85, .nonspacing),
  (0x10fb0, 0x10ff6, .right), (0x11001, 0x11001, .nonspacing), (0x11038, 0x11046, .nonspacing),
  (0x11070, 0x11070, .nonspacing), (0x11073, 0x11074, .nonspacing), (0x1107f, 0x11081, .nonspacing),
  (0x110b3, 0x110b6, .nonspacing), (0x110b9, 0x110c2, .nonspacing), (0x11100, 0x11102, .nonspacing),
  (0x11127, 0x1112b, .nonspacing), (0x1112d, 0x11134, .nonspacing), (0x11173, 0x11173, .nonspacing),
  (0x11180, 0x11181, .nonspacing), (0x111b6, 0x111be, .nonspacing), (0x111c9, 0x111cc, .nonspacing),
  (0x111cf, 0x111cf, .nonspacing), (0x1122f, 0x11231, .nonspacing), (0x11234, 0x11234, .nonspacing),
  (0x11236, 0x1123e, .nonspacing), (0x112df, 0x112df, .nonspacing), (0x112e3, 0x112ea, .nonspacing),
  (0x11300, 0x11301, .nonspacing), (0x1133b, 0x1133c, .nonspacing), (0x11340, 0x11340, .nonspacing),
  (0x11366, 0x11374, .nonspacing), (0x11438, 0x1143f, .nonspacing), (0x11442, 0x11444, .nonspacing),
  (0x11446, 0x11446, .nonspacing), (0x1145e, 0x1145e, .nonspacing), (0x114b3, 0x114b8, .nonspacing),
  (0x114ba, 0x114ba, .nonspacing), (0x114bf, 0x114c0, .nonspacing), (0x114c2, 0x114c3, .nonspacing),
  (0x115b2, 0x115b5, .nonspacing), (0x115bc, 0x115bd, .nonspacing), (0x115bf, 0x115c0, .nonspacing),
  (0x115dc, 0x115dd, .nonspacing), (0x11633, 0x1163a, .nonspacing), (0x1163d, 0x1163d, .nonspacing),
  (0x1163f, 0x11640, .nonspacing), (0x116ab, 0x116ab, .nonspacing), (0x116ad, 0x116ad, .nonspacing),
  (0x116b0, 0x116b5, .nonspacing), (0x116b7, 0x116b7, .nonspacing), (0x1171d, 0x1171f, .nonspacing),
  (0x11722, 0x11725, .nonspacing), (0x11727, 0x1172b, .nonspacing), (0x1182f, 0x11837, .nonspacing),
  (0x11839, 0x1183a, .nonspacing), (0x1193b, 0x1193c, .nonspacing), (0x1193e, 0x1193e, .nonspacing),
  (0x11943, 0x11943, .nonspacing), (0x119d4, 0x119db, .nonspacing), (0x119e0, 0x119e0, .nonspacing),
  (0x11a01, 0x11a06, .nonspacing), (0x11a09, 0x11a0a, .nonspacing), (0x11a33, 0x11a38, .nonspacing),
  (0x11a3b, 0x11a47, .nonspacing), (0x11a51, 0x11a56, .nonspacing), (0x11a59, 0x11a5b, .nonspacing),
  (0x11a8a, 0x11a96, .nonspacing), (0x11a98, 0x11a99, .nonspacing), (0x11c30, 0x11c3d, .nonspacing),
  (0x11c92, 0x11ca7, .nonspacing), (0x11caa, 0x11cb0, .nonspacing), (0x11cb2, 0x11cb3, .nonspacing),
  (0x11cb5, 0x11cb6, .nonspacing), (0x11d31, 0x11d45, .nonspacing), (0x11d47, 0x11d47, .nonspacing),
  (0x11d90, 0x11d91, .nonspacing), (0x11d95, 0x11d95, .nonspacing), (0x11d97, 0x11d97, .nonspacing),
  (0x11ef3, 0x11ef4, .nonspacing), (0x16af0, 0x16af4, .nonspacing), (0x16b30, 0x16b36, .nonspacing),
  (0x16f4f, 0x16f4f, .nonspacing), (0x16f8f, 0x16f92, .nonspacing), (0x16fe4, 0x16fe4, .nonspacing),
  (0x1bc9d, 0x1daaf, .nonspacing), (0x1e000, 0x1e02a, .nonspacing), (0x1e130, 0x1e136, .nonspacing),
  (0x1e2ae, 0x1e2ae, .nonspacing), (0x1e2ec, 0x1e2ef, .nonspacing), (0x1e800, 0x1e8c4, .right),
  (0x1e8d0, 0x1e8d6, .nonspacing), (0x1e922, 0x1e943, .right), (0x1e944, 0x1e94a, .nonspacing),
  (0x1e94b, 0x1e959, .right)]

def direction (c : Char) : Direction :=
  match directionRanges.find? fun r => r.1 ≤ c.toNat && c.toNat ≤ r.2.1 with
  | some r => r.2.2
  | none => .left

def Direction.isRightToLeft (d : Direction) : Bool := d = .right || d = .arabic || d = .arabicNumber

/-- Whether a letter of this direction may be the last of a label from right to left. -/
def Direction.mayEnd (d : Direction) : Bool := d.isRightToLeft || d = .europeanNumber

/-- The rule for labels with letters from right to left: such a letter comes first, none from left to right is among them,
numbers are of one kind, and the label ends with a letter or number, marks apart. -/
def directionsFit (label : List Char) : Bool :=
  let ds := label.map direction
  if !ds.any Direction.isRightToLeft then true
  else
    (ds.head? = some .right || ds.head? = some .arabic) && !ds.contains .left &&
      !(ds.contains .arabicNumber && ds.contains .europeanNumber) &&
      ((ds.reverse.dropWhile (· = .nonspacing)).head?.any Direction.mayEnd)

end ClusterBrowser.DomainName
