import SkillKit.Text.Ranges

/-!
# Letter case

Lower, upper and title case of a text, by the full case mappings of Unicode 14: one character
may become several, and a capital sigma at the end of a word becomes the final small sigma.
-/

namespace SkillKit.Text

/-- The characters `lo`, `lo + step`, …, `hi`, whose mapped form lies `shift` further on. -/
structure CaseRun where
  lo : Nat
  hi : Nat
  step : Nat
  shift : Int

def CaseRun.covers (r : CaseRun) (n : Nat) : Bool :=
  r.lo ≤ n && n ≤ r.hi && (n - r.lo) % r.step == 0

def CaseRun.single (c : Nat × Int) : CaseRun :=
  ⟨c.1, c.1, 1, c.2⟩

def lowerRuns : List CaseRun := List.map .single [
  (0x178, -121), (0x181, 210), (0x186, 206), (0x187, 1), (0x18b, 1), (0x18e, 79), (0x18f, 202),
  (0x190, 203), (0x191, 1), (0x193, 205), (0x194, 207), (0x196, 211), (0x197, 209), (0x198, 1),
  (0x19c, 211), (0x19d, 213), (0x19f, 214), (0x1a6, 218), (0x1a7, 1), (0x1a9, 218), (0x1ac, 1),
  (0x1ae, 218), (0x1af, 1), (0x1b7, 219), (0x1b8, 1), (0x1bc, 1), (0x1c4, 2), (0x1c5, 1),
  (0x1c7, 2), (0x1c8, 1), (0x1ca, 2), (0x1f1, 2), (0x1f6, -97), (0x1f7, -56), (0x220, -130),
  (0x23a, 10795), (0x23b, 1), (0x23d, -163), (0x23e, 10792), (0x241, 1), (0x243, -195),
  (0x244, 69), (0x245, 71), (0x376, 1), (0x37f, 116), (0x386, 38), (0x38c, 64), (0x3cf, 8),
  (0x3f7, 1), (0x3f9, -7), (0x3fa, 1), (0x4c0, 15), (0x10c7, 7264), (0x10cd, 7264),
  (0x1e9e, -7615), (0x1fbc, -9), (0x1fcc, -9), (0x1fec, -7), (0x1ffc, -9), (0x2132, 28),
  (0x2183, 1), (0x2c60, 1), (0x2c62, -10743), (0x2c63, -3814), (0x2c64, -10727), (0x2c6d, -10780),
  (0x2c6e, -10749), (0x2c6f, -10783), (0x2c70, -10782), (0x2c72, 1), (0x2c75, 1), (0x2cf2, 1),
  (0xa77d, -35332), (0xa78b, 1), (0xa78d, -42280), (0xa7aa, -42308), (0xa7ab, -42319),
  (0xa7ac, -42315), (0xa7ad, -42305), (0xa7ae, -42308), (0xa7b0, -42258), (0xa7b1, -42282),
  (0xa7b2, -42261), (0xa7b3, 928), (0xa7c4, -48), (0xa7c5, -42307), (0xa7c6, -35384), (0xa7d0, 1),
  (0xa7f5, 1)] ++ [
  ⟨0x41, 0x5a, 1, 32⟩, ⟨0xc0, 0xd6, 1, 32⟩, ⟨0xd8, 0xde, 1, 32⟩, ⟨0x100, 0x12e, 2, 1⟩,
  ⟨0x132, 0x136, 2, 1⟩, ⟨0x139, 0x147, 2, 1⟩, ⟨0x14a, 0x176, 2, 1⟩, ⟨0x179, 0x17d, 2, 1⟩,
  ⟨0x182, 0x184, 2, 1⟩, ⟨0x189, 0x18a, 1, 205⟩, ⟨0x1a0, 0x1a4, 2, 1⟩, ⟨0x1b1, 0x1b2, 1, 217⟩,
  ⟨0x1b3, 0x1b5, 2, 1⟩, ⟨0x1cb, 0x1db, 2, 1⟩, ⟨0x1de, 0x1ee, 2, 1⟩, ⟨0x1f2, 0x1f4, 2, 1⟩,
  ⟨0x1f8, 0x21e, 2, 1⟩, ⟨0x222, 0x232, 2, 1⟩, ⟨0x246, 0x24e, 2, 1⟩, ⟨0x370, 0x372, 2, 1⟩,
  ⟨0x388, 0x38a, 1, 37⟩, ⟨0x38e, 0x38f, 1, 63⟩, ⟨0x391, 0x3a1, 1, 32⟩, ⟨0x3a3, 0x3ab, 1, 32⟩,
  ⟨0x3d8, 0x3ee, 2, 1⟩, ⟨0x3fd, 0x3ff, 1, -130⟩, ⟨0x400, 0x40f, 1, 80⟩, ⟨0x410, 0x42f, 1, 32⟩,
  ⟨0x460, 0x480, 2, 1⟩, ⟨0x48a, 0x4be, 2, 1⟩, ⟨0x4c1, 0x4cd, 2, 1⟩, ⟨0x4d0, 0x52e, 2, 1⟩,
  ⟨0x531, 0x556, 1, 48⟩, ⟨0x10a0, 0x10c5, 1, 7264⟩, ⟨0x13a0, 0x13ef, 1, 38864⟩,
  ⟨0x13f0, 0x13f5, 1, 8⟩, ⟨0x1c90, 0x1cba, 1, -3008⟩, ⟨0x1cbd, 0x1cbf, 1, -3008⟩,
  ⟨0x1e00, 0x1e94, 2, 1⟩, ⟨0x1ea0, 0x1efe, 2, 1⟩, ⟨0x1f08, 0x1f0f, 1, -8⟩, ⟨0x1f18, 0x1f1d, 1, -8⟩,
  ⟨0x1f28, 0x1f2f, 1, -8⟩, ⟨0x1f38, 0x1f3f, 1, -8⟩, ⟨0x1f48, 0x1f4d, 1, -8⟩,
  ⟨0x1f59, 0x1f5f, 2, -8⟩, ⟨0x1f68, 0x1f6f, 1, -8⟩, ⟨0x1f88, 0x1f8f, 1, -8⟩,
  ⟨0x1f98, 0x1f9f, 1, -8⟩, ⟨0x1fa8, 0x1faf, 1, -8⟩, ⟨0x1fb8, 0x1fb9, 1, -8⟩,
  ⟨0x1fba, 0x1fbb, 1, -74⟩, ⟨0x1fc8, 0x1fcb, 1, -86⟩, ⟨0x1fd8, 0x1fd9, 1, -8⟩,
  ⟨0x1fda, 0x1fdb, 1, -100⟩, ⟨0x1fe8, 0x1fe9, 1, -8⟩, ⟨0x1fea, 0x1feb, 1, -112⟩,
  ⟨0x1ff8, 0x1ff9, 1, -128⟩, ⟨0x1ffa, 0x1ffb, 1, -126⟩, ⟨0x2160, 0x216f, 1, 16⟩,
  ⟨0x24b6, 0x24cf, 1, 26⟩, ⟨0x2c00, 0x2c2f, 1, 48⟩, ⟨0x2c67, 0x2c6b, 2, 1⟩,
  ⟨0x2c7e, 0x2c7f, 1, -10815⟩, ⟨0x2c80, 0x2ce2, 2, 1⟩, ⟨0x2ceb, 0x2ced, 2, 1⟩,
  ⟨0xa640, 0xa66c, 2, 1⟩, ⟨0xa680, 0xa69a, 2, 1⟩, ⟨0xa722, 0xa72e, 2, 1⟩, ⟨0xa732, 0xa76e, 2, 1⟩,
  ⟨0xa779, 0xa77b, 2, 1⟩, ⟨0xa77e, 0xa786, 2, 1⟩, ⟨0xa790, 0xa792, 2, 1⟩, ⟨0xa796, 0xa7a8, 2, 1⟩,
  ⟨0xa7b4, 0xa7c2, 2, 1⟩, ⟨0xa7c7, 0xa7c9, 2, 1⟩, ⟨0xa7d6, 0xa7d8, 2, 1⟩, ⟨0xff21, 0xff3a, 1, 32⟩,
  ⟨0x10400, 0x10427, 1, 40⟩, ⟨0x104b0, 0x104d3, 1, 40⟩, ⟨0x10570, 0x1057a, 1, 39⟩,
  ⟨0x1057c, 0x1058a, 1, 39⟩, ⟨0x1058c, 0x10592, 1, 39⟩, ⟨0x10594, 0x10595, 1, 39⟩,
  ⟨0x10c80, 0x10cb2, 1, 64⟩, ⟨0x118a0, 0x118bf, 1, 32⟩, ⟨0x16e40, 0x16e5f, 1, 32⟩,
  ⟨0x1e900, 0x1e921, 1, 34⟩, ⟨0x3f4, 0x3f4, 1, -60⟩, ⟨0x2126, 0x2126, 1, -7517⟩,
  ⟨0x212a, 0x212a, 1, -8383⟩, ⟨0x212b, 0x212b, 1, -8262⟩]

def upperOnlyRuns : List CaseRun := List.map .single [
  (0xb5, 743), (0x131, -232), (0x17f, -300), (0x1c5, -1), (0x1c8, -1), (0x1cb, -1), (0x1f2, -1),
  (0x345, 84), (0x3c2, -31), (0x3d0, -62), (0x3d1, -57), (0x3d5, -47), (0x3d6, -54), (0x3f0, -86),
  (0x3f1, -80), (0x3f5, -96), (0x1c80, -6254), (0x1c81, -6253), (0x1c82, -6244), (0x1c83, -6242),
  (0x1c84, -6242), (0x1c85, -6243), (0x1c86, -6236), (0x1c87, -6181), (0x1c88, 35266),
  (0x1e9b, -59), (0x1fbe, -7205)]

def CaseRun.inverse (r : CaseRun) : CaseRun :=
  ⟨((r.lo : Int) + r.shift).toNat, ((r.hi : Int) + r.shift).toNat, r.step, -r.shift⟩

def upperRuns : List CaseRun :=
  upperOnlyRuns ++ lowerRuns.map CaseRun.inverse

def upperLong : List (Nat × List Nat) :=
  (List.range 48).map (fun i =>
    (0x1f80 + i, [[0x1f08, 0x1f28, 0x1f68].getD (i / 16) 0 + i % 8, 0x399])) ++ [
  (0xdf, [0x53, 0x53]), (0x149, [0x2bc, 0x4e]), (0x1f0, [0x4a, 0x30c]),
  (0x390, [0x399, 0x308, 0x301]), (0x3b0, [0x3a5, 0x308, 0x301]), (0x587, [0x535, 0x552]),
  (0x1e96, [0x48, 0x331]), (0x1e97, [0x54, 0x308]), (0x1e98, [0x57, 0x30a]),
  (0x1e99, [0x59, 0x30a]), (0x1e9a, [0x41, 0x2be]), (0x1f50, [0x3a5, 0x313]),
  (0x1f52, [0x3a5, 0x313, 0x300]), (0x1f54, [0x3a5, 0x313, 0x301]),
  (0x1f56, [0x3a5, 0x313, 0x342]), (0x1fb2, [0x1fba, 0x399]), (0x1fb3, [0x391, 0x399]),
  (0x1fb4, [0x386, 0x399]), (0x1fb6, [0x391, 0x342]), (0x1fb7, [0x391, 0x342, 0x399]),
  (0x1fbc, [0x391, 0x399]), (0x1fc2, [0x1fca, 0x399]), (0x1fc3, [0x397, 0x399]),
  (0x1fc4, [0x389, 0x399]), (0x1fc6, [0x397, 0x342]), (0x1fc7, [0x397, 0x342, 0x399]),
  (0x1fcc, [0x397, 0x399]), (0x1fd2, [0x399, 0x308, 0x300]), (0x1fd3, [0x399, 0x308, 0x301]),
  (0x1fd6, [0x399, 0x342]), (0x1fd7, [0x399, 0x308, 0x342]), (0x1fe2, [0x3a5, 0x308, 0x300]),
  (0x1fe3, [0x3a5, 0x308, 0x301]), (0x1fe4, [0x3a1, 0x313]), (0x1fe6, [0x3a5, 0x342]),
  (0x1fe7, [0x3a5, 0x308, 0x342]), (0x1ff2, [0x1ffa, 0x399]), (0x1ff3, [0x3a9, 0x399]),
  (0x1ff4, [0x38f, 0x399]), (0x1ff6, [0x3a9, 0x342]), (0x1ff7, [0x3a9, 0x342, 0x399]),
  (0x1ffc, [0x3a9, 0x399]), (0xfb00, [0x46, 0x46]), (0xfb01, [0x46, 0x49]), (0xfb02, [0x46, 0x4c]),
  (0xfb03, [0x46, 0x46, 0x49]), (0xfb04, [0x46, 0x46, 0x4c]), (0xfb05, [0x53, 0x54]),
  (0xfb06, [0x53, 0x54]), (0xfb13, [0x544, 0x546]), (0xfb14, [0x544, 0x535]),
  (0xfb15, [0x544, 0x53b]), (0xfb16, [0x54e, 0x546]), (0xfb17, [0x544, 0x53d])]

def titleRuns : List CaseRun := List.map .single [
  (0x1c4, 1), (0x1c5, 0), (0x1c6, -1), (0x1c7, 1), (0x1c8, 0), (0x1c9, -1), (0x1ca, 1), (0x1cb, 0),
  (0x1cc, -1), (0x1f1, 1), (0x1f2, 0), (0x1f3, -1), (0x1fb3, 9), (0x1fbc, 0), (0x1fc3, 9),
  (0x1fcc, 0), (0x1ff3, 9), (0x1ffc, 0)] ++ [
  ⟨0x10d0, 0x10fa, 1, 0⟩, ⟨0x10fd, 0x10ff, 1, 0⟩, ⟨0x1f80, 0x1f87, 1, 8⟩, ⟨0x1f88, 0x1f8f, 1, 0⟩,
  ⟨0x1f90, 0x1f97, 1, 8⟩, ⟨0x1f98, 0x1f9f, 1, 0⟩, ⟨0x1fa0, 0x1fa7, 1, 8⟩, ⟨0x1fa8, 0x1faf, 1, 0⟩]

def titleLong : List (Nat × List Nat) := [
  (0xdf, [0x53, 0x73]), (0x587, [0x535, 0x582]), (0x1fb2, [0x1fba, 0x345]), (0x1fb4, [0x386, 0x345]),
  (0x1fb7, [0x391, 0x342, 0x345]), (0x1fc2, [0x1fca, 0x345]), (0x1fc4, [0x389, 0x345]),
  (0x1fc7, [0x397, 0x342, 0x345]), (0x1ff2, [0x1ffa, 0x345]), (0x1ff4, [0x38f, 0x345]),
  (0x1ff7, [0x3a9, 0x342, 0x345]), (0xfb00, [0x46, 0x66]), (0xfb01, [0x46, 0x69]), (0xfb02, [0x46, 0x6c]),
  (0xfb03, [0x46, 0x66, 0x69]), (0xfb04, [0x46, 0x66, 0x6c]), (0xfb05, [0x53, 0x74]),
  (0xfb06, [0x53, 0x74]), (0xfb13, [0x544, 0x576]), (0xfb14, [0x544, 0x565]), (0xfb15, [0x544, 0x56b]),
  (0xfb16, [0x54e, 0x576]), (0xfb17, [0x544, 0x56d])]

def casedStretches : List Nat := lengths [
  0x5114e5caf59194e12ce1829b11ab12c111311611422245a11c853e274c13a844138b13f12f51411a15f3a63a189,
  0x1d2811d11ec71351d46243713311716d23f1111111182624e2624ae188388188325b7194a8a621ae1ac8325b21,
  0x5111257b1431ce28c3e2a5e7ccaa15114e1c23463cd3cae6c1ce923482914554214614111111653111a21411cd,
  0x6b2b8d1915a132178b21711f11b121711f11b1ec4c44c1c81a82acd3a63a289951c74fd881a871d15b1ced3123b,
  0x13913f13913f13913925ac1731151413c17118241189171111c14222122118f11ad6ae881885adc81885edd6b1d,
  0x3a63a63a3fdc18c4fc92c11a3cec1813913f13913f]

def caseIgnorableStretches : List Nat := lengths [
  0x1181cd1282d1a14b111b1a61b15c112121115d6915139f73fb1121914243887ef22141114118f1114b11b1614f,
  0x3224241792213a22c1184417a11f11d21a73141841116f7a591862715c35b383812141b7a1b1bb3b3e11149411a,
  0x27923c22c25161217a13d21b2741353116f1316a11c17d13e21b27118411217a1162e22c14215417921b1323e13,
  0x211d4283423922216141ce1194c11b521511e6f111113b219a6111919211ca191b7211ba1137119813d22c11844,
  0x21a618211117117a1223bb361192431ee14a218916b55d15131b211871218823e23e23d31eea319c811be11f162,
  0x1d31b3116fd1cd4a11d7f6a231614711d131aa618822187a311321178312244821c19581511511684693f1814f1,
  0x16fcae31bd61bd155344c17ad15f481c811f11fd31e925e9b496b1d2811d111a1569521211a21851c21d31d3,
  0x22d129224216835e1b39184e11d2a3a22af1523914131182331cf32f119e4a1e21a843c111a141ca149e62bca,
  0x61712d91214a281c132818fd292ab14fce8141211f931951cc112521e13b1125223116b11b14b11811c2222618a,
  0x591f6e11fb4691b2b9268b418fd22cd1435845213198e1915a16288d52ad13ca1188932d118b25d15f1114b11b1,
  0x41161ac12f11321838b5374d1327922d18312c816211231bf1241a196c21c17e18154c36a11a14122246931a221,
  0x76ae211d5e32619118426581a48142242a814112488211948b514231cd11621111da2112181ad23b212643de212,
  0x4126abe217144889b212188297f1289b41977b53baef191acfb25bb111321981171211361fa2121722e1aa1161,
  0x55adf181dd72fc847d15e81e48d51217229172da81f152e11e1186a46f3efb32ac43e722819318c82f25e199bc,
  0x3e82881c83e1388e889]

def mapByTables (long : List (Nat × List Nat)) (runs : List CaseRun) (n : Nat) :
    Option (List Char) :=
  match long.lookup n with
  | some ms => some (ms.map Char.ofNat)
  | none => (runs.find? (·.covers n)).map fun r => [Char.ofNat ((n : Int) + r.shift).toNat]

def lowerChar (c : Char) : List Char :=
  if c.toNat < 128 then [c.toLower]
  else (mapByTables [(0x130, [0x69, 0x307])] lowerRuns c.toNat).getD [c]

def upperChar (c : Char) : List Char :=
  if c.toNat < 128 then [c.toUpper]
  else (mapByTables upperLong upperRuns c.toNat).getD [c]

def titleChar (c : Char) : List Char :=
  if c.toNat < 128 then [c.toUpper]
  else (mapByTables titleLong titleRuns c.toNat).getD (upperChar c)

def isCased (c : Char) : Bool :=
  inRanges casedStretches c.toNat

def nextIsCased : List Char → Bool
  | [] => false
  | c :: cs =>
    if inRanges caseIgnorableStretches c.toNat then nextIsCased cs
    else isCased c

def lowerCharIn (before after : List Char) (c : Char) : List Char :=
  if c.toNat == 0x3a3 then
    [if nextIsCased before && !nextIsCased after then Char.ofNat 0x3c2 else Char.ofNat 0x3c3]
  else lowerChar c

def lowerFrom (before : List Char) : List Char → List Char
  | [] => []
  | c :: cs => lowerCharIn before cs c ++ lowerFrom (c :: before) cs

def upperChars (cs : List Char) : List Char :=
  cs.flatMap upperChar

/-- Title case: a cased character is lowered after a cased one, and in title case otherwise. -/
def titleFrom (before : List Char) : List Char → List Char
  | [] => []
  | c :: cs =>
    (if before.head?.any isCased then lowerCharIn before cs c else titleChar c)
      ++ titleFrom (c :: before) cs

def lower (s : String) : String :=
  String.ofList (lowerFrom [] s.toList)

def upper (s : String) : String :=
  String.ofList (upperChars s.toList)

def title (s : String) : String :=
  String.ofList (titleFrom [] s.toList)

end SkillKit.Text
