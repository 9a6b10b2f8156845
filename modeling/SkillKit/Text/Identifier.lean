import SkillKit.Text.Ranges

/-!
# Identifier characters

The characters that may start or continue an identifier: `XID_Start` with the underscore, and
`XID_Continue`, of Unicode 14.
-/

namespace SkillKit.Text

def identifierStartStretches : List Nat := lengths [
  0x4b5b5d443b18f596124e12ce1829b11ab12c11131161133215289111751e1c479a13f12f51411a15f3a1143a189,
  0x12e222184281f1a712a136e7a5a29613851b7392f13119142e514219493811b1b93d3e11281231a2721f111cb12,
  0x23e135121712e222181b12f21f12a135121712e131192832b1143f212121712e22461811a21e3121d1281343117,
  0x1281259131192921f2123f13511a12f13118413e221233a132812f131186c12e1c3332321112341336112911f31,
  0x43723134462812c5b1eb53b4c1187f14842d115211a111a111381511127a71d11687a72111913832a563831835,
  0x1d2a71b319b53a129219dc3621ae28284d18b2417911f241117241492415924111724159d15b215114e2911c1d,
  0x594c3a5c1a21d3e6e18295f1bd11aa6d192f6e3a45c1b523e693f1a18e5115971b918b1414b6c1f311d1e2a1e2b,
  0x21411cd1d2811d11ec71351d46243713311716d23f1111111182624e2624ae1883885132161459325b71924c1a3,
  0x1361ae452571939318ce717171717171717192f281778215114e1c23463cd59ef592914554228111111662111a,
  0x14131283851112518821cf2194f1a823f285f2c21a28349d25e18b5ba9d1881cf881888286848291be15b5411ba,
  0x1719626261c371b233811125223116a3132f2c18132f59151a1a152813c5f73d392f1a3c1b211367e6a1e6c3d2f,
  0x31111ef1a586e21882a3ba629b491dc1212111511d11a11551c74e1da25de28c8c6942f1c2decc3d1eb61e15b17,
  0x11844c23e1a4e53e1d485f6933d49b6d18d1fb4a1e21f1212b13a11c4b326262633f2781b3a63a4c1fe11111111,
  0x1893f192f1a2f213215c112618d1915a1638181a2e194ef18b21711f11b121711f11b1c6c185844c44c2a2be5a5,
  0x3d19e265a5bc4c1d6b1d6b6f1991de2a1d2b1a2e1a6e3b3c1184b3d33d5a3d13141f1188267818e3a1a2e1a212b,
  0x184e5f71a11f1411171ac3912a4b1112d41e681c134b181213d4c3a39485d1d122796d1c2f3b2d5e2a5a2e1811a,
  0x2118212183f1881ec5c2f974d3b18f11d5b7b12c684c4595f2f81122c683e32c42a6d2be51c12a135121712e222,
  0x2fd2b58f11e4812163912d4e12171e83e691294d11948f1992a12b5e1b12d17581a13c111284f2181be1111f381,
  0x1519b2881881ae82b52d3f428682a3e2919f293f718f928ef9198f7fa928df1f1c9599c38c291df1ce1eba19f1,
  0x14222122118f11ad1bdce1a71931d51db4c8c69c1842935d4cb12171429bcf195a2bae181bff83c1121881d18a,
  0x5c2a3e58912871a5d7c93f3cec1813913f13913f13913f13913f13913925ac1731151413c17118241189171111c,
  0x52911a1114141714211211111111112112131111114161111411a11211213b142aec1718c7b38d11f1214172bec,
  0x19d9b2fca18be68bf1ece91e1ba8a23be7188f9481abbc818d8c291513]

def identifierOnlyPartStretches : List Nat := lengths [
  0x13119143811919491a1f1b1bb3b3e12f1a241226271cd163f681b198112121115d49953fb12f1e8199811fd1a68,
  0x1a222c313118117831b131c2c133224511783211e1a221a1193222711783291a221a712a136e491385a187c35b5,
  0x41317126f4281a221b274131711783291a221b2741317116f5281a1e119413357b12a1a221a373222711783161a,
  0x12c1cc1194c11b5212c6924111111b1a627e1a261b1a111af1a1181c18117d221a61811164118e3291a221a119,
  0x3d11a7957c1b2881a1a1c41c1ee129f1b13491a21194818823e23d33c41ec8191931aff1f11c1d4372313441c1a,
  0x1c3141d1fb12b218ff18838e3216142d131ee1a61a182c681e5c1a21d3e31c19291a1b295f5692811e2e1a61b2,
  0x1e5f45c1d39183c1b1d2a61a1a2a6a21ab1452f141314a821a82481a4118d1a7ae8d21d9618da481c8129d35ffe,
  0x119bd21be14d1a388338232828281bc914fccc1a221183dc255591125223116a3491a221811c1e5f1a1a11b1a1f,
  0x251a11e4c361a5d171b5d41a221b3f1f6d31fa4691b2b925e91a18418fd22cd14358452132daf1a4cd52ad13ca,
  0x1a1f291aa23b19273ad1a1c2c1a9141a192a388537221a11932227126f461a51c2c8161c1aa1c14181e6831c15c,
  0x1e12e781a28181186ad285e1b19118417581a3c137271ef1a1c21114221618e1a2cd1f3ea1a41f1ab1a181d1a9,
  0x518be2f25e199c924eadb21b11a9476f111fed1a3977b54e1a1ae1a4ddd945991a1851215681a181171211361fa,
  0x1a19aae1a571dd72fae1e7d15cc1a19748d51217229172da81f152e11e1186a46f18886a2e9932ac43e72181863,
  0x3e8388ac8e]

def isIdentifierStart (c : Char) : Bool :=
  inRanges identifierStartStretches c.toNat

def isIdentifierPart (c : Char) : Bool :=
  isIdentifierStart c || inRanges identifierOnlyPartStretches c.toNat

/-! ## Letters and digits

The characters that are letters, or that stand for a number in some way: digits of all scripts,
but also fractions, superscripts and Roman numerals. -/

def notBothStretches : List Nat := lengths [
  0x2b771d81a1cf7181a1eb1d1de621a1ee1a1ee1a1dc641a1ee1a6bc1a38e1a28e1a1bcd11afb321521aa14d1a68,
  0x28e1a1ae1a2ee1a61a2cd1b2881a2ff21db1a2e1a61a29cb2c1b9f1a18e1a49c2c18e1a3c11b91a3c118b1a1dd,
  0x188e1a79dc81f4f1a481f1183e1a29a41dca14e912dd93e19ee2e19e7c1bae159284912d129e1a663128ae1a61a,
  0x1a5fc44c3b5ad22941895d5cf228c1a2a91111111111111111ec26ae6589cc1a6ae1a1ae1a2e1a38e1a4e1a2ba6,
  0x2883e28e71e845a1a2be3f4ce1a68659a7591838181d8519b33e26c191885e228222c862e519b194f739181ede,
  0x28e1a1ae1a4da9b2d18ae1a18e1a3cb3d1bee1a1bd2b6cc1c1ce1a1ce1a5ee1a1ee1a5ae1a3fb2c71a2a81a7c1a,
  0x1a5bcb1d1f8a1f15d19c41317b1caf1a288192f9d1a6ce1a4d886a29ad391dc2c6a9992f1cbe711a]

def isAlphanumeric (c : Char) : Bool :=
  inRanges identifierStartStretches c.toNat != inRanges notBothStretches c.toNat

end SkillKit.Text
