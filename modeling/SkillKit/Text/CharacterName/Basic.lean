import SkillKit.Text.CharacterName.Table
import SkillKit.Text.Basic
import Std.Data.HashMap
import Std.Data.HashSet

/-!
# Names of characters

Which texts name a character of Unicode 14.  Most names stand in a table and may be written in
small letters too.  Ideographs are named by their number and Hangul syllables by their sounds;
these two kinds of names are written in capitals only.
-/

namespace SkillKit.Text.CharacterName

/-! ## Names in the table

The names are a tree, which is written with signs.  `A` … `Z`, `0` … `9`, the space and the hyphen
stand for themselves, and a name ends at a point.  Brackets hold the ways to go on, one of which
may be to end.

The table packs this text by arithmetic coding.  Its digits are those of a number below one.  A sign is
told by six turns.  The two ways at a turn share the numbers below one among them, and the way in whose
share the number lies is the one to take.  Where it lies in this share tells the next turn in the same
way.  A way has a larger share the more often it was taken at places like this one.
-/

def signs : Array Char := ".[] -0123456789ABCDEFGHIJKLMNOPQRSTUVWXYZ".toList.toArray

def treeSize : Nat := 252677

def base : Nat := 88

/-- The value of a digit.  The one that would be a backslash is written as `!`. -/
def digitValue (c : Char) : Nat :=
  (if c == '!' then '\\' else c).toNat - '#'.toNat

structure Place where
  /-- The characters on the way from the root, the last first. -/
  path : List Char := []
  /-- In a bracket, the first character of the way before, or else the bracket; elsewhere a
  point. -/
  before : Char := '.'

/-- What is looked at before a sign: characters on the way to its place, and signs that were read. -/
def Place.views (p : Place) (read : List Char) : List (List Char) :=
  [0, 1, 8].map (p.before :: p.path.take ·) ++ [p.path.take 3]
    ++ [2, 4, 6, 16].map (read.take ·) ++ [p.before :: p.path.takeWhile (· != ' ')]

/-- A number for what is looked at in the `i`-th of the views. -/
def viewKey (i : Nat) (view : List Char) : Nat :=
  16 * view.foldl (fun k c => (773 * k + c.toNat) % 1000000007) i + i

/-- How often, of late, each of two ways was taken: the second in the last three bits. -/
def recount (second : Bool) (counts : UInt8) : UInt8 :=
  let more (n : UInt8) := min 7 (n + 1)
  let less (n : UInt8) := min n (n / 2 + 1)
  if second then 8 * less (counts / 8) + more (counts % 8)
  else 8 * more (counts / 8) + less (counts % 8)

def share (weight : Int) : Nat :=
  let n := min weight.natAbs 786431
  let odds := (65536 + n % 65536) <<< (n / 65536)
  let larger := 65536 * odds / (odds + 65536)
  if weight < 0 then 65536 - larger else larger

structure Reader where
  digits : List Char := table.toList.filter (· != '\n')
  /-- How far the number lies above the lower end of the share, as its digits tell so far. -/
  number : Nat := 0
  length : Nat := 1
  counts : Std.HashMap Nat ByteArray := {}
  weights : Array Int := .replicate 1728 0
  read : List Char := []
  place : Place := {}
  brackets : List Place := []

namespace Reader

def refill : List Char → Nat → Nat → List Char × Nat × Nat
  | c :: digits, number, length =>
    if length < base ^ 6 then refill digits (base * number + digitValue c) (base * length)
    else (c :: digits, number, length)
  | [], number, length => ([], number, length)

def move (c : Char) (place : Place) (brackets : List Place) : Place × List Place :=
  match c, brackets with
  | '[', _ =>
    let start := { place with before := c }
    (start, start :: brackets)
  | ']', _ :: outer => (outer.headD place, outer)
  | '.', _ => (brackets.headD place, brackets)
  | _, [] => (place, [])
  | _, inner :: outer =>
    ({ path := c :: place.path },
      (if place.before == '.' then inner else { inner with before := c }) :: outer)

def next (r : Reader) : Char × Reader := Id.run do
  let { digits, number, length, counts, weights, read, place, brackets } := r
  let kind := if place.before == '.' then 0 else if place.before == '[' then 1 else 2
  let keys := (place.views read).mapIdx viewKey
  let mut met := keys.map (counts.getD · ⟨.replicate 64 0⟩)
  let mut (digits, number, length) := (digits, number, length)
  let mut weights := weights
  let mut turn := 1
  for _ in [0:6] do
    (digits, number, length) := refill digits number length
    let speaking := met.mapIdx fun i counts => 64 * (3 * i + kind) + (counts.get! turn).toNat
    let p := share (speaking.foldl (fun sum k => sum + weights.getD k 0) 0)
    let start := length * p / 65536
    let second := number < start
    (number, length) := if second then (number, start) else (number - start, length - start)
    let step := ((if second then 65536 else 0) - p : Int) / 32
    weights := speaking.foldl (fun w k => w.setIfInBounds k (w.getD k 0 + step)) weights
    met := met.map fun counts => counts.set! turn (recount second (counts.get! turn))
    turn := 2 * turn + (if second then 1 else 0)
  let c := signs.getD (turn - 64) '.'
  let (place, brackets) := move c place brackets
  let counts := (keys.zip met).foldl (fun m (k, t) => m.insert k t) counts
  return (c, { digits, number, length, counts, weights, read := c :: read.take 15, place,
               brackets })

def names : Nat → Reader → Std.HashSet String → Std.HashSet String
  | 0, _, found => found
  | n + 1, r, found =>
    let path := r.place.path
    let (c, r) := r.next
    names n r (if c == '.' then found.insert (String.ofList path.reverse) else found)

end Reader

def listed : Thunk (Std.HashSet String) :=
  Thunk.mk fun _ => Reader.names treeSize {} {}

def isListed (name : List Char) : Bool :=
  listed.get.contains (String.ofList (name.map Char.toUpper))

/-! ## Ideographs -/

def ideographRuns : List (Nat × Nat) := [
  (0x3400, 0x4dbf), (0x4e00, 0x9fff), (0x20000, 0x2a6df), (0x2a700, 0x2b738), (0x2b740, 0x2b81d),
  (0x2b820, 0x2cea1), (0x2ceb0, 0x2ebe0), (0x30000, 0x3134a)]

def capitalHexDigit? (c : Char) : Option Nat :=
  if c.isDigit then some (c.toNat - '0'.toNat)
  else if 'A' ≤ c && c ≤ 'F' then some (c.toNat - 'A'.toNat + 10)
  else none

def isIdeographNumber (digits : List Char) : Bool :=
  (digits.length == 4 || digits.length == 5) &&
    match digits.foldlM (fun n c => (capitalHexDigit? c).map (n * 16 + ·)) 0 with
    | some n => ideographRuns.any fun (first, last) => first ≤ n && n ≤ last
    | none => false

/-! ## Hangul syllables -/

def initialSounds : List String :=
  ["", "G", "GG", "N", "D", "DD", "R", "M", "B", "BB", "S", "SS", "J", "JJ", "C", "K", "T", "P", "H"]

def middleSounds : List String :=
  ["A", "AE", "YA", "YAE", "EO", "E", "YEO", "YE", "O", "WA", "WAE", "OE", "YO", "U", "WEO", "WE",
    "WI", "YU", "EU", "YI", "I"]

def finalSounds : List String :=
  ["", "G", "GG", "GS", "N", "NJ", "NH", "D", "L", "LG", "LM", "LB", "LS", "LT", "LP", "LH", "M", "B",
    "BS", "S", "SS", "NG", "J", "C", "K", "T", "P", "H"]

/-- A letter of the sounds in the middle, which no other sound has. -/
def isMiddleLetter (c : Char) : Bool :=
  "AEIOUWY".toList.contains c

/-- Whether a text spells a syllable: three sounds, the outer ones of which may be missing. -/
def isSyllable (sounds : List Char) : Bool :=
  let initial := sounds.takeWhile (!isMiddleLetter ·)
  let rest := sounds.dropWhile (!isMiddleLetter ·)
  initialSounds.contains (String.ofList initial)
    && middleSounds.contains (String.ofList (rest.takeWhile isMiddleLetter))
    && finalSounds.contains (String.ofList (rest.dropWhile isMiddleLetter))

/-! ## All names -/

def isName (name : List Char) : Bool :=
  match dropPrefix? "CJK UNIFIED IDEOGRAPH-".toList name with
  | some digits => isIdeographNumber digits
  | none =>
    match dropPrefix? "HANGUL SYLLABLE ".toList name with
    | some sounds => isSyllable sounds
    | none => isListed name

end SkillKit.Text.CharacterName
