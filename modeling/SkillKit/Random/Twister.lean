import SkillKit.Decimal.Power

/-!
# The Mersenne twister

A generator of 32-bit words with a state of 624 words.  A block of words is made at once from
the state before it; each word is tempered when it is handed out.
-/

namespace SkillKit.Random

def stateSize : Nat := 624

def middle : Nat := 397

structure Twister where
  words : Array UInt32
  used : Nat

namespace Twister

def wordAt (words : Array UInt32) (i : Nat) : UInt32 :=
  (words[i % stateSize]?).getD 0

def spread (seed : UInt32) : Array UInt32 :=
  (List.range (stateSize - 1)).foldl (fun words i =>
    let last := wordAt words i
    words.push ((1812433253 : UInt32) * (last ^^^ (last >>> 30)) + (i + 1).toUInt32)) #[seed]

def mixedWord (factor : UInt32) (words : Array UInt32) (i : Nat) : UInt32 :=
  let last := wordAt words (i + stateSize - 1)
  wordAt words i ^^^ ((last ^^^ (last >>> 30)) * factor)

def putWord (words : Array UInt32) (i : Nat) (w : UInt32) : Array UInt32 :=
  let words := words.setIfInBounds i w
  if i + 1 == stateSize then words.setIfInBounds 0 w else words

def nextPlace (i : Nat) : Nat :=
  if i + 1 < stateSize then i + 1 else 1

def mixKey (key : List UInt32) (words : Array UInt32) : Array UInt32 × Nat :=
  let steps := max stateSize key.length
  (List.range steps).foldl (fun (words, i) step =>
    let j := step % key.length
    let w := mixedWord 1664525 words i + (key[j]?).getD 0 + j.toUInt32
    (putWord words i w, nextPlace i)) (words, 1)

def mixPlaces (words : Array UInt32) (i : Nat) : Array UInt32 :=
  ((List.range (stateSize - 1)).foldl (fun (words, i) _ =>
    let w := mixedWord 1566083941 words i - i.toUInt32
    (putWord words i w, nextPlace i)) (words, i)).1

def keyOf (n : Nat) : List UInt32 :=
  if n < 4294967296 then [n.toUInt32] else n.toUInt32 :: keyOf (n / 4294967296)
termination_by n
decreasing_by omega

def ofSeed (seed : Nat) : Twister :=
  let (words, i) := mixKey (keyOf seed) (spread 19650218)
  { words := (mixPlaces words i).setIfInBounds 0 0x80000000, used := stateSize }

def twisted (here next far : UInt32) : UInt32 :=
  let y := (here &&& 0x80000000) ||| (next &&& 0x7fffffff)
  far ^^^ (y >>> 1) ^^^ (if y &&& 1 == 0 then 0 else 0x9908b0df)

def nextBlock (words : Array UInt32) : Array UInt32 :=
  (List.range stateSize).foldl (fun words i =>
    words.setIfInBounds i
      (twisted (wordAt words i) (wordAt words (i + 1)) (wordAt words (i + middle)))) words

def tempered (y : UInt32) : UInt32 :=
  let y := y ^^^ (y >>> 11)
  let y := y ^^^ ((y <<< 7) &&& 0x9d2c5680)
  let y := y ^^^ ((y <<< 15) &&& 0xefc60000)
  y ^^^ (y >>> 18)

def next (g : Twister) : UInt32 × Twister :=
  let g := if g.used < stateSize then g else ⟨nextBlock g.words, 0⟩
  (tempered (wordAt g.words g.used), { g with used := g.used + 1 })

def bits (count : Nat) (g : Twister) : Nat × Twister :=
  let (w, g) := g.next
  (w.toNat >>> (32 - count), g)

/-- Draws numbers of as many bits as `n` has until one is below `n`. -/
def drawBelow (n : Nat) : (fuel : Nat) → Twister → Nat × Twister
  | 0, g => (0, g)
  | fuel + 1, g =>
    let (r, g) := g.bits (n.log2 + 1)
    if r < n then (r, g) else drawBelow n fuel g

def maxDraws : Nat := 4096

def below (n : Nat) (g : Twister) : Nat × Twister :=
  if n == 0 then (0, g) else drawBelow n maxDraws g

def unit (g : Twister) : Float × Twister :=
  let (a, g) := g.next
  let (b, g) := g.next
  let n := (a >>> 5).toNat * twoTo 26 + (b >>> 6).toNat
  (Float.ofNat n / Float.ofNat (twoTo 53), g)

def uniform (low high : Float) (g : Twister) : Float × Twister :=
  let (x, g) := g.unit
  (low + (high - low) * x, g)

def between (low high : Nat) (g : Twister) : Nat × Twister :=
  let (k, g) := g.below (high - low + 1)
  (low + k, g)

/-- Exchanges the items at the places from `i` down to one with items at random places up to
them. -/
def shuffleFrom (g : Twister) (items : Array α) : (i : Nat) → Array α × Twister
  | 0 => (items, g)
  | i + 1 =>
    let (j, g) := g.below (i + 2)
    shuffleFrom g (items.swapIfInBounds (i + 1) j) i

def shuffle (g : Twister) (items : List α) : List α × Twister :=
  let (items, g) := shuffleFrom g items.toArray (items.length - 1)
  (items.toList, g)

end Twister

end SkillKit.Random
