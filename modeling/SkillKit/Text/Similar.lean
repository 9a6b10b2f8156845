/-!
# Similar words

Two words are as similar as the letters that they share in order, found by taking the longest
block that stands in both, and then the same on either side of it.
-/

namespace SkillKit.Text

def sharedStart : List Char → List Char → Nat
  | a :: as, b :: bs => if a == b then sharedStart as bs + 1 else 0
  | _, _ => 0

structure Block where
  left : Nat
  right : Nat
  size : Nat
deriving Repr, DecidableEq

def longestBlock (a b : List Char) : Block :=
  let starts := (List.range a.length).flatMap fun i => (List.range b.length).map fun j => (i, j)
  starts.foldl (fun best (i, j) =>
    let size := sharedStart (a.drop i) (b.drop j)
    if best.size < size then ⟨i, j, size⟩ else best) ⟨0, 0, 0⟩

def sharedCount : (fuel : Nat) → List Char → List Char → Nat
  | 0, _, _ => 0
  | fuel + 1, a, b =>
    let block := longestBlock a b
    if block.size == 0 then 0
    else
      sharedCount fuel (a.take block.left) (b.take block.right) + block.size
        + sharedCount fuel (a.drop (block.left + block.size)) (b.drop (block.right + block.size))

def similarity (a b : String) : Nat × Nat :=
  let a := a.toList
  let b := b.toList
  (2 * sharedCount (a.length + 1) a b, a.length + b.length)

/-- Whether a similarity is at least three fifths; two empty words are the same. -/
def isClose : Nat × Nat → Bool
  | (shared, all) => 3 * all ≤ 5 * shared

def isCloser (a b : (Nat × Nat) × String) : Bool :=
  let (x, v) := a
  let (y, w) := b
  let left := x.1 * y.2
  let right := y.1 * x.2
  right < left || (left == right && w < v)

def closeWords (word : String) (words : List String) : List String :=
  let close := (words.map fun w => (similarity w word, w)).filter fun c => isClose c.1
  ((close.mergeSort isCloser).take 3).map (·.2)

end SkillKit.Text
