import SkillKit.Data.Value

/-!
# Arithmetic on documents

Truth values count as zero and one.  Integers are exact; as soon as a float takes part, the
result is a float.
-/

namespace SkillKit

inductive Number where
  | int (n : Int)
  | float (x : Float)

namespace Number

def ofValue? : Value → Option Number
  | .bool b => some (.int (if b then 1 else 0))
  | .int n => some (.int n)
  | .float x => some (.float x)
  | _ => none

def ofValue (v : Value) : Except Fault Number :=
  match ofValue? v with
  | some n => .ok n
  | none => .error .wrongKind

def toValue : Number → Value
  | .int n => .int n
  | .float x => .float x

def toFloat : Number → Except Fault Float
  | .float x => .ok x
  | .int n =>
    match Decimal.ofInt? n with
    | some x => .ok x
    | none => .error .tooLarge

def combine (exact : Int → Int → Int) (rounded : Float → Float → Float) :
    Number → Number → Except Fault Number
  | .int a, .int b => .ok (.int (exact a b))
  | a, b => do
    let x ← a.toFloat
    let y ← b.toFloat
    .ok (.float (rounded x y))

def add : Number → Number → Except Fault Number :=
  combine (· + ·) (· + ·)

def sub : Number → Number → Except Fault Number :=
  combine (· - ·) (· - ·)

def mul : Number → Number → Except Fault Number :=
  combine (· * ·) (· * ·)

def divInt (a b : Int) : Except Fault Float :=
  let x := Decimal.ofRatio ((a < 0) != (b < 0) && a != 0) a.natAbs b.natAbs
  if Decimal.isFinite x then .ok x else .error .tooLarge

def div : Number → Number → Except Fault Float
  | .int a, .int b => if b == 0 then .error .dividedByZero else divInt a b
  | a, b => do
    let x ← a.toFloat
    let y ← b.toFloat
    if y == 0.0 then .error .dividedByZero else .ok (x / y)

def ratio? : Number → Option (Int × Nat)
  | .int n => some (n, 1)
  | .float x => (Atom.float x).ratio?

/-- Order of two numbers by exact value; nothing is below or above a NaN. -/
def lessThan (a b : Number) : Bool :=
  match a.ratio?, b.ratio? with
  | some (n, d), some (n', d') => n * d' < n' * d
  | _, _ =>
    -- an infinite number is compared with any finite stand-in of the other's sign
    let approx : Number → Float
      | .float x => x
      | .int _ => 0.0
    approx a < approx b

def same (a b : Number) : Bool :=
  match a.ratio?, b.ratio? with
  | some (n, d), some (n', d') => n * d' == n' * d
  | none, none =>
    match a, b with
    | .float x, .float y => x == y
    | _, _ => false
  | _, _ => false

def round (places : Nat) : Number → Number
  | .int n => .int n
  | .float x => .float (Decimal.roundTo places x)

end Number

namespace Value

def plus (a b : Value) : Except Fault Value := do
  let n ← (← Number.ofValue a).add (← Number.ofValue b)
  return n.toValue

mutual

/-- Whether a document comes before another of its kind; only numbers, texts and lists have an
order. -/
def before : Value → Value → Except Fault Bool
  | .text a, .text b => .ok (a < b)
  | .list xs, .list ys => beforeItems xs ys
  | .atom (.date a), .atom (.date b) => .ok (a.ordinal < b.ordinal)
  | .atom (.bytes a), .atom (.bytes b) => .ok (a.toList < b.toList)
  | .atom (.stamp a), .atom (.stamp b) =>
    if a.offset.isSome == b.offset.isSome then .ok (a.instant < b.instant) else .error .wrongKind
  | a, b =>
    match Number.ofValue? a, Number.ofValue? b with
    | some m, some n => .ok (m.lessThan n)
    | _, _ => .error .wrongKind

def beforeItems : List Value → List Value → Except Fault Bool
  | _, [] => .ok false
  | [], _ :: _ => .ok true
  | x :: xs, y :: ys => if x.same y then beforeItems xs ys else before x y

end

def insertBy (key : α → Value) (x : α) : List α → Except Fault (List α)
  | [] => .ok [x]
  | y :: ys => do
    if ← before (key x) (key y) then .ok (x :: y :: ys)
    else .ok (y :: (← insertBy key x ys))

/-- The items in the order of their keys; items with keys of one rank keep their order. -/
def sortBy (key : α → Value) (xs : List α) : Except Fault (List α) :=
  xs.foldlM (fun sorted x => insertBy key x sorted) []

/-- The items in falling order of their keys; items with keys of one rank keep their order. -/
def sortByDown (key : α → Value) (xs : List α) : Except Fault (List α) := do
  return (← sortBy key xs.reverse).reverse

end Value

end SkillKit
