import SkillKit.Decimal.Reader
import SkillKit.Files.Path
import SkillKit.Text.Base64
import SkillKit.Time.Span

/-!
# Samples

What a bench hands back: documents, and beside them sets, numbers of other kinds, moments,
arrays and things that only have a name.  A sample has the name of its kind, and samples that
are told apart by their text are written as a program would write them.
-/

namespace SkillKit.Gauge

inductive Sample where
  | null
  | bool (b : Bool)
  | int (n : Int)
  | float (x : Float)
  | complex (re im : Float)
  | text (s : String)
  | bytes (b : List UInt8)
  | buffer (b : List UInt8)
  | list (items : List Sample)
  | tuple (items : List Sample)
  | dict (pairs : List (Sample × Sample))
  | set (items : List Sample)
  | frozen (items : List Sample)
  /-- The outcome of running code: success, what was printed, and the error if there was one. -/
  | outcome (success output error : Sample)
  | date (year month day : Nat)
  | clock (hour minute second : Nat)
  | span (micros : Int)
  | decimal (written : String)
  | fraction (num : Int) (den : Nat)
  | uid (digits : String)
  | path (p : Path)
  | ints (items : List Int)
  | floats (items : List Float)
  | thing
  | function

namespace Sample

instance : Inhabited Sample := ⟨null⟩

def ofAtom : Atom → Sample
  | .null => .null
  | .bool b => .bool b
  | .int n => .int n
  | .float x => .float x
  | .text s => .text s
  | .bytes b => .bytes b.toList
  | .date d => .date d.year d.month d.day
  | .stamp t => .text t.iso
  | a => .text a.display

def kind : Sample → String
  | .null => "NoneType"
  | .bool _ => "bool"
  | .int _ => "int"
  | .float _ => "float"
  | .complex .. => "complex"
  | .text _ => "str"
  | .bytes _ => "bytes"
  | .buffer _ => "bytearray"
  | .list _ => "list"
  | .tuple _ => "tuple"
  | .dict _ => "dict"
  | .set _ => "set"
  | .frozen _ => "frozenset"
  | .outcome .. => "ExecutionResult"
  | .date .. => "date"
  | .clock .. => "time"
  | .span _ => "timedelta"
  | .decimal _ => "Decimal"
  | .fraction .. => "Fraction"
  | .uid _ => "UUID"
  | .path _ => "PurePosixPath"
  | .ints _ => "ndarray"
  | .floats _ => "ndarray"
  | .thing => "object"
  | .function => "function"

/-! ## Reading -/

def partsOf : Value → List Value
  | .list items => items
  | _ => []

def wholeOf : Value → Int
  | .int n => n
  | _ => 0

def doubleOf (v : Value) : Float :=
  match (Number.ofValue? v).map Number.toFloat with
  | some (.ok x) => x
  | _ => 0.0

def ofKind (kind : String) (v : Value) : Sample :=
  let items := partsOf v
  let whole := fun i => wholeOf (items.getD i .null)
  let double := fun i => doubleOf (items.getD i .null)
  match kind with
  | "bytes" => .bytes (Text.decodeBase64 v.display.toList)
  | "bytearray" => .buffer (Text.decodeBase64 v.display.toList)
  | "nan" => .float (0.0 / 0.0)
  | "complex" => .complex (double 0) (double 1)
  | "date" => .date (whole 0).toNat (whole 1).toNat (whole 2).toNat
  | "time" => .clock (whole 0).toNat (whole 1).toNat (whole 2).toNat
  | "timedelta" => .span ((whole 0 * 86400 + whole 1) * 1000000 + whole 2)
  | "decimal" => .decimal v.display
  | "fraction" => .fraction (if whole 1 < 0 then -(whole 0) else whole 0) (whole 1).natAbs
  | "uuid" => .uid v.display
  | "path" => .path (Path.ofString v.display)
  | "ints" => .ints (items.map wholeOf)
  | "floats" => .floats (items.map doubleOf)
  | "function" => .function
  | _ => .thing

def ofParts? (kind : String) (parts : List Sample) : Option Sample :=
  match kind with
  | "tuple" => some (.tuple parts)
  | "set" => some (.set parts)
  | "frozenset" => some (.frozen parts)
  | "result" => some (.outcome (parts.getD 0 .null) (parts.getD 1 .null) (parts.getD 2 .null))
  | "dict" => some (.dict (parts.filterMap fun
      | .list [k, v] => some (k, v)
      | _ => none))
  | _ => none

mutual

/-- The sample that a document tells.  A mapping of `$` and `v` tells a sample of a kind that
documents do not have. -/
def ofMarked : Value → Sample
  | .atom a => ofAtom a
  | .list items => .list (ofMarkedItems items)
  | .pair a b => .tuple [ofMarked a, ofMarked b]
  | .dict [(.text "$", .atom (.text kind)), (.text "v", v)] =>
    (ofParts? kind (ofMarkedParts v)).getD (ofKind kind v)
  | .dict fields => .dict (ofMarkedFields fields)

def ofMarkedItems : List Value → List Sample
  | [] => []
  | v :: vs => ofMarked v :: ofMarkedItems vs

def ofMarkedParts : Value → List Sample
  | .list items => ofMarkedItems items
  | _ => []

def ofMarkedFields : List (Atom × Value) → List (Sample × Sample)
  | [] => []
  | (k, v) :: fs => (ofAtom k, ofMarked v) :: ofMarkedFields fs

end

/-! ## Written forms -/

def clockLiteral (hour minute second : Nat) : String :=
  let parts := [hour, minute] ++ (if second == 0 then [] else [second])
  "datetime.time(" ++ ", ".intercalate (parts.map toString) ++ ")"

def spanLiteral (micros : Int) : String :=
  let days := micros.fdiv Time.dayMicros
  let rest := (micros.fmod Time.dayMicros).toNat
  let parts :=
    (if days == 0 then [] else ["days=" ++ toString days])
      ++ (if rest / 1000000 == 0 then [] else ["seconds=" ++ toString (rest / 1000000)])
      ++ (if rest % 1000000 == 0 then [] else ["microseconds=" ++ toString (rest % 1000000)])
  let inner := if parts.isEmpty then "0" else ", ".intercalate parts
  "datetime.timedelta(" ++ inner ++ ")"

/-- A decimal number, written with its point when that needs no zeros behind the digits and at most
five in front of them. -/
def decimalDigits (digits : List Char) (exponent : Int) : String :=
  let lead : Int := digits.length + exponent
  if exponent ≤ 0 && -6 < lead then
    if exponent == 0 then String.ofList digits
    else if 0 < lead then
      String.ofList (digits.take lead.toNat) ++ "." ++ String.ofList (digits.drop lead.toNat)
    else "0." ++ String.ofList (List.replicate (-lead).toNat '0' ++ digits)
  else
    let rest := digits.drop 1
    let sign := if 0 < lead then "+" else ""
    String.ofList (digits.take 1) ++ (if rest.isEmpty then "" else "." ++ String.ofList rest)
      ++ "E" ++ sign ++ toString (lead - 1)

def decimalText (written : String) : String :=
  let cs := (Text.strip written).toList.filter (· != '_')
  let (negative, cs) := Decimal.readSign cs
  let sign := if negative then "-" else ""
  let body := cs.map Char.toLower
  if body == "nan".toList then sign ++ "NaN"
  else if body == "inf".toList || body == "infinity".toList then sign ++ "Infinity"
  else
    let number := body.takeWhile (· != 'e')
    let power := String.ofList (body.drop (number.length + 1))
    let whole := number.takeWhile (· != '.')
    let fraction := number.drop (whole.length + 1)
    let digits := match (whole ++ fraction).dropWhile (· == '0') with
      | [] => ['0']
      | ds => ds
    sign ++ decimalDigits digits ((Decimal.readInt? power).getD 0 - fraction.length)

def fractionLiteral (num : Int) (den : Nat) : String :=
  let common := Nat.gcd num.natAbs den
  let num := num / common
  let den := den / common
  s!"Fraction({num}, {den})"

def uidText (digits : String) : String :=
  let ds := digits.toLower.toList.filter (· != '-')
  let group := fun start size => String.ofList ((ds.drop start).take size)
  "-".intercalate [group 0 8, group 8 4, group 12 4, group 16 4, group 20 12]

end Sample

end SkillKit.Gauge
