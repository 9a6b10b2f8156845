import SkillKit.Text.Quoted
import SkillKit.Decimal.Fixed
import SkillKit.Time.Iso

/-!
# Atoms: the values without parts

Atoms are the leaves of documents and the keys of their mappings.  A set is a leaf too: nothing
asks for its members.  So is the place where a list or mapping comes up again within itself.
-/

namespace SkillKit

open Time Text

inductive Atom where
  | null
  | bool (b : Bool)
  | int (n : Int)
  | float (x : Float)
  | text (s : String)
  | bytes (b : ByteArray)
  | date (d : Date)
  | stamp (t : Stamp)
  | set (members : List String)
  | listAgain
  | dictAgain

namespace Atom

/-- Exact value of a number as a signed quotient: `none` when it is not finite. -/
def ratio? : Atom → Option (Int × Nat)
  | .bool b => some (if b then 1 else 0, 1)
  | .int n => some (n, 1)
  | .float x =>
    match Decimal.parts x with
    | .finite negative m q =>
      let (num, den) := Decimal.scaled m q
      some (if negative then -(num : Int) else num, den)
    | _ => none
  | _ => none

/-- Equality of values: numbers are compared by value, whatever their kind. -/
def same : Atom → Atom → Bool
  | .null, .null => true
  | .text a, .text b => a == b
  | .bytes a, .bytes b => a == b
  | .date a, .date b => a == b
  | .stamp a, .stamp b => a.offset.isSome == b.offset.isSome && a.instant == b.instant
  | .float a, .float b => a == b
  | .set a, .set b => a.length == b.length && a.all b.contains
  | a, b =>
    match a.ratio?, b.ratio? with
    | some (n, d), some (n', d') => n * d' == n' * d
    | _, _ => false

def truthy : Atom → Bool
  | .null => false
  | .bool b => b
  | .int n => n != 0
  | .float x => x != 0.0
  | .text s => !s.isEmpty
  | .bytes b => !b.isEmpty
  | .set members => !members.isEmpty
  | .date _ | .stamp _ | .listAgain | .dictAgain => true

def kind : Atom → String
  | .null => "NoneType"
  | .bool _ => "bool"
  | .int _ => "int"
  | .float _ => "float"
  | .text _ => "str"
  | .bytes _ => "bytes"
  | .date _ => "date"
  | .stamp _ => "datetime"
  | .set _ => "set"
  | .listAgain => "list"
  | .dictAgain => "dict"

def offsetLiteral (offset : Int) : String :=
  if offset == 0 then "datetime.timezone.utc"
  else
    let days := offset.fdiv dayMicros
    let rest := (offset.fmod dayMicros).toNat
    let parts :=
      (if days == 0 then [] else ["days=" ++ toString days])
        ++ (if rest / 1000000 == 0 then [] else ["seconds=" ++ toString (rest / 1000000)])
        ++ (if rest % 1000000 == 0 then [] else ["microseconds=" ++ toString (rest % 1000000)])
    "datetime.timezone(datetime.timedelta(" ++ ", ".intercalate parts ++ "))"

def literal : Atom → String
  | .null => "None"
  | .bool b => if b then "True" else "False"
  | .int n => toString n
  | .float x => Decimal.render x
  | .text s => quoted s
  | .bytes b => quotedBytes b
  | .date d => s!"datetime.date({d.year}, {d.month}, {d.day})"
  | .stamp t =>
    let time := if t.time.micro != 0 then [t.time.second, t.time.micro]
      else if t.time.second != 0 then [t.time.second] else []
    let nums := [t.date.year, t.date.month, t.date.day, t.time.hour, t.time.minute] ++ time
    let zone := (t.offset.map fun o => ["tzinfo=" ++ offsetLiteral o]).getD []
    "datetime.datetime(" ++ ", ".intercalate (nums.map toString ++ zone) ++ ")"
  | .set [] => "set()"
  | .set members => "\x7b" ++ ", ".intercalate members ++ "\x7d"
  | .listAgain => "[...]"
  | .dictAgain => "\x7b...\x7d"

def display : Atom → String
  | .text s => s
  | .date d => d.iso
  | .stamp t => t.isoWith " "
  | a => a.literal

end Atom

end SkillKit
