import SkillKit.Yaml.Node
import SkillKit.Decimal.Reader
import SkillKit.Text.Base64

/-!
# What YAML scalars stand for

The atoms of scalars with standard tags, by the rules of YAML 1.1: `yes` and `no` are truth
values, a leading zero makes a number octal, colons divide sixties, and dates are dates.
-/

namespace SkillKit.Yaml

open Text Time

def ofBase? (base : Nat) (cs : List Char) : Option Nat :=
  if cs.isEmpty then none
  else cs.foldlM (fun n c => do
    let d ← (digitValue? c).or (Json.hexValue? c)
    if d < base then some (n * base + d) else none) 0

def ofMarkedBase? (base : Nat) (mark : Char) (cs : List Char) : Option Int := do
  let (negative, cs) := Decimal.readSign (strip (String.ofList cs)).toList
  let n ← match cs with
    | '0' :: c :: ds => if c.toLower == mark then ofBase? base ds else ofBase? base cs
    | _ => ofBase? base cs
  return if negative then -n else n

def intOf (text : String) : Except Fault Int := do
  let cs := text.toList.filter (· != '_')
  if cs.isEmpty then throw .outOfBounds
  let (negative, cs) := Decimal.readSign cs
  let number : Option Int ← match cs with
    | [] => throw .outOfBounds
    | '0' :: 'b' :: ds => pure (ofMarkedBase? 2 'b' ds)
    | '0' :: 'x' :: ds => pure (ofMarkedBase? 16 'x' ds)
    | '0' :: _ => pure (ofMarkedBase? 8 'o' cs)
    | _ =>
      let parts := (splitWhen (· == ':') cs).map fun p => Decimal.readInt? (String.ofList p)
      pure (parts.foldlM (fun n p => p.map (n * 60 + ·)) 0)
  match number with
  | some n => return if negative then -n else n
  | none => throw .unusable

def floatOf (text : String) : Except Fault Float := do
  let cs := (lower text).toList.filter (· != '_')
  if cs.isEmpty then throw .outOfBounds
  let (negative, cs) := Decimal.readSign cs
  let signed (x : Float) : Float := if negative then -x else x
  if cs == ".inf".toList then return signed Json.infinity
  else if cs == ".nan".toList then return Json.infinity - Json.infinity
  else
    let parts := (splitWhen (· == ':') cs).map fun p => Decimal.readFloat? (String.ofList p)
    match parts.mapM id with
    | none => throw .unusable
    | some [x] => return signed x
    | some xs =>
      -- the lowest place first, each place worth sixty times the one before
      let total := xs.reverse.foldl (fun (sum, base) x => (sum + x * base, base * 60.0)) (0.0, 1.0)
      return signed total.1

def stampOf (text : String) : Except Fault Atom :=
  match stampParts? false (dropFinalBreak text.toList) with
  | none => .error (.noPart "NoneType" "groupdict")
  | some p =>
    let date : Date := ⟨p.year, p.month, p.day⟩
    match p.time with
    | none => if date.isValid then .ok (.date date) else .error .unusable
    | some (hour, minute, second) =>
      let micro := Json.digitsValue ((p.fraction ++ List.replicate 6 '0').take 6)
      let clock : Clock := ⟨hour, minute, second, micro⟩
      let offset := p.offset.map (· * 60000000)
      if date.isValid && clock.isValid && (offset.getD 0).natAbs < 86400000000 then
        .ok (.stamp ⟨date, clock, offset⟩)
      else .error .unusable

def bytesOf (text : String) : Except Fault ByteArray :=
  match decodeBase64? text.toList with
  | some bytes => if text.toList.all (·.toNat < 128) then .ok ⟨bytes.toArray⟩ else .error .badYaml
  | none => .error .badYaml

def atomOf (tag text : String) : Except Fault Atom :=
  if tag == standardTag "str" then .ok (.text text)
  else if tag == standardTag "null" then .ok .null
  else if tag == standardTag "bool" then
    match truthWords.lookup (lower text) with
    | some b => .ok (.bool b)
    | none => .error (.missingKey (.text (lower text)))
  else if tag == standardTag "int" then .int <$> intOf text
  else if tag == standardTag "float" then .float <$> floatOf text
  else if tag == standardTag "timestamp" then stampOf text
  else if tag == standardTag "binary" then .bytes <$> bytesOf text
  else .error .badYaml

end SkillKit.Yaml
