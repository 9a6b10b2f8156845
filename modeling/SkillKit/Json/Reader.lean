import SkillKit.Data.Value

/-!
# Reading JSON

The grammar is that of RFC 8259 with the words `NaN`, `Infinity` and `-Infinity` as further
numbers.  A number with a fraction or an exponent is a float, any other an integer of any size.
A repeated key keeps its first place and its last value.
-/

namespace SkillKit.Json

open Text

/-- Why reading stopped: a problem at a place, given by the number of characters left from it
on, or an integer with more digits than are taken. -/
inductive Stop where
  | problem (text : String) (left : Nat)
  | digits (count : Nat)

def isSpace (c : Char) : Bool :=
  c == ' ' || c == '\t' || c == '\n' || c == '\r'

def skip (cs : List Char) : List Char :=
  cs.dropWhile isSpace

def hexValue? (c : Char) : Option Nat :=
  if '0' ≤ c && c ≤ '9' then some (c.toNat - '0'.toNat)
  else if 'a' ≤ c && c ≤ 'f' then some (c.toNat - 'a'.toNat + 10)
  else if 'A' ≤ c && c ≤ 'F' then some (c.toNat - 'A'.toNat + 10)
  else none

def hex4? : List Char → Option (Nat × List Char)
  | a :: b :: c :: d :: e :: rest => do
    let a ← hexValue? a
    let b ← hexValue? b
    let c ← hexValue? c
    let d ← hexValue? d
    some (((a * 16 + b) * 16 + c) * 16 + d, e :: rest)
  | _ => none

def shortEscape? (c : Char) : Option Char :=
  match c with
  | '"' => some '"'
  | '\\' => some '\\'
  | '/' => some '/'
  | 'b' => some '\x08'
  | 'f' => some '\x0c'
  | 'n' => some '\n'
  | 'r' => some '\r'
  | 't' => some '\t'
  | _ => none

/-- The character of a numeric escape, `cs` being what follows its `u`; half a surrogate pair
becomes the replacement character. -/
def numericEscape (cs : List Char) : Except Stop (Char × List Char) :=
  match hex4? cs with
  | none => .error (.problem "Invalid \\uXXXX escape" (cs.length + 1))
  | some (high, rest) =>
    let lone := 0xd800 ≤ high && high ≤ 0xdfff
    let alone : Except Stop (Char × List Char) :=
      .ok (Char.ofNat (if lone then 0xfffd else high), rest)
    if 0xd800 ≤ high && high ≤ 0xdbff && 6 < rest.length then
      match rest with
      | '\\' :: 'u' :: digits =>
        match hex4? digits with
        | some (low, rest') =>
          if 0xdc00 ≤ low && low ≤ 0xdfff then
            .ok (Char.ofNat (0x10000 + (high - 0xd800) * 0x400 + (low - 0xdc00)), rest')
          else alone
        | none => .error (.problem "Invalid \\uXXXX escape" (digits.length + 1))
      | _ => alone
    else alone

/-- The characters of a string up to its closing quote; `start` counts those left from its opening
one. -/
def readChars (start : Nat) : (fuel : Nat) → List Char → Except Stop (List Char × List Char)
  | 0, _ => .error (.problem "Unterminated string starting at" start)
  | fuel + 1, cs =>
    match cs with
    | [] => .error (.problem "Unterminated string starting at" start)
    | '"' :: rest => .ok ([], rest)
    | '\\' :: rest =>
      match rest with
      | [] => .error (.problem "Unterminated string starting at" start)
      | 'u' :: digits => do
        let (c, rest') ← numericEscape digits
        let (s, rest'') ← readChars start fuel rest'
        .ok (c :: s, rest'')
      | e :: rest' =>
        match shortEscape? e with
        | none => .error (.problem "Invalid \\escape" cs.length)
        | some c => do
          let (s, rest'') ← readChars start fuel rest'
          .ok (c :: s, rest'')
    | c :: rest =>
      if c.toNat < 0x20 then .error (.problem "Invalid control character at" cs.length)
      else do
        let (s, rest') ← readChars start fuel rest
        .ok (c :: s, rest')

def readString (cs : List Char) : Except Stop (String × List Char) := do
  let (s, rest) ← readChars (cs.length + 1) (cs.length + 1) cs
  .ok (String.ofList s, rest)

def digitsValue (ds : List Char) : Nat :=
  ds.foldl (fun n c => n * 10 + (c.toNat - '0'.toNat)) 0

def maxDigits : Nat := 4300

def readFraction (cs : List Char) : List Char × List Char :=
  match cs with
  | '.' :: rest =>
    if (rest.head?.map Char.isDigit).getD false then
      (rest.takeWhile Char.isDigit, rest.dropWhile Char.isDigit)
    else ([], cs)
  | _ => ([], cs)

def readExponent (cs : List Char) : Option Int × List Char :=
  match cs with
  | e :: rest =>
    if e == 'e' || e == 'E' then
      let (negative, digits) :=
        match rest with
        | '-' :: r => (true, r)
        | '+' :: r => (false, r)
        | r => (false, r)
      let ds := digits.takeWhile Char.isDigit
      if ds.isEmpty then (none, cs)
      else
        let n : Int := digitsValue ds
        (some (if negative then -n else n), digits.dropWhile Char.isDigit)
    else (none, cs)
  | [] => (none, cs)

/-- A number; `start` counts the characters left from its first one on. -/
def readNumber (start : Nat) (negative : Bool) (cs : List Char) : Except Stop (Value × List Char) :=
  let whole := cs.takeWhile Char.isDigit
  -- a zero in front stands alone
  let whole := if whole.head? == some '0' then whole.take 1 else whole
  if whole.isEmpty then .error (.problem "Expecting value" start)
  else
    let rest := cs.drop whole.length
    let (frac, rest) := readFraction rest
    let (exp, rest) := readExponent rest
    if frac.isEmpty && exp.isNone then
      if maxDigits < whole.length then .error (.digits whole.length)
      else
        let n : Int := digitsValue whole
        .ok (.int (if negative then -n else n), rest)
    else
      let x := Decimal.ofDigits negative (digitsValue (whole ++ frac)) (exp.getD 0 - frac.length)
      .ok (.float x, rest)

def infinity : Float := Decimal.assemble false (twoTo 52) 972

def readAtom (cs : List Char) : Except Stop (Value × List Char) :=
  let word (w : String) (v : Value) (other : Except Stop (Value × List Char)) :
      Except Stop (Value × List Char) :=
    match dropPrefix? w.toList cs with
    | some rest => .ok (v, rest)
    | none => other
  match cs with
  | '"' :: rest => do
    let (s, rest) ← readString rest
    .ok (.text s, rest)
  | '-' :: rest =>
    word "-Infinity" (.float (-infinity)) (readNumber cs.length true rest)
  | _ =>
    word "null" .null <| word "true" (.bool true) <| word "false" (.bool false) <|
      word "NaN" (.float (infinity - infinity)) <| word "Infinity" (.float infinity) <|
      readNumber cs.length false cs

mutual

def readValue : (fuel : Nat) → List Char → Except Stop (Value × List Char)
  | 0, cs => .error (.problem "Expecting value" cs.length)
  | fuel + 1, cs =>
    match cs with
    | '[' :: rest =>
      match skip rest with
      | ']' :: rest => .ok (.list [], rest)
      | rest => do
        let (items, rest) ← readItems fuel rest
        .ok (.list items, rest)
    | '{' :: rest =>
      match skip rest with
      | '}' :: rest => .ok (.dict [], rest)
      | rest => do
        let (fields, rest) ← readFields fuel [] rest
        .ok (.dict fields, rest)
    | _ => readAtom cs

def readItems : (fuel : Nat) → List Char → Except Stop (List Value × List Char)
  | 0, cs => .error (.problem "Expecting value" cs.length)
  | fuel + 1, cs => do
    let (item, rest) ← readValue fuel cs
    match skip rest with
    | ']' :: rest => .ok ([item], rest)
    | ',' :: rest =>
      let (items, rest) ← readItems fuel (skip rest)
      .ok (item :: items, rest)
    | rest => .error (.problem "Expecting ',' delimiter" rest.length)

def readFields : (fuel : Nat) → Fields → List Char → Except Stop (Fields × List Char)
  | 0, _, cs => .error (.problem "Expecting value" cs.length)
  | fuel + 1, fields, cs =>
    match cs with
    | '"' :: rest => do
      let (key, rest) ← readString rest
      match skip rest with
      | ':' :: rest =>
        let (value, rest) ← readValue fuel (skip rest)
        let fields := Fields.put fields (.text key) value
        match skip rest with
        | '}' :: rest => .ok (fields, rest)
        | ',' :: rest => readFields fuel fields (skip rest)
        | rest => .error (.problem "Expecting ',' delimiter" rest.length)
      | rest => .error (.problem "Expecting ':' delimiter" rest.length)
    | _ => .error (.problem "Expecting property name enclosed in double quotes" cs.length)

end

def Stop.fault (cs : List Char) : Stop → Fault
  | .digits count => .tooManyDigits count
  | .problem text left =>
    let position := cs.length - left
    let before := cs.take position
    let line := before.count '\n' + 1
    let column := (before.reverse.takeWhile (· != '\n')).length + 1
    .badJson text line column position

def readChars? (cs : List Char) : Except Stop Value := do
  if cs.head? == some (Char.ofNat 0xfeff) then
    .error (.problem "Unexpected UTF-8 BOM (decode using utf-8-sig)" cs.length)
  else
    let (value, rest) ← readValue (2 * cs.length + 1) (skip cs)
    match skip rest with
    | [] => .ok value
    | rest => .error (.problem "Extra data" rest.length)

def read (s : String) : Except Fault Value :=
  match readChars? s.toList with
  | .ok v => .ok v
  | .error stop => .error (stop.fault s.toList)

end SkillKit.Json
