import SkillKit.Fault

/-!
# Documents

A document is an atom, a list, a pair or a mapping.  A mapping keeps its fields in the order in
which their keys first came.
-/

namespace SkillKit

open Text

inductive Value where
  | atom (a : Atom)
  | list (items : List Value)
  | pair (first second : Value)
  | dict (fields : List (Atom × Value))

abbrev Fields := List (Atom × Value)

namespace Value

/-! ## Atoms as documents -/

@[match_pattern] abbrev null : Value := .atom .null
@[match_pattern] abbrev bool (b : Bool) : Value := .atom (.bool b)
@[match_pattern] abbrev int (n : Int) : Value := .atom (.int n)
@[match_pattern] abbrev float (x : Float) : Value := .atom (.float x)
@[match_pattern] abbrev text (s : String) : Value := .atom (.text s)

instance : Inhabited Value := ⟨null⟩

def nat (n : Nat) : Value := int n

def ofText? : Option String → Value
  | some s => text s
  | none => null

def texts (xs : List String) : Value := .list (xs.map text)

def object (fields : List (String × Value)) : Value :=
  .dict (fields.map fun (k, v) => (.text k, v))

/-! ## Kinds and shown forms -/

def kind : Value → String
  | .atom a => a.kind
  | .list _ => "list"
  | .pair .. => "tuple"
  | .dict _ => "dict"

/-- Whether the document counts as true: it is neither zero, empty nor absent. -/
def truthy : Value → Bool
  | .atom a => a.truthy
  | .list items => !items.isEmpty
  | .pair .. => true
  | .dict fields => !fields.isEmpty

mutual

def literal : Value → String
  | .atom a => a.literal
  | .list items => "[" ++ ", ".intercalate (literalItems items) ++ "]"
  | .pair a b => "(" ++ literal a ++ ", " ++ literal b ++ ")"
  | .dict fields => "\x7b" ++ ", ".intercalate (literalFields fields) ++ "\x7d"

def literalItems : List Value → List String
  | [] => []
  | v :: vs => literal v :: literalItems vs

def literalFields : List (Atom × Value) → List String
  | [] => []
  | (k, v) :: fs => (k.literal ++ ": " ++ literal v) :: literalFields fs

end

def display : Value → String
  | .atom a => a.display
  | v => v.literal

/-! ## Fields -/

end Value

namespace Fields

def lookup? (fields : Fields) (key : Atom) : Option Value :=
  (List.find? (fun f => f.1.same key) fields).map (·.2)

def get? (fields : Fields) (key : String) : Option Value :=
  lookup? fields (.text key)

def has (fields : Fields) (key : Atom) : Bool :=
  fields.any fun f => f.1.same key

/-- The fields with a value put under a key: a key in use keeps its place, a new one comes
last. -/
def put (fields : Fields) (key : Atom) (value : Value) : Fields :=
  match fields with
  | [] => [(key, value)]
  | (k, v) :: rest => if k.same key then (k, value) :: rest else (k, v) :: put rest key value

def erase (fields : Fields) (key : Atom) : Fields :=
  fields.filter fun f => !f.1.same key

def merge (fields more : Fields) : Fields :=
  more.foldl (fun fs f => put fs f.1 f.2) fields

end Fields

namespace Value

mutual

/-- Equality of documents.  Mappings are equal when they have the same fields in any order. -/
def same : Value → Value → Bool
  | .atom a, .atom b => a.same b
  | .list xs, .list ys => sameItems xs ys
  | .pair a b, .pair c d => same a c && same b d
  | .dict fs, .dict gs => fs.length == gs.length && sameFields fs gs
  | _, _ => false

def sameItems : List Value → List Value → Bool
  | [], [] => true
  | x :: xs, y :: ys => same x y && sameItems xs ys
  | _, _ => false

def sameFields : List (Atom × Value) → List (Atom × Value) → Bool
  | [], _ => true
  | (k, v) :: fs, gs =>
    (match Fields.lookup? gs k with
      | some w => same v w
      | none => false) && sameFields fs gs

end

mutual

def holdsItself : Value → Bool
  | .atom .listAgain => true
  | .atom .dictAgain => true
  | .atom _ => false
  | .list items => someHoldsItself items
  | .pair a b => holdsItself a || holdsItself b
  | .dict fields => someFieldHoldsItself fields

def someHoldsItself : List Value → Bool
  | [] => false
  | v :: vs => holdsItself v || someHoldsItself vs

def someFieldHoldsItself : List (Atom × Value) → Bool
  | [] => false
  | (_, v) :: fs => holdsItself v || someFieldHoldsItself fs

end

def isText (v : Value) (s : String) : Bool :=
  match v with
  | .text t => t == s
  | _ => false

def asText? : Value → Option String
  | .text s => some s
  | _ => none

/-! ## Reading documents of any shape

The operations below take every document and refuse those whose kind does not fit. -/

/-- The value under a text in a mapping, if the document is one and has it. -/
def field? (v : Value) (key : String) : Option Value :=
  match v with
  | .dict fields => Fields.get? fields key
  | _ => none

def lookup (v : Value) (key : String) : Except Fault (Option Value) :=
  match v with
  | .dict fields => .ok (Fields.get? fields key)
  | _ => .error (.noPart v.kind "get")

/-- The value under a key in what must be a mapping, or the other value without it. -/
def lookupD (v : Value) (key : String) (other : Value) : Except Fault Value :=
  return (← v.lookup key).getD other

/-- Fields of what must be a mapping, asked for by the name of the view wanted. -/
def fieldsFor (view : String) : Value → Except Fault Fields
  | .dict fields => .ok fields
  | v => .error (.noPart v.kind view)

def entry (v : Value) (key : String) : Except Fault Value :=
  match v with
  | .dict fields =>
    match Fields.get? fields key with
    | some w => .ok w
    | none => .error (.missingKey (.text key))
  | _ => .error .wrongKind

def size : Value → Except Fault Nat
  | .text s => .ok s.length
  | .atom (.bytes b) => .ok b.size
  | .atom (.set members) => .ok members.length
  | .pair .. => .ok 2
  | .list items => .ok items.length
  | .dict fields => .ok fields.length
  | _ => .error .wrongKind

/-- The parts of a text, list, pair or mapping one after the other: characters, items or keys. -/
def parts : Value → Except Fault (List Value)
  | .text s => .ok (s.toList.map fun c => text c.toString)
  | .atom (.bytes b) => .ok (b.toList.map fun x => nat x.toNat)
  | .list items => .ok items
  | .pair a b => .ok [a, b]
  | .dict fields => .ok (fields.map fun f => .atom f.1)
  | _ => .error .wrongKind

def holds (v : Value) (key : String) : Except Fault Bool :=
  match v with
  | .dict fields => .ok (Fields.has fields (.text key))
  | .list items => .ok (items.any (·.isText key))
  | .pair a b => .ok (a.isText key || b.isText key)
  | .text s => .ok (contains s key)
  | _ => .error .wrongKind

def store (v : Value) (key : String) (value : Value) : Except Fault Value :=
  match v with
  | .dict fields => .ok (.dict (Fields.put fields (.text key) value))
  | _ => .error .wrongKind

/-- The text that a value must be, asked for by the operation wanted on it. -/
def textFor (operation : String) : Value → Except Fault String
  | .text s => .ok s
  | v => .error (.noPart v.kind operation)

def first : Value → Except Fault Value
  | .list (v :: _) => .ok v
  | .pair a _ => .ok a
  | .list [] => .error .outOfBounds
  | .text s =>
    match s.toList with
    | c :: _ => .ok (text c.toString)
    | [] => .error .outOfBounds
  | .atom (.bytes b) =>
    match b.toList with
    | x :: _ => .ok (nat x.toNat)
    | [] => .error .outOfBounds
  | .dict fields =>
    match Fields.lookup? fields (.int 0) with
    | some v => .ok v
    | none => .error (.missingKey (.int 0))
  | _ => .error .wrongKind

end Value

end SkillKit
