import SkillKit.Console.Dialog

/-!
# Forms

A form is a command without others below it.  Its long options may be shortened as long as they
stay clear.  A word that looks like a negative number, or has a space in it, is an argument even
if it starts with a hyphen; the value of an option must not look like an option.
-/

namespace SkillKit.Console

open Text

structure Form where
  name : String
  about : String
  options : List Opt := []
  arguments : List Arg := []

namespace Form

def help : Opt :=
  { name := "help", words := ["-h", "--help"], kind := .help
    help := "show this help message and exit" }

def allOptions (f : Form) : List Opt :=
  help :: f.options

inductive Stop where
  | helpAsked
  | ambiguous (word : String)
  | needsValue (word : String)
  | takesNoValue (word : String)
  | invalid (word value : String)
  | missing (name : String)
  | unrecognized (words : List String)
deriving Repr, DecidableEq

def Stop.message : Stop → String
  | .helpAsked => ""
  | .ambiguous word => s!"ambiguous option: {word}"
  | .needsValue word => s!"argument {word}: expected one argument"
  | .takesNoValue word => s!"argument {word}: takes no value"
  | .invalid word value => s!"argument {word}: invalid value: {quoted value}"
  | .missing name => s!"the following arguments are required: {name}"
  | .unrecognized words => "unrecognized arguments: " ++ " ".intercalate words

/-! ## Telling words apart -/

inductive Word where
  | plain (s : String)
  | known (option : Opt) (word : String) (attached : Option String)
  | unknown (s : String)
  | divider

def candidates (options : List Opt) (word : String) : List (Opt × String × Option String) :=
  let all := options.flatMap fun o => o.words.map fun w => (o, w)
  if startsWith word "--" then
    let (front, attached) := match cut? "=" word with
      | some (front, value) => (front, some value)
      | none => (word, none)
    (all.filter fun (_, w) => startsWith w front).map fun (o, w) => (o, w, attached)
  else
    let short := takeChars 2 word
    (all.filter (·.2 == short)).map fun (o, w) => (o, w, some (dropChars 2 word))

def isNegativeNumber (word : String) : Bool :=
  let isDigits (cs : List Char) : Bool := cs.all fun c => (digitValue? c).isSome
  match word.toList with
  | '-' :: cs =>
    match splitWhen (· == '.') cs with
    | [whole] => !whole.isEmpty && isDigits whole
    | [whole, part] => isDigits whole && !part.isEmpty && isDigits part
    | _ => false
  | _ => false

def spelled? (options : List Opt) (word : String) : Option Opt :=
  options.find? (·.words.contains word)

def classify (options : List Opt) (word : String) : Except Stop Word :=
  if !startsWith word "-" then .ok (.plain word)
  else
    match spelled? options word, cut? "=" word with
    | some o, _ => .ok (.known o word none)
    | none, pair =>
      let attached := pair.bind fun (front, value) => (spelled? options front).map (·, front, value)
      match attached with
      | some (o, front, value) => .ok (.known o front (some value))
      | none =>
        if word.length == 1 then .ok (.plain word)
        else
          match candidates options word with
          | [(o, w, value)] => .ok (.known o w value)
          | [] =>
            if isNegativeNumber word || contains word " " then .ok (.plain word)
            else .ok (.unknown word)
          | _ => .error (.ambiguous word)

def classifyAll (options : List Opt) : List String → Except Stop (List Word)
  | [] => .ok []
  | "--" :: rest => .ok (.divider :: rest.map .plain)
  | word :: rest => do return (← classify options word) :: (← classifyAll options rest)

/-! ## Filling in -/

/-- A form that is being filled in: the values so far, the arguments still to come, and the words
that fit nowhere. -/
structure Draft where
  values : Fields
  slots : List Arg
  extra : List String := []

def valueOf (o : Opt) (word value : String) : Except Stop Value :=
  match o.kind with
  | .integer => ((Decimal.readInt? value).map Value.int).elim (.error (.invalid word value)) .ok
  | .number => ((Decimal.readFloat? value).map Value.float).elim (.error (.invalid word value)) .ok
  | _ => .ok (.text value)

def Draft.give (d : Draft) (o : Opt) (word value : String) : Except Stop Draft := do
  return { d with values := Fields.put d.values (.text o.name) (← valueOf o word value) }

def Draft.turnOn (d : Draft) (o : Opt) : Except Stop Draft :=
  if o.kind == .help then .error .helpAsked
  else .ok { d with values := Fields.put d.values (.text o.name) (.bool true) }

def Draft.take (d : Draft) (word : String) : Draft :=
  match d.slots with
  | a :: slots => { d with values := Fields.put d.values (.text a.name) (.text word), slots }
  | [] => { d with extra := d.extra ++ [word] }

/-- Gives an option what is attached to its word.  An option without a value takes only further
letters, behind its own letter. -/
def Draft.attach (d : Draft) (o : Opt) (word value : String) : Except Stop Draft :=
  if o.kind.takesValue then d.give o word value
  else if Opt.isLong word || value.isEmpty || startsWith value "-" then
    .error (.takesNoValue word)
  else d.turnOn o

def fill (d : Draft) : List Word → Except Stop Draft
  | [] => .ok d
  | .divider :: .plain v :: rest =>
    if d.slots.isEmpty then
      fill { d with extra := d.extra ++ ["--", v] } rest
    else fill (d.take v) rest
  | .divider :: rest => fill { d with extra := d.extra ++ ["--"] } rest
  | .plain v :: .divider :: rest =>
    if d.slots.isEmpty then
      fill { d with extra := d.extra ++ [v, "--"] } rest
    else fill (d.take v) rest
  | .plain v :: rest => fill (d.take v) rest
  | .unknown w :: rest => fill { d with extra := d.extra ++ [w] } rest
  | .known o w (some v) :: rest => do fill (← d.attach o w v) rest
  | .known o w none :: .plain v :: rest => do
    if o.kind.takesValue then fill (← d.give o w v) rest
    else fill ((← d.turnOn o).take v) rest
  | .known o w none :: rest => do
    if o.kind.takesValue then throw (.needsValue w)
    else fill (← d.turnOn o) rest

def read (f : Form) (words : List String) : Except Stop Fields := do
  let options := f.allOptions
  let defaults : Fields := f.options.map fun o => (.text o.name, o.default)
  let draft ← fill { values := defaults, slots := f.arguments }
    (← classifyAll options words)
  if let a :: _ := draft.slots then throw (.missing a.name)
  let missing := f.options.find? fun o =>
    o.required && (draft.values.any fun v => v.1.same (.text o.name) && v.2 matches .null)
  if let some o := missing then throw (.missing o.name)
  if !draft.extra.isEmpty then throw (.unrecognized draft.extra)
  return draft.values

def page (f : Form) : String :=
  let usage := " ".intercalate (["usage:", f.name, "[options]"] ++ f.arguments.map (·.name))
  s!"{usage}\n\n{f.about}\n" ++ titledList "options" (f.allOptions.map (·.row))

def run (f : Form) (perform : Fields → Act Nat) (words : List String) : Act Nat := do
  match f.read words with
  | .ok values => perform values
  | .error .helpAsked =>
    Act.printOn .out f.page
    return 0
  | .error stop =>
    Act.warnLine s!"{f.name}: error: {stop.message}"
    return 2

end Form

/-! ## Values of a command -/

def value (fields : Fields) (name : String) : Value :=
  (Fields.get? fields name).getD .null

def text (fields : Fields) (name : String) : String :=
  (value fields name).display

def text? (fields : Fields) (name : String) : Option String :=
  (value fields name).asText?

def texts (fields : Fields) (name : String) : List String :=
  match value fields name with
  | .list vs => vs.map Value.display
  | _ => []

def path (fields : Fields) (name : String) : Path :=
  Path.ofString (text fields name)

def path? (fields : Fields) (name : String) : Option Path :=
  (text? fields name).map Path.ofString

end SkillKit.Console
