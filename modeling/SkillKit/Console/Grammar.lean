import SkillKit.Data.Value
import SkillKit.Text.LetterCase

/-!
# Commands of a console

A console has commands, some of them in groups.  A command has options, which are spelled by
words that start with a hyphen, and arguments, which stand in order.
-/

namespace SkillKit.Console

inductive Kind where
  | text
  | integer
  | number
  | choice (words : List String)
  | existingPath
  | flag
  | help
  | version
deriving Repr, DecidableEq

def Kind.placeholder : Kind → String
  | .text => "TEXT"
  | .integer => "INTEGER"
  | .number => "FLOAT"
  | .choice words => "[" ++ "|".intercalate words ++ "]"
  | .existingPath => "PATH"
  | .flag | .help | .version => ""

def Kind.takesValue : Kind → Bool
  | .flag | .help | .version => false
  | _ => true

def Kind.isEager : Kind → Bool
  | .help | .version => true
  | _ => false

structure Opt where
  name : String
  words : List String
  offWords : List String := []
  kind : Kind := .text
  many : Bool := false
  required : Bool := false
  default : Value := .null
  /-- A question to which the answer must be yes, unless the option is given. -/
  question : Option String := none
  help : String := ""

namespace Opt

def isLong (word : String) : Bool :=
  Text.startsWith word "--"

def shortFirst (words : List String) : List String :=
  words.filter (!isLong ·) ++ words.filter isLong

def hint (o : Opt) : String :=
  " / ".intercalate (o.words.map fun w => s!"'{w}'")

def listed (o : Opt) (words : List String) : String :=
  ", ".intercalate (shortFirst words)
    ++ if o.kind.takesValue then " " ++ o.kind.placeholder else ""

def row (o : Opt) : String × String :=
  let left := " / ".intercalate
    (o.listed o.words :: if o.offWords.isEmpty then [] else [o.listed o.offWords])
  let right := if !o.required then o.help
    else if o.help.isEmpty then "[required]"
    else o.help ++ "  [required]"
  (left, right)

end Opt

def helpOption : Opt :=
  { name := "help", words := ["--help"], kind := .help, help := "Show this message and exit." }

def versionOption : Opt :=
  { name := "version", words := ["--version"], kind := .version
    help := "Show the version and exit." }

structure Arg where
  name : String
  many : Bool := false

def Arg.placeholder (a : Arg) : String :=
  Text.upper a.name ++ if a.many then "..." else ""

structure Command (α : Type) where
  name : String
  about : List String
  options : List Opt := []
  arguments : List Arg := []
  build : Fields → α

def Command.allOptions (c : Command α) : List Opt :=
  c.options ++ [helpOption]

structure Group (α : Type) where
  name : String
  about : List String
  commands : List (Command α)

structure Grammar (α : Type) where
  name : String
  version : String
  about : List String
  commands : List (Command α)
  groups : List (Group α)

inductive Complaint where
  | noSuchOption (word : String) (close : List String)
  | needsValue (word : String)
  | takesNoValue (word : String)
  | missingOption (hint : String)
  | missingArgument (placeholder : String)
  | invalid (hint reason : String)
  | unexpected (words : List String)
  | noSuchCommand (name : String)
  | missingCommand
deriving Repr, DecidableEq

def Complaint.message : Complaint → String
  | .noSuchOption word [] => s!"No such option: {word}"
  | .noSuchOption word [close] => s!"No such option: {word} Did you mean {close}?"
  | .noSuchOption word close =>
    s!"No such option: {word} (Possible options: " ++ ", ".intercalate (close.mergeSort (· ≤ ·))
      ++ ")"
  | .needsValue word => s!"Option {Text.quoted word} requires an argument."
  | .takesNoValue word => s!"Option {Text.quoted word} does not take a value."
  | .missingOption hint => s!"Missing option {hint}."
  | .missingArgument placeholder => s!"Missing argument '{placeholder}'."
  | .invalid hint reason => s!"Invalid value for {hint}: {reason}"
  | .unexpected words =>
    let noun := if words.length == 1 then "argument" else "arguments"
    s!"Got unexpected extra {noun} (" ++ " ".intercalate words ++ ")"
  | .noSuchCommand name => s!"No such command {Text.quoted name}."
  | .missingCommand => "Missing command."

end SkillKit.Console
