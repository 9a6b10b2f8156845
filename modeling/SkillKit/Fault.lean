import SkillKit.Data.Atom

/-!
# Faults

The causes for which an operation fails, and the texts in which they are told.
-/

namespace SkillKit

inductive Fault where
  | refused (reason : String)
  | unusable
  | wrongKind
  | noPart (kind part : String)
  | missingKey (key : Atom)
  | outOfBounds
  | tooLarge
  | dividedByZero
  | badJson (problem : String) (line column position : Nat)
  | badYaml
  | tooDeep
  | tooManyDigits (count : Nat)
  | notText
  | malformedText (reason : String)
  | notEncodable
  | noFile
  | missingFile (reason : String)
  | noCommand (text : String)
  | isDirectory
  | notDirectory
  | occupied
  | system (text : Option String)
  | timedOut (command : List String) (limit : String)
  | commandFailed (command : List String) (code : Int)
  | failed (reason : String)
  | broken
  | inputEnded
  | noProcess

namespace Fault

def textsLiteral (xs : List String) : String :=
  "[" ++ ", ".intercalate (xs.map Text.quoted) ++ "]"

def isOutside : Fault → Bool
  | .noFile | .missingFile _ | .noCommand _ | .isDirectory | .notDirectory | .occupied => true
  | .system _ | .noProcess => true
  | _ => false

def isMissing : Fault → Bool
  | .noFile | .missingFile _ | .noCommand _ => true
  | _ => false

def isBadJson : Fault → Bool
  | .badJson .. => true
  | _ => false

def isBadValue : Fault → Bool
  | .refused _ | .unusable | .tooManyDigits _ | .notText | .malformedText _ => true
  | .notEncodable => true
  | _ => false

def label : Fault → String
  | .refused _ => "ValueError"
  | .unusable => "ValueError"
  | .wrongKind => "TypeError"
  | .noPart .. => "AttributeError"
  | .missingKey _ => "KeyError"
  | .outOfBounds => "IndexError"
  | .tooLarge => "OverflowError"
  | .dividedByZero => "ZeroDivisionError"
  | .badJson .. => "JSONDecodeError"
  | .badYaml => "YAMLError"
  | .tooDeep => "RecursionError"
  | .tooManyDigits _ => "ValueError"
  | .notText => "UnicodeDecodeError"
  | .malformedText _ => "UnicodeDecodeError"
  | .notEncodable => "UnicodeEncodeError"
  | .noFile => "FileNotFoundError"
  | .missingFile _ => "FileNotFoundError"
  | .noCommand _ => "FileNotFoundError"
  | .isDirectory => "IsADirectoryError"
  | .notDirectory => "NotADirectoryError"
  | .occupied => "FileExistsError"
  | .system _ => "OSError"
  | .timedOut .. => "TimeoutExpired"
  | .commandFailed .. => "CalledProcessError"
  | .failed _ => "RuntimeError"
  | .broken => "RuntimeError"
  | .inputEnded => "StopIteration"
  | .noProcess => "ProcessLookupError"

def message : Fault → String
  | .refused reason => reason
  | .malformedText reason => reason
  | .tooManyDigits count =>
    s!"Exceeds the limit (4300 digits) for integer string conversion: value has {count} digits; "
      ++ "use sys.set_int_max_str_digits() to increase the limit"
  | .missingFile reason => reason
  | .noCommand text => text
  | .noPart kind part => s!"'{kind}' object has no attribute '{part}'"
  | .missingKey key => key.literal
  | .badJson problem line column position =>
    s!"{problem}: line {line} column {column} (char {position})"
  | .timedOut command limit =>
    s!"Command '{textsLiteral command}' timed out after {limit} seconds"
  | .commandFailed command code =>
    s!"Command '{textsLiteral command}' returned non-zero exit status {code}."
  | .failed reason => reason
  | .system (some text) => text
  | .dividedByZero => "division by zero"
  | _ => ""

def about (path : String) : Fault → String
  | .noFile => s!"[Errno 2] No such file or directory: {Text.quoted path}"
  | .occupied => s!"[Errno 17] File exists: {Text.quoted path}"
  | .notDirectory => s!"[Errno 20] Not a directory: {Text.quoted path}"
  | .isDirectory => s!"[Errno 21] Is a directory: {Text.quoted path}"
  | fault => fault.message

end Fault

end SkillKit
