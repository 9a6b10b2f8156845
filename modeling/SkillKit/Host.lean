import SkillKit.Files.Tree
import SkillKit.Kernel.Peer

/-!
# The host of a run

What a run finds and leaves behind: files, environment, time, the answers of the commands that
it runs, what it has printed, and which outside steps it has taken.  An action is a function
on hosts that may fail; what it did before failing stays done.
-/

namespace SkillKit

inductive Channel where
  | out
  | err
deriving Repr, DecidableEq

inductive Level where
  | success
  | info
  | warning
  | error
deriving Repr, DecidableEq

def Level.word : Level → String
  | .success => "SUCCESS"
  | .info => "INFO"
  | .warning => "WARNING"
  | .error => "ERROR"

inductive Reply where
  | ended (code : Int) (out err : String)
  | failed (cause : Fault)

structure Completed where
  code : Int
  out : String
  err : String

inductive Turn where
  | output (bytes : ByteArray)
  | idle
  /-- It has ended, and these bytes were not read yet. -/
  | ended (rest : ByteArray)

inductive Verdict where
  | triggered (b : Bool)
  | failed (reason : String)
deriving Repr, DecidableEq

inductive Event where
  | ran (command : List String) (input : Option String) (environment : Option (List String))
  | started (command : List String) (directory : String) (environment : List String)
      (commands : List (String × String))
  | killed
  | pool (workers : Value)
  | submitted (arguments : List Value)
  | signalled (process : Int) (signal : Nat)
  | paused (seconds : Float)
  | kernel (step : KernelStep)
  | browsed (url : String)
  | served (host : String) (port : Int)
  | closed
  | consoled (words : List String) (code : Int) (output : String)

structure Host where
  files : Tree := .dir []
  directory : Path := ⟨"/", []⟩
  home : Path := ⟨"/", []⟩
  environment : Environment := {}
  now : Time.Stamp := ⟨⟨1970, 1, 1⟩, ⟨0, 0, 0, 0⟩, none⟩
  clock : Float := 0.0
  tick : Float := 0.0
  replies : List Reply := []
  /-- What a command comes to for which no outcome is set, from its words and its input. -/
  answer : List String → Option String → Reply := fun _ _ => .ended 0 "" ""
  turns : List Turn := []
  /-- Text that no name in use ends with. -/
  uniqueId : String := ""
  verdicts : List Verdict := []
  /-- What a call comes to for which no outcome is set, from its arguments and the number of
  outside steps taken so far. -/
  trigger : List Value → Nat → Verdict := fun _ _ => .triggered false
  /-- Order in which the calls of every pool are done, if it is set. -/
  completion : Option (List Nat) := none
  /-- Order in which the calls of a pool are done for which none is set, from the number of outside
  steps taken so far. -/
  schedule : Nat → Option (List Nat) := fun _ => none
  input : String := ""
  peers : List Peer := []
  kernelFile : Path := ⟨"/", ["kernel.json"]⟩
  viewer : String := ""
  hasUv : Bool := true
  store : Option Path := none
  temporary : Path := ⟨"/", ["tmp"]⟩
  portsTaken : Bool := false
  sparePort : Int := 0
  printed : List (Channel × String) := []
  events : List Event := []
  logs : List (Level × String) := []
  warnings : List String := []

abbrev Act (α : Type) := ExceptT Fault (StateM Host) α

namespace Act

def ofExcept (r : Except Fault α) : Act α :=
  match r with
  | .ok a => pure a
  | .error f => throw f

def result (act : Act α) : Act (Except Fault α) :=
  ExceptT.mk (Except.ok <$> act.run)

end Act

namespace Host

def locate (host : Host) (p : Path) : List String :=
  (host.directory.join p).parts

def at? (host : Host) (p : Path) : Option Tree :=
  host.files.at? (host.locate p)

/-- Order in which the calls of a pool are done that is waited for now; the order of the calls
if not given. -/
def order (host : Host) : Option (List Nat) :=
  match host.completion with
  | some places => some places
  | none => host.schedule host.events.length

end Host

/-! ## Actions on files -/

namespace Act

def pathExists (p : Path) : Act Bool := do
  let host ← get
  ofExcept (host.files.exists? (host.locate p))

def isDir (p : Path) : Act Bool := do
  let host ← get
  ofExcept (host.files.isDirAt (host.locate p))

def isFile (p : Path) : Act Bool := do
  let host ← get
  ofExcept (host.files.isFileAt (host.locate p))

def readBytes (p : Path) : Act ByteArray := do
  let host ← get
  ofExcept (host.files.readBytes (host.locate p))

def readText (p : Path) : Act String := do
  let host ← get
  ofExcept (host.files.readText (host.locate p))

def changeFiles (change : Tree → Except Fault Tree) : Act Unit := do
  let host ← get
  let files ← ofExcept (change host.files)
  set { host with files }

def writeText (p : Path) (s : String) : Act Unit := do
  let names := (← get).locate p
  changeFiles (·.writeText names s)

def writeBytes (p : Path) (b : ByteArray) : Act Unit := do
  let names := (← get).locate p
  changeFiles (·.writeBytes names b)

def makeDirs (p : Path) : Act Unit := do
  let names := (← get).locate p
  changeFiles (·.makeDirs names)

def removeFile (p : Path) : Act Unit := do
  let names := (← get).locate p
  changeFiles (·.removeFile names)

def listDir (p : Path) : Act (List (String × Tree)) := do
  let host ← get
  ofExcept (host.files.entriesAt (host.locate p))

def resolvePath (p : Path) : Act Path := do
  if p.parts.any (·.toList.elem '\x00') then throw .unusable
  return (← get).directory.resolve p

/-! ## Printing, logging, time -/

def printOn (channel : Channel) (s : String) : Act Unit :=
  modify fun host => { host with printed := host.printed ++ [(channel, s)] }

def printLine (s : String) : Act Unit :=
  printOn .out (s ++ "\n")

def warnLine (s : String) : Act Unit :=
  printOn .err (s ++ "\n")

def log (level : Level) (s : String) : Act Unit :=
  modify fun host => { host with logs := host.logs ++ [(level, s)] }

def record (event : Event) : Act Unit :=
  modify fun host => { host with events := host.events ++ [event] }

def now : Act Time.Stamp := do
  return (← get).now

def readClock : Act Float := do
  let host ← get
  set { host with clock := host.clock + host.tick }
  return host.clock

def readLine : Act String := do
  let host ← get
  if host.input.isEmpty then throw .inputEnded
  let cs := host.input.toList
  let line := cs.takeWhile (· != '\n')
  set { host with input := String.ofList (cs.drop (line.length + 1)) }
  return String.ofList line

def readInput : Act String := do
  let host ← get
  set { host with input := "" }
  return host.input

def nextVerdict (arguments : List Value) : Act Verdict := do
  let host ← get
  match host.verdicts with
  | [] => return host.trigger arguments host.events.length
  | verdict :: verdicts =>
    set { host with verdicts }
    return verdict

def nextReply (command : List String) (input : Option String) : Act Reply := do
  let host ← get
  match host.replies with
  | [] => return host.answer command input
  | reply :: replies =>
    set { host with replies }
    return reply

def runCommand (command : List String) (input : Option String)
    (environment : Option (List String)) : Act Completed := do
  record (.ran command input environment)
  match ← nextReply command input with
  | .ended code out err => return ⟨code, out, err⟩
  | .failed (.timedOut _ limit) => throw (.timedOut command limit)
  | .failed cause => throw cause

def runChecked (command : List String) : Act Unit := do
  let done ← runCommand command none none
  if done.code != 0 then throw (.commandFailed command done.code)

end Act

end SkillKit
