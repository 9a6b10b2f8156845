import SkillKit.Host
import SkillKit.Json.Reader

/-!
# Triggers in an output stream

A process that answers a query writes one JSON document a line.  Whether it uses the command of
a given name shows in the first tool that it calls: either in the pieces of the tool's input,
as they come, or in a whole message.  A line that is no JSON is skipped; everything behind the
first decision is of no account.
-/

namespace SkillKit.Trigger

open Text

structure Watch where
  pending : Bool := false
  gathered : String := ""
deriving Repr, DecidableEq

inductive Progress where
  | watching (watch : Watch)
  | decided (triggered : Bool)
deriving Repr, DecidableEq

def isCommandTool (tool : Value) : Bool :=
  tool.isText "Skill" || tool.isText "Read"

namespace Watch

def onBlockStart (w : Watch) (event : Value) : Except Fault Progress := do
  let block ← event.lookupD "content_block" (.dict [])
  if !((← block.lookupD "type" .null).isText "tool_use") then return .watching w
  if isCommandTool (← block.lookupD "name" (.text "")) then return .watching ⟨true, ""⟩
  return .decided false

def onBlockDelta (name : String) (w : Watch) (event : Value) : Except Fault Progress := do
  let delta ← event.lookupD "delta" (.dict [])
  if !((← delta.lookupD "type" .null).isText "input_json_delta") then return .watching w
  match ← delta.lookupD "partial_json" (.text "") with
  | .text piece =>
    let gathered := w.gathered ++ piece
    if contains gathered name then return .decided true
    return .watching { w with gathered }
  | _ => throw .wrongKind

def onStreamEvent (name : String) (w : Watch) (event : Value) : Except Fault Progress := do
  match ← event.lookupD "type" (.text "") with
  | .text "content_block_start" => w.onBlockStart event
  | .text "content_block_delta" => if w.pending then w.onBlockDelta name event else return .watching w
  | .text "content_block_stop" =>
    if w.pending then return .decided (contains w.gathered name) else return .watching w
  | .text "message_stop" => return .decided (w.pending && contains w.gathered name)
  | _ => return .watching w

def commandField? : Value → Option String
  | .text "Skill" => some "skill"
  | .text "Read" => some "file_path"
  | _ => none

def usesCommand (name : String) (item : Value) : Except Fault Bool := do
  match commandField? (← item.lookupD "name" (.text "")) with
  | some field => (← (← item.lookupD "input" (.dict [])).lookupD field (.text "")).holds name
  | none => return false

def onItems (name : String) (w : Watch) : List Value → Except Fault Progress
  | [] => return .watching w
  | item :: rest => do
    if (← item.lookupD "type" .null).isText "tool_use" then
      return .decided (← usesCommand name item)
    onItems name w rest

def onEvent (name : String) (w : Watch) (event : Value) : Except Fault Progress := do
  match ← event.lookupD "type" .null with
  | .text "stream_event" => w.onStreamEvent name (← event.lookupD "event" (.dict []))
  | .text "assistant" =>
    let message ← event.lookupD "message" (.dict [])
    w.onItems name (← (← message.lookupD "content" (.list [])).parts)
  | .text "result" => return .decided false
  | _ => return .watching w

def onLine (name : String) (w : Watch) (line : String) : Except Fault Progress :=
  let line := strip line
  if line.isEmpty then .ok (.watching w)
  else match Json.read line with
    | .ok event => w.onEvent name event
    | .error f => if f.isBadJson then .ok (.watching w) else .error f

def onLines (name : String) (w : Watch) : List String → Except Fault Progress
  | [] => .ok (.watching w)
  | line :: rest => do
    match ← w.onLine name line with
    | .watching w => onLines name w rest
    | .decided b => return .decided b

end Watch

structure Reading where
  watch : Watch := {}
  rest : String := ""
deriving Repr, DecidableEq

inductive Reading.Step where
  | reading (r : Reading)
  | decided (triggered : Bool)

def Reading.take (name : String) (r : Reading) (text : String) : Except Fault Reading.Step := do
  let lines := splitOnChar '\n' (r.rest ++ text)
  match ← r.watch.onLines name lines.dropLast with
  | .watching watch => return .reading ⟨watch, lines.getLast?.getD ""⟩
  | .decided b => return .decided b

/-! ## Following a process -/

def readSize : Nat := 8192

def pieces (b : ByteArray) : List ByteArray :=
  let count := (b.size + readSize - 1) / readSize
  (List.range (max count 1)).map fun i => b.extract (i * readSize) ((i + 1) * readSize)

def readTurns (turns : List Turn) : List Turn :=
  turns.flatMap fun
    | .output b => (pieces b).map .output
    | t => [t]

structure Followed where
  verdict : Except Fault Bool
  left : List Turn
  looks : Nat

/-- Follows a process until it is decided, has ended, or its time is over; `inTime` tells of every
look at the time, counted from `looks`, whether time is left. -/
def follow (name : String) (inTime : Nat → Bool) (looks : Nat) (r : Reading) :
    List Turn → Followed
  | [] => ⟨.ok false, [], looks + 1⟩
  | turn :: more =>
    if !inTime looks then ⟨.ok false, turn :: more, looks + 1⟩
    else match turn with
      | .ended rest => ⟨.ok false, .ended rest :: more, looks + 1⟩
      | .idle => follow name inTime (looks + 1) r more
      | .output bytes =>
        if bytes.isEmpty then ⟨.ok false, more, looks + 1⟩
        else match r.take name (decodeForgiving bytes) with
          | .error f => ⟨.error f, more, looks + 1⟩
          | .ok (.decided b) => ⟨.ok b, more, looks + 1⟩
          | .ok (.reading r) => follow name inTime (looks + 1) r more

def hasEnded : List Turn → Bool
  | .ended _ :: _ => true
  | _ => false

end SkillKit.Trigger
