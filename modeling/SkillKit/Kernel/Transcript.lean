import SkillKit.Kernel.Peer

/-!
# What a kernel tells about code

A client hears the messages of everyone who talks to the kernel.  Those that answer its own code
make up the transcript; all others, and those that are malformed, leave it as it is.  The
transcript is complete when the kernel is idle again.
-/

namespace SkillKit

structure Transcript where
  outputs : List Value := []
  error : Option String := none
  done : Bool := false

namespace Transcript

def joinTexts (sep : String) (texts : List Value) : Except Fault String := do
  let texts ← texts.mapM fun
    | .text s => .ok s
    | _ => .error Fault.wrongKind
  return sep.intercalate texts

def isAnswer (id : String) (message : Value) : Except Fault Bool := do
  let parent ← (← message.entry "parent_header").lookupD "msg_id" .null
  return parent.isText id

def extend (t : Transcript) (message : Value) : Except Fault Transcript := do
  let type ← message.entry "msg_type"
  let content ← message.entry "content"
  if type.isText "stream" then
    return { t with outputs := t.outputs ++ [← content.entry "text"] }
  if type.isText "execute_result" then
    let shown ← (← content.entry "data").lookupD "text/plain" (.text "")
    return { t with outputs := t.outputs ++ [shown] }
  if type.isText "error" then
    return { t with error := some (← joinTexts "\n" (← (← content.entry "traceback").parts)) }
  if type.isText "status" then
    if (← content.entry "execution_state").isText "idle" then return { t with done := true }
  return t

def hear (id : String) (t : Transcript) : Notice → Transcript
  | .silence => t
  | .message m =>
    match isAnswer id m with
    | .ok true => (t.extend m).toOption.getD t
    | _ => t

def waitOut (tick deadline : Float) : (fuel : Nat) → (clock : Float) → Float
  | 0, clock => clock + tick
  | fuel + 1, clock =>
    if clock < deadline then waitOut tick deadline fuel (clock + tick + tick) else clock + tick

def turnsLeft (tick deadline clock : Float) : Nat :=
  if 0 < tick then ((deadline - clock) / tick).toUInt64.toNat + 1 else 0

def listen (id : String) (tick deadline : Float) :
    (clock : Float) → Transcript → List Notice → Transcript × Float
  | clock, t, [] => (t, waitOut tick deadline (turnsLeft tick deadline clock) clock)
  | clock, t, notice :: rest =>
    if clock < deadline then
      let t := t.hear id notice
      let clock := clock + tick + tick
      if t.done then (t, clock + tick) else listen id tick deadline clock t rest
    else (t, clock + tick)

end Transcript

end SkillKit
