import SkillKit.Trigger.Query
import SkillKit.Workload.Basic

/-!
# Workload: streams of events

Measured is the watching of an assistant that tells many events of no concern before one that
decides whether it uses a skill.  There is one stream for each way to decide.
-/

namespace SkillKit.Workload

namespace Streams

def streamEvent (type : String) (fields : List (String × Value)) : Value :=
  .object [("type", .text "stream_event"), ("event", .object (("type", .text type) :: fields))]

def toolStart (tool : String) : Value :=
  streamEvent "content_block_start" [("content_block",
    .object [("type", .text "tool_use"), ("name", .text tool)])]

def toolInput (input : String) : Value :=
  streamEvent "content_block_delta" [("delta",
    .object [("type", .text "input_json_delta"), ("partial_json", .text input)])]

def textDelta (i : Nat) : Value :=
  streamEvent "content_block_delta" [("delta",
    .object [("type", .text "text_delta"), ("text", .text s!"word {i}")])]

def answer (tool key input : String) : Value :=
  .object [("type", .text "assistant"), ("message", .object [("content", .list [
    .object [("type", .text "tool_use"), ("name", .text tool),
      ("input", .object [(key, .text input)])]])])]

def endings (name : String) : List (List Value) := [
  [toolStart "Skill", toolInput name],
  [toolStart "Bash"],
  [toolStart "Read", toolInput "other", streamEvent "content_block_stop" []],
  [streamEvent "message_stop" []],
  [answer "Skill" "skill" name],
  [answer "Read" "file_path" name],
  [.object [("type", .text "result")]]]

def linesOf (events : List Value) : Except Fault String := do
  return String.join (← events.mapM fun event => do return (← Json.write event) ++ "\n")

def query (project : Path) : Trigger.Query where
  text := "q"
  skillName := "s"
  description := "d"
  timeout := .int 30
  project
  model := none

def work (q : Trigger.Query) (streams : List String) : Act Value := quietly do
  let verdicts ← streams.mapM fun stream => do
    modify fun host => { host with turns := [.output stream.toUTF8] }
    return Value.bool (← Trigger.runQuery q)
  modify fun host => { host with turns := [] }
  return .list verdicts

def prepare (base : Path) (events : Nat) : Act (Act Value) := do
  let q := query base
  let noise := (List.range events).map textDelta
  let streams ← Act.ofExcept ((endings (q.commandName (← get).uniqueId)).mapM fun ending =>
    linesOf (noise ++ ending))
  return work q streams

end Streams

def streams : Workload where
  name := "run_eval_stream"
  parameter := "n_events"
  sizes := [50, 200, 600]
  prepare := Streams.prepare

end SkillKit.Workload
