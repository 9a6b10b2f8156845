import SkillKit.Kernel.Basic
import SkillKit.Workload.Basic

/-!
# Workload: a kernel that talks

A kernel is started and stopped in all ways once.  Measured is code about which the kernel tells
many things: once until it is done, and once for as long as there is time.
-/

namespace SkillKit.Workload

namespace Kernels

def message (id type : String) (content : List (String × Value)) : Notice :=
  .message (.object [
    ("parent_header", .object [("msg_id", .text id)]),
    ("msg_type", .text type),
    ("content", .object content)])

def messageOf (i : Nat) : Notice :=
  let id := ({} : Peer).messageId
  match i % 5 with
  | 0 => message id "stream" [("text", .text s!"s{i}")]
  | 1 => message id "execute_result" [("data", .object [("text/plain", .text s!"r{i}")])]
  | 2 => message id "error" [("traceback", .texts ["boom"])]
  | 3 => message "other" "stream" [("text", .text s!"o{i}")]
  | _ => message id "status" [("execution_state", .text "busy")]

def messages (count : Nat) : List Notice :=
  (List.range count).map messageOf

def idle : Notice :=
  message ({} : Peer).messageId "status" [("execution_state", .text "idle")]

def meet (peers : List Peer) : Act Unit :=
  modify fun host => { host with peers }

def dead : Peer :=
  { readyFault := some "boom" }

def exercise (k : Kernel) : Act Unit := do
  k.stop
  k.start [] []
  k.start [] []
  meet [dead, dead]
  orElse (k.start [] []) fun _ => ()
  place k.connection "\x7b\x7d"
  k.stop
  modify fun host => { host with replies := [.ended 1 "" ""] }
  orElse (k.ensureEnvironment []) fun _ => ()

def work (k : Kernel) (count : Nat) : Act Value := quietly do
  meet [{ notices := messages count ++ [idle] }]
  let whole ← k.execute "x" (.float 30.0)
  meet [{ notices := messages count }]
  let part ← k.execute "x" (.float 1.0)
  let status ← k.status
  return .list [
    .list [.bool whole.success, .nat whole.output.length, .bool whole.error.isSome],
    .list [.bool part.success, .nat part.output.length],
    .list [.bool status.running, .bool status.responsive],
    .bool (← k.isRunning)]

def prepare (base : Path) (count : Nat) : Act (Act Value) := do
  let k : Kernel := { directory := base / "venv", connection := base / "kernel.json" }
  let started := base / "started.json"
  modify fun host => { host with kernelFile := started }
  quietly (exercise k)
  Act.removeFile started
  place k.connection "\x7b\x7d"
  return work k count

end Kernels

def kernels : Workload where
  name := "kernel_manager"
  parameter := "n_msgs"
  sizes := [100, 300, 800]
  prepare := Kernels.prepare

end SkillKit.Workload
