import SkillKit.Kernel.Transcript
import SkillKit.Data.Number
import SkillKit.Warehouse.Settings

/-!
# The kernel that runs code

One kernel at a time is known, by the file that tells how to reach it.  It runs in a virtual
environment of its own, which is made when it is first needed.
-/

namespace SkillKit

def defaultPackages : List String := [
  "ipykernel", "jupyter_client", "polars", "pandas", "numpy", "matplotlib", "seaborn", "pyyaml",
  "python-dotenv"]

structure Kernel where
  directory : Path
  name : String := "astro-ai-kernel"
  packages : List String := defaultPackages
  connection : Path

structure Execution where
  success : Bool
  output : String
  error : Option String := none
deriving Repr, DecidableEq

def Execution.toValue (e : Execution) : Value :=
  .object [("success", .bool e.success), ("output", .text e.output), ("error", .ofText? e.error)]

structure KernelStatus where
  running : Bool
  connection : String
  responsive : Bool
deriving Repr, DecidableEq

def KernelStatus.toValue (s : KernelStatus) : Value :=
  .object [
    ("running", .bool s.running),
    ("connection_file", .text s.connection),
    ("responsive", .bool s.responsive)]

/-! ## Talking to a kernel -/

namespace Peer

def next : Act Peer := do
  let host ← get
  match host.peers with
  | [] => return {}
  | peer :: peers =>
    set { host with peers }
    return peer

def step (s : KernelStep) (fault : Option String) : Act Unit := do
  Act.record (.kernel s)
  match fault with
  | some text => throw (.failed text)
  | none => return

def load (p : Peer) (file : Path) : Act Unit :=
  step (.load file.toString) p.loadFault

def start (p : Peer) : Act Unit :=
  step .startChannels p.startFault

def stop (p : Peer) : Act Unit :=
  step .stopChannels p.stopFault

def ready (p : Peer) (seconds : Nat) : Act Unit :=
  step (.ready seconds) p.readyFault

def shutdown (p : Peer) : Act Unit :=
  step .shutdown p.shutdownFault

def execute (p : Peer) (code : String) (silent : Bool) : Act Unit :=
  step (.execute code silent) p.executeFault

end Peer

namespace Kernel

def usual : Act Kernel := do
  let directory ← Warehouse.kernelEnvironmentDir
  let connection ← Warehouse.kernelConnectionFile
  return { directory, connection }

def interpreter (k : Kernel) : Path :=
  (k.directory.child "bin").child "python"

def connect (k : Kernel) : Act Peer := do
  let peer ← Peer.next
  peer.load k.connection
  peer.start
  return peer

def answers (k : Kernel) : Act Bool := do
  let peer ← k.connect
  let r ← Act.result (peer.ready 2)
  peer.stop
  return r.isOk

def isRunning (k : Kernel) : Act Bool := do
  if !(← Act.pathExists k.connection) then return false
  match ← Act.result k.answers with
  | .ok b => return b
  | .error _ => return false

def status (k : Kernel) : Act KernelStatus := do
  let connection := k.connection.toString
  if !(← Act.pathExists k.connection) then return ⟨false, connection, false⟩
  match ← Act.result k.connect with
  | .error _ => return ⟨true, connection, false⟩
  | .ok peer =>
    let r ← Act.result (peer.ready 2)
    let _ ← Act.result peer.stop
    return ⟨true, connection, r.isOk⟩

/-! ## The environment of the kernel -/

def noInstaller : String :=
  "uv is not installed.\nInstall with: curl -LsSf https://astral.sh/uv/install.sh | sh"

def installCommand (k : Kernel) (packages : List String) : List String :=
  ["uv", "pip", "install", "--python", k.interpreter.toString] ++ packages

def registerCommand (k : Kernel) : List String :=
  [k.interpreter.toString, "-m", "ipykernel", "install", "--user", "--name", k.name,
    "--display-name", "Data Analysis Kernel"]

def ensureEnvironment (k : Kernel) (extra : List String) : Act Unit := do
  if !(← get).hasUv then throw (.failed noInstaller)
  if !(← Act.pathExists k.directory) then
    Act.printLine s!"Creating environment at {k.directory}"
    Act.runChecked ["uv", "venv", k.directory.toString, "--seed"]
  Act.printLine "Installing packages..."
  Act.runChecked (k.installCommand (k.packages ++ extra))
  let _ ← Act.result (Act.runCommand k.registerCommand none none)
  return

def install (k : Kernel) (packages : List String) : Act (Bool × String) := do
  if packages.isEmpty then return (false, "No packages specified")
  if !(← get).hasUv then return (false, "uv is not installed")
  match ← Act.result (Act.runCommand (k.installCommand packages) none none) with
  | .ok done =>
    if done.code == 0 then return (true, "Installed: " ++ ", ".intercalate packages)
    return (false, "Failed: " ++ done.err)
  | .error f => return (false, "Error: " ++ f.message)

/-! ## Starting and stopping -/

def stop (k : Kernel) : Act Unit := do
  if !(← Act.pathExists k.connection) then
    Act.printLine "Kernel not running"
    return
  let _ ← Act.result (do
    let peer ← k.connect
    peer.shutdown
    peer.stop)
  if ← Act.pathExists k.connection then Act.removeFile k.connection
  Act.printLine "\x7b\"message\": \"Kernel stopped\"\x7d"

def idleWatch : String :=
  "import threading, time, os, signal
_idle_timeout = 1800
_last_active = [time.time()]
_orig_execute = get_ipython().run_cell
def _tracked_execute(*a, **kw):
    _last_active[0] = time.time()
    return _orig_execute(*a, **kw)
get_ipython().run_cell = _tracked_execute
def _idle_watchdog():
    while True:
        time.sleep(60)
        if time.time() - _last_active[0] > _idle_timeout:
            os._exit(0)
_t = threading.Thread(target=_idle_watchdog, daemon=True)
_t.start()
"

def setVariables (vars : Fields) : Act Unit :=
  vars.forM fun
    | (.text name, .text value) =>
      modify fun host => { host with environment := host.environment.set name value }
    | _ => throw .wrongKind

def launch : Act Path := do
  let host ← get
  Act.record (.kernel (.launch ["--IPKernelApp.parent_handle=0"] host.environment))
  Act.writeText host.kernelFile "\x7b\x7d"
  return host.kernelFile

def copyFile (source target : Path) : Act Unit := do
  let content ← Act.readBytes source
  if ← Act.isDir target then Act.writeBytes (target.child source.name) content
  else Act.writeBytes target content

def awaitStart (k : Kernel) : Act Unit := do
  let peer ← Peer.next
  peer.start
  let r ← Act.result (do
    match ← Act.result (peer.ready 10) with
    | .ok _ => return
    | .error f => do
      k.stop
      throw (.failed s!"Kernel failed: {f.message}"))
  peer.stop
  Act.ofExcept r

def start (k : Kernel) (vars : Fields) (extra : List String) : Act Unit := do
  if ← k.isRunning then
    Act.printLine "Kernel already running"
    return
  k.ensureEnvironment extra
  Act.printLine "Starting kernel..."
  Act.record (.kernel (.make k.name))
  setVariables vars
  let source ← launch
  Act.makeDirs k.connection.parent
  copyFile source k.connection
  k.awaitStart
  (← Peer.next).execute idleWatch true
  Act.printLine s!"Kernel started ({k.connection})"

/-! ## Running code -/

def notRunning : String :=
  "Kernel not running. Start with: uv run scripts/cli.py start"

def listen (peer : Peer) (timeout : Value) : Act Transcript := do
  let now ← Act.readClock
  let deadline ← Act.ofExcept do (← Number.add (.float now) (← Number.ofValue timeout)).toFloat
  let host ← get
  let (transcript, clock) :=
    Transcript.listen peer.messageId host.tick deadline host.clock {} peer.notices
  set { host with clock }
  return transcript

def outcome (timeout : Value) (t : Transcript) : Except Fault Execution := do
  let output ← Transcript.joinTexts "" t.outputs
  if !t.done then return ⟨false, output, some s!"Timeout after {timeout.display}s"⟩
  return ⟨t.error.isNone, output, t.error⟩

def execute (k : Kernel) (code : String) (timeout : Value) : Act Execution := do
  if !(← Act.pathExists k.connection) then return ⟨false, "", some notRunning⟩
  let peer ← k.connect
  match ← Act.result (peer.ready 5) with
  | .error f =>
    peer.stop
    return ⟨false, "", some s!"Kernel not responding: {f.message}"⟩
  | .ok _ =>
    peer.execute code false
    let transcript ← listen peer timeout
    peer.stop
    Act.ofExcept (outcome timeout transcript)

end Kernel

end SkillKit
