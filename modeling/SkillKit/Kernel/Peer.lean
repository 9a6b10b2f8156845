import SkillKit.Data.Value
import SkillKit.Environment

/-!
# The other end of a connection to a kernel

How a kernel behaves towards one client, and the steps that a client takes.
-/

namespace SkillKit

inductive Notice where
  | message (content : Value)
  | silence

structure Peer where
  notices : List Notice := []
  messageId : String := "M1"
  loadFault : Option String := none
  startFault : Option String := none
  stopFault : Option String := none
  readyFault : Option String := none
  shutdownFault : Option String := none
  executeFault : Option String := none

inductive KernelStep where
  | load (file : String)
  | startChannels
  | stopChannels
  | ready (seconds : Nat)
  | shutdown
  | execute (code : String) (silent : Bool)
  | make (name : String)
  | launch (arguments : List String) (environment : Environment)

end SkillKit
