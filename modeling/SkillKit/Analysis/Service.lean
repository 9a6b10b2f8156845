import SkillKit.Kernel.Basic
import SkillKit.Warehouse.Basic

/-!
# What serves an analyst

Requests need something that runs code and a source of warehouses.  Usually these are the kernel
in its usual place and the settings of the user.
-/

namespace SkillKit.Analysis

structure Runner where
  isRunning : Act Bool
  start : (vars : Fields) → (packages : List String) → Act Unit
  stop : Act Unit
  execute : (code : String) → (timeout : Value) → Act Execution
  install : (packages : List String) → Act (Bool × String)
  status : Act Value

def Runner.ofKernel (k : Kernel) : Runner where
  isRunning := k.isRunning
  start := k.start
  stop := k.stop
  execute := k.execute
  install := k.install
  status := KernelStatus.toValue <$> k.status

structure Service where
  runner : Act Runner
  warehouses : Act Warehouse.Config

def Service.usual : Service where
  runner := Runner.ofKernel <$> Kernel.usual
  warehouses := Warehouse.load none

end SkillKit.Analysis
