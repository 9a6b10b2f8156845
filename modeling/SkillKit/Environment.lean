/-!
# Environment variables

Named texts that a program is started with, in the order in which they were set.
-/

namespace SkillKit

structure Environment where
  entries : List (String × String) := []
deriving Repr, DecidableEq, Inhabited

namespace Environment

def get? (env : Environment) (name : String) : Option String :=
  env.entries.lookup name

def setEntry (name value : String) : List (String × String) → List (String × String)
  | [] => [(name, value)]
  | (n, v) :: rest => if n == name then (n, value) :: rest else (n, v) :: setEntry name value rest

def set (env : Environment) (name value : String) : Environment :=
  ⟨setEntry name value env.entries⟩

def names (env : Environment) : List String :=
  env.entries.map (·.1)

end Environment

end SkillKit
