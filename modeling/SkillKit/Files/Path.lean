import SkillKit.Text.Basic

/-!
# Paths

A path is a sequence of names, possibly from the root.  Empty and `.` names are dropped when a
path is read; `..` stays.
-/

namespace SkillKit

open Text

structure Path where
  root : String := ""
  parts : List String := []
deriving Repr, DecidableEq, Inhabited

namespace Path

/-- Reads a path; two slashes in front, and no third, are a root of their own. -/
def ofString (s : String) : Path :=
  let slashes := (s.toList.takeWhile (· == '/')).length
  let root := if slashes == 0 then "" else if slashes == 2 then "//" else "/"
  ⟨root, (splitOnChar '/' s).filter fun p => !p.isEmpty && p != "."⟩

def isAbsolute (p : Path) : Bool :=
  !p.root.isEmpty

def toString (p : Path) : String :=
  if p.root.isEmpty && p.parts.isEmpty then "."
  else p.root ++ "/".intercalate p.parts

instance : ToString Path := ⟨toString⟩

def join (p q : Path) : Path :=
  if q.isAbsolute then q else ⟨p.root, p.parts ++ q.parts⟩

def child (p : Path) (name : String) : Path :=
  p.join (ofString name)

instance : HDiv Path String Path := ⟨child⟩

def name (p : Path) : String :=
  p.parts.getLast?.getD ""

def parent (p : Path) : Path :=
  ⟨p.root, p.parts.dropLast⟩

def parents (p : Path) : List Path :=
  (List.range p.parts.length).map fun i => ⟨p.root, p.parts.take (p.parts.length - 1 - i)⟩

/-- The ending of the name: from its last dot on, when something stands before and behind it. -/
def suffix (p : Path) : String :=
  let cs := p.name.toList
  let tail := (cs.reverse.takeWhile (· != '.')).reverse
  let front := cs.length - tail.length
  if tail.isEmpty || front ≤ 1 then "" else String.ofList ('.' :: tail)

def stem (p : Path) : String :=
  String.ofList (p.name.toList.take (p.name.length - p.suffix.length))

def withSuffix? (p : Path) (suffix : String) : Option Path :=
  if p.parts.isEmpty then none else some ⟨p.root, p.parts.dropLast ++ [p.stem ++ suffix]⟩

/-- The names as seen by one who looks at each: a root counts as a name. -/
def allParts (p : Path) : List String :=
  if p.isAbsolute then p.root :: p.parts else p.parts

def collapse (done : List String) : List String → List String
  | [] => done.reverse
  | ".." :: rest => collapse (done.drop 1) rest
  | n :: rest => collapse (n :: done) rest

def resolve (base p : Path) : Path :=
  let q := base.join p
  ⟨"/", collapse [] q.parts⟩

def relativeTo? (p base : Path) : Option Path :=
  if p.root == base.root && base.parts.isPrefixOf p.parts then
    some ⟨"", p.parts.drop base.parts.length⟩
  else none

end Path

end SkillKit
