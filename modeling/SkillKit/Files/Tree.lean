import SkillKit.Files.Path
import SkillKit.Fault
import SkillKit.Text.Utf8

/-!
# File trees

Files with their bytes and directories with named entries.  Paths are lists of names from the
root of the tree; `..` leads back to the directory above.
-/

namespace SkillKit

open Text

inductive Tree where
  | file (content : ByteArray)
  | dir (entries : List (String × Tree))

instance : Inhabited Tree := ⟨.dir []⟩

namespace Tree

def isDir : Tree → Bool
  | .dir _ => true
  | .file _ => false

def setEntry (name : String) (t : Tree) : List (String × Tree) → List (String × Tree)
  | [] => [(name, t)]
  | (n, u) :: rest => if n == name then (n, t) :: rest else (n, u) :: setEntry name t rest

def maxNameBytes : Nat := 255

/-- Follows names from a directory, whose ancestors are `trail`: what is found, and its own
names from the root. -/
def follow (trail : List (String × Tree)) (here : Tree) :
    List String → Except Fault (Tree × List String)
  | [] => .ok (here, (trail.map (·.1)).reverse)
  | name :: rest =>
    match here with
    | .file _ => .error .notDirectory
    | .dir entries =>
      if name == ".." then
        match trail with
        | [] => follow [] here rest
        | (_, up) :: trail => follow trail up rest
      else if maxNameBytes < name.utf8ByteSize then .error (.system none)
      else match entries.lookup name with
        | none => .error .noFile
        | some t => follow ((name, here) :: trail) t rest

def find (t : Tree) (path : List String) : Except Fault Tree :=
  (·.1) <$> follow [] t path

def at? (t : Tree) (path : List String) : Option Tree :=
  match t.find path with
  | .ok u => some u
  | .error _ => none

def put (new : Tree) : (path : List String) → Tree → Tree
  | [], _ => new
  | name :: rest, .dir entries =>
    .dir (setEntry name (put new rest ((entries.lookup name).getD (.dir []))) entries)
  | _ :: _, t => t

def remove : (path : List String) → Tree → Tree
  | [name], .dir entries => .dir (entries.filter (·.1 != name))
  | name :: rest, .dir entries =>
    match entries.lookup name with
    | some t => .dir (setEntry name (remove rest t) entries)
    | none => .dir entries
  | _, t => t

/-- Whether something stands at a path.  Only a path that cannot be looked up is a fault. -/
def exists? (t : Tree) (path : List String) : Except Fault Bool :=
  match t.find path with
  | .ok _ => .ok true
  | .error (.system s) => .error (.system s)
  | .error _ => .ok false

def isDirAt (t : Tree) (path : List String) : Except Fault Bool :=
  match t.find path with
  | .ok u => .ok u.isDir
  | .error (.system s) => .error (.system s)
  | .error _ => .ok false

def isFileAt (t : Tree) (path : List String) : Except Fault Bool :=
  match t.find path with
  | .ok u => .ok !u.isDir
  | .error (.system s) => .error (.system s)
  | .error _ => .ok false

def readBytes (t : Tree) (path : List String) : Except Fault ByteArray :=
  match t.find path with
  | .ok (.file content) => .ok content
  | .ok (.dir _) => .error .isDirectory
  | .error f => .error f

def readText (t : Tree) (path : List String) : Except Fault String := do
  match decode? (← t.readBytes path) with
  | some s => .ok (unifyLines s)
  | none => .error .notText

/-- Where the entry of a path belongs: its names from the root, with what stands there.  A path that
does not end in a name leads to a directory, so that its place is `taken`. -/
def slot (t : Tree) (path : List String) (taken : Fault) :
    Except Fault (List String × Option Tree) := do
  match path.getLast? with
  | none => .error taken
  | some name =>
    match ← follow [] t path.dropLast with
    | (.file _, _) => .error .notDirectory
    | (.dir entries, names) =>
      if name == ".." then .error taken
      else if maxNameBytes < name.utf8ByteSize then .error (.system none)
      else .ok (names ++ [name], entries.lookup name)

def writeBytes (t : Tree) (path : List String) (content : ByteArray) : Except Fault Tree := do
  let (names, there) ← t.slot path .isDirectory
  match there with
  | some (.dir _) => .error .isDirectory
  | _ => .ok (put (.file content) names t)

def writeText (t : Tree) (path : List String) (s : String) : Except Fault Tree :=
  t.writeBytes path s.toUTF8

def makeDir (t : Tree) (path : List String) : Except Fault Tree := do
  let (names, there) ← t.slot path .occupied
  if there.isSome then .error .occupied else .ok (put (.dir []) names t)

/-- The tree with a directory and those above it, as far as they are missing; the path is given
from its end. -/
def makeDirsRev (t : Tree) : (revPath : List String) → Except Fault Tree
  | [] => .ok t
  | name :: up =>
    let path := (name :: up).reverse
    match t.makeDir path with
    | .ok t => .ok t
    | .error .noFile => do
      let t ← makeDirsRev t up
      t.makeDir path
    | .error f =>
      match t.isDirAt path with
      | .ok true => .ok t
      | _ => .error f

def makeDirs (t : Tree) (path : List String) : Except Fault Tree :=
  t.makeDirsRev path.reverse

def removeFile (t : Tree) (path : List String) : Except Fault Tree := do
  let (u, names) ← follow [] t path
  if u.isDir then .error .isDirectory else .ok (remove names t)

def entriesAt (t : Tree) (path : List String) : Except Fault (List (String × Tree)) :=
  match t.find path with
  | .ok (.dir entries) => .ok (entries.mergeSort fun a b => a.1 ≤ b.1)
  | .ok (.file _) => .error .notDirectory
  | .error f => .error f

mutual

def filesBelow (revPath : List String) : Tree → List (List String × ByteArray)
  | .file content => [(revPath.reverse, content)]
  | .dir entries => filesOfEntries revPath entries

def filesOfEntries (revPath : List String) :
    List (String × Tree) → List (List String × ByteArray)
  | [] => []
  | (name, t) :: rest => filesBelow (name :: revPath) t ++ filesOfEntries revPath rest

end

def files (t : Tree) : List (List String × ByteArray) :=
  filesBelow [] t

end Tree

end SkillKit
