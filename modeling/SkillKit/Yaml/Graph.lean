import SkillKit.Yaml.Leaf

/-!
# Graphs of YAML documents

What the nodes of a document stand for, each at the place of its node.  A collection names the
places of its parts, so that it may hold itself.  The nodes are reached level by level from the
outermost one, and of several faults the one found first in this order counts.
-/

namespace SkillKit.Yaml

inductive Cell where
  | atom (a : Atom)
  | list (items : List Nat)
  | pairs (entries : List (Nat × Nat))
  | dict (fields : List (Atom × Nat))
  | set (members : List Atom)

instance : Inhabited Cell := ⟨.list []⟩

/-- What is known while the nodes of a document are gone through. -/
structure Growing where
  nodes : Array Node
  cells : Array (Option Cell)
  reached : Array Nat := #[]

abbrev Grow := StateT Growing (Except Fault)

namespace Grow

def node (place : Nat) : Grow Node := do
  return (← get).nodes.getD place emptyNode

def setNode (place : Nat) (node : Node) : Grow Unit :=
  modify fun g => { g with nodes := g.nodes.setIfInBounds place node }

def cell? (place : Nat) : Grow (Option Cell) := do
  return ((← get).cells[place]?).join

def setCell (place : Nat) (cell : Cell) : Grow Unit :=
  modify fun g => { g with cells := g.cells.setIfInBounds place (some cell) }

def entries? (place : Nat) : Grow (Option (List (Nat × Nat))) := do
  match ← node place with
  | .map _ entries => return some entries
  | _ => return none

def setEntries (place : Nat) (entries : List (Nat × Nat)) : Grow Unit := do
  setNode place (.map (← node place).tag entries)

def hasTag (place : Nat) (name : String) : Grow Bool := do
  return (← node place).tag == standardTag name

/-! ## Merging -/

def entryCount (nodes : Array Node) : Nat :=
  nodes.foldl (fun n node => match node with
    | .map _ entries => n + entries.length
    | _ => n) 0

def entryTagged? (name : String) : List (Nat × Nat) → Grow (Option (Nat × Nat))
  | [] => return none
  | e :: es => do
    if ← hasTag e.1 name then return some e else entryTagged? name es

def withoutKey (key : Nat) : List (Nat × Nat) → List (Nat × Nat)
  | [] => []
  | e :: es => if e.1 == key then es else e :: withoutKey key es

def settleKeys (entries : List (Nat × Nat)) : Grow Unit :=
  entries.forM fun (key, _) => do
    if ← hasTag key "value" then setNode key ((← node key).withTag (standardTag "str"))

/-- Does the merges of the mapping at a place, and gives its entries: first those merged into it,
then its own.  A merge key is taken away before what it merges is looked at, so that a mapping
that merges itself gains nothing.  `merged` holds what earlier merge keys brought. -/
def merge : (fuel : Nat) → (merged : List (Nat × Nat)) → (place : Nat) →
    Grow (List (Nat × Nat))
  | 0, _, _ => throw .badYaml
  | fuel + 1, merged, place => do
    let some entries ← entries? place | throw .badYaml
    match ← entryTagged? "merge" entries with
    | none =>
      settleKeys entries
      setEntries place (merged ++ entries)
      return merged ++ entries
    | some (key, source) =>
      setEntries place (withoutKey key entries)
      let more ← match ← node source with
        | .map .. => merge fuel [] source
        | .seq _ items => do
          -- of several mappings the first counts most, so it comes last
          let each ← items.mapM (merge fuel [])
          pure each.reverse.flatten
        | .scalar .. => throw .badYaml
      merge fuel (merged ++ more) place

/-! ## Reaching and filling -/

def collectionTags : List String :=
  ["seq", "map", "omap", "pairs", "set"].map standardTag

def scalarText : (fuel : Nat) → Node → Grow String
  | 0, _ => throw .tooDeep
  | fuel + 1, node => do
    match node with
    | .scalar _ text => return text
    | .seq .. => throw .badYaml
    | .map _ entries =>
      match ← entryTagged? "value" entries with
      | some (_, value) => scalarText fuel (← Grow.node value)
      | none => throw .badYaml

def reach (place : Nat) : Grow Unit := do
  if (← cell? place).isSome then return
  let node ← node place
  if collectionTags.contains node.tag then
    let empty := match node with
      | .map .. => .dict []
      | _ => .list []
    setCell place empty
    modify fun g => { g with reached := g.reached.push place }
  else
    let text ← scalarText ((← get).nodes.size + 1) node
    -- a date is read from a scalar alone
    if let .map .. := node then
      if node.tag == standardTag "timestamp" then throw .wrongKind
    setCell place (.atom (← atomOf node.tag text))

def atomAt (place : Nat) : Grow Atom := do
  match ← cell? place with
  | some (.atom a) => return a
  | _ => throw .badYaml

def reachFields (entries : List (Nat × Nat)) : Grow (List (Atom × Nat)) :=
  entries.mapM fun (key, value) => do
    reach key
    let a ← atomAt key
    reach value
    return (a, value)

def reachPairs (items : List Nat) : Grow (List (Nat × Nat)) :=
  items.mapM fun item => do
    let some [(key, value)] ← entries? item | throw .badYaml
    reach key
    reach value
    return (key, value)

def fill (place : Nat) : Grow Unit := do
  let node ← node place
  let cell ← match node with
    | .scalar .. => throw .badYaml
    | .seq tag items =>
      if tag == standardTag "seq" then
        items.forM reach
        pure (.list items)
      else if tag == standardTag "omap" || tag == standardTag "pairs" then
        .pairs <$> reachPairs items
      else throw .badYaml
    | .map tag _ =>
      let isMap := tag == standardTag "map"
      if !isMap && tag != standardTag "set" then throw .badYaml
      let fields ← reachFields (← merge (entryCount (← get).nodes + 1) [] place)
      pure (if isMap then .dict fields else .set (fields.map (·.1)))
  setCell place cell

def fillFrom : (fuel : Nat) → (done : Nat) → Grow Unit
  | 0, _ => return
  | fuel + 1, done => do
    match (← get).reached[done]? with
    | some place =>
      fill place
      fillFrom fuel (done + 1)
    | none => return

end Grow

def Document.cells (d : Document) : Except Fault (Array (Option Cell)) := do
  let start : Growing := ⟨d.nodes, d.nodes.map fun _ => none, #[]⟩
  let grow : Grow Unit := do
    Grow.reach d.root
    Grow.fillFrom d.nodes.size 0
  let (_, g) ← grow.run start
  return g.cells

end SkillKit.Yaml
