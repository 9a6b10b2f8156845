import SkillKit.Yaml.Graph

/-!
# Reading YAML documents

The value of a document is the tree that its graph unfolds to.  Of fields with equal keys the last
one counts, in the place of the first.  A collection that comes up again within itself is only
named there.
-/

namespace SkillKit.Yaml

/-- Values of the places from which no collection within itself can be seen. -/
abbrev Unfolding := StateM (Array (Option Value))

def again : Cell → Atom
  | .dict _ => .dictAgain
  | _ => .listAgain

def setOf (members : List Atom) : Atom :=
  let once := Fields.merge [] (members.map fun a => (a, .null))
  .set (once.map fun f => f.1.literal)

/-- The value at a place, and whether nothing in it stands within itself.  `path` holds the
collections around the place that count as such; those of the outermost `levels` do not, because
what stands in them is looked at on its own. -/
def valueAt (cells : Array (Option Cell)) :
    (fuel levels : Nat) → (path : List Nat) → (place : Nat) → Unfolding (Value × Bool)
  | 0, _, _, _ => return (.null, false)
  | fuel + 1, levels, path, place => do
    let some cell := cells[place]?.join | return (.null, true)
    if path.contains place then return (.atom (again cell), false)
    if let some known := (← get)[place]?.join then return (known, true)
    let path := if levels == 0 then place :: path else path
    let part := valueAt cells fuel (levels - 1) path
    let (value, whole) ← match cell with
      | .atom a => pure (.atom a, true)
      | .set members => pure (.atom (setOf members), true)
      | .list items => do
        let parts ← items.mapM part
        pure (.list (parts.map (·.1)), parts.all (·.2))
      | .pairs entries => do
        let parts ← entries.mapM fun (key, value) => do
          let (key, keyWhole) ← part key
          let (value, whole) ← part value
          pure (Value.pair key value, keyWhole && whole)
        pure (.list (parts.map (·.1)), parts.all (·.2))
      | .dict fields => do
        let parts ← fields.mapM fun (key, value) => do
          let (value, whole) ← part value
          pure ((key, value), whole)
        pure (.dict (Fields.merge [] (parts.map (·.1))), parts.all (·.2))
    if whole then modify fun known => known.setIfInBounds place (some value)
    return (value, whole)

/-- The levels of a document that are looked at part by part: its outermost mapping, and the
mappings in this. -/
def openLevels : Nat := 2

def Document.value (d : Document) : Except Fault Value := do
  let cells ← d.cells
  let fuel := cells.size + openLevels + 1
  let ((value, _), _) := (valueAt cells fuel openLevels [] d.root).run (cells.map fun _ => none)
  return value

def read (text : String) : Except Fault Value := do
  match ← document (← tokens text) with
  | some d => d.value
  | none => return .null

end SkillKit.Yaml
