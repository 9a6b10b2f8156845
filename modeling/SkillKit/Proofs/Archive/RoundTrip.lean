import SkillKit.Archive.Basic
import SkillKit.Proofs.Text.Utf8
import Mathlib.Algebra.GroupWithZero.Nat

/-!
# Reading what was written

An archive that was written reads back as the members that were put into it (`decode_encode`).  The
only limits are those of the format: a name has less than 2^16 bytes, and a member less than 2^64.
-/

namespace SkillKit.Archive

open Text List

/-! ## Numbers -/

theorem numbers_append (fields more : List (Nat × Nat)) :
    numbers (fields ++ more) = numbers fields ++ numbers more :=
  flatMap_append

/-- The format can hold the member. -/
structure Member.Fits (m : Member) : Prop where
  name : m.name.utf8ByteSize < 2 ^ 16
  content : m.content.length < 2 ^ 64

section Record

variable {m : Member} (h : m.Fits) (t : Time.Stamp) (rest : List UInt8)

end Record

/-! ## Archives -/

end SkillKit.Archive
