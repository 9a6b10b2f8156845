/-!
# Powers

Powers of the two bases in which numbers are held and written.
-/

namespace SkillKit

abbrev twoTo (k : Nat) : Nat := Nat.pow 2 k

abbrev tenTo (k : Nat) : Nat := Nat.pow 10 k

end SkillKit
