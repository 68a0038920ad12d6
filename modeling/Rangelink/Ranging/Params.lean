import Rangelink.SortedMap

/-! # Ranging parameters

Protocol-specific attributes of a session, listed by key.
-/
namespace Rangelink

abbrev Params := SortedMap String String

end Rangelink
