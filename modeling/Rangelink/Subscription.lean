import Rangelink.Identifier
import Rangelink.SortedMap

/-! # Subscription groups

A snapshot says which subscriptions belong to which group at one time.
-/
namespace Rangelink

abbrev SubscriptionIds := SortedSet SubscriptionId

structure Snapshot where
  groups : SortedMap Uuid SubscriptionIds := .empty
  deriving DecidableEq

namespace Snapshot

def setGroup (group : Uuid) (ids : List SubscriptionId) (s : Snapshot) : Snapshot :=
  ⟨s.groups.insert group (.ofList ids)⟩

def ofGroup (group : Uuid) (ids : List SubscriptionId) : Snapshot := ({} : Snapshot).setGroup group ids

/-- The members of a group; a group that is not listed has none. -/
def members (group : Uuid) (s : Snapshot) : SubscriptionIds := (s.groups.get? group).getD .empty

theorem members_setGroup (group group' : Uuid) (ids : List SubscriptionId) (s : Snapshot) :
    (s.setGroup group ids).members group' =
      if group = group' then .ofList ids else s.members group' := by
  rw [members, setGroup, SortedMap.get?_insert]
  split <;> rfl

end Snapshot

end Rangelink
