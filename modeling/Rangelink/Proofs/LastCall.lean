import Mathlib.Data.List.Basic
import Rangelink.Proofs.History
import Rangelink.Proofs.SortedMap
import Rangelink.Proofs.Text.CodePoint
import Rangelink.Ranging.Params
import Rangelink.Subscription

/-! # Collections that are set key by key

A collection that is set by calls, each for a key, shows what the last call for each
key says, and nothing of their order or of what was replaced. Its listing is the only
ascending one that does so. Session parameters and subscription groups are set in
this way.
-/
namespace Rangelink
open StrictOrder

/-- What the last of the calls for a key says. -/
def LastCall {κ β : Type} (calls : List (κ × β)) (k : κ) (v : β) : Prop :=
  ∃ before later, calls = before ++ (k, v) :: later ∧ ∀ call ∈ later, call.1 ≠ k

section LastCall
variable {κ β : Type} {calls : List (κ × β)} {call : κ × β} {k : κ} {v : β}

theorem not_lastCall_nil : ¬ LastCall [] k v := by
  rintro ⟨before, later, hsplit, -⟩
  simp at hsplit

theorem lastCall_concat :
    LastCall (calls ++ [call]) k v ↔ call = (k, v) ∨ (LastCall calls k v ∧ call.1 ≠ k) := by
  have hsplit := @exists_split_concat _ (· = (k, v)) (·.1 ≠ k) calls call
  simpa [LastCall] using hsplit

theorem exists_lastCall_iff : (∃ v, LastCall calls k v) ↔ ∃ call ∈ calls, call.1 = k := by
  induction calls using List.reverseRecOn with
  | nil => simp [not_lastCall_nil]
  | append_singleton calls call ih =>
    obtain ⟨k', v'⟩ := call
    by_cases h : k' = k <;> simp [lastCall_concat, h, ih]

end LastCall

namespace SortedMap
variable {κ β : Type} [StrictOrder κ] [DecidableEq κ] {calls : List (κ × β)} {k : κ} {v : β}

/-- A table that is set from nothing finds what the last call for a key says. -/
theorem get?_ofList_eq_some_iff : (ofList calls).get? k = some v ↔ LastCall calls k v := by
  induction calls using List.reverseRecOn with
  | nil =>
    have hnone : (ofList ([] : List (κ × β))).get? k = none := get?_empty k
    simp [hnone, not_lastCall_nil]
  | append_singleton calls call ih =>
    obtain ⟨k', v'⟩ := call
    rw [ofList, List.foldl_concat, ← ofList, get?_insert, lastCall_concat]
    by_cases h : k' = k <;> simp [h, ih]

theorem mem_keys_ofList_iff : k ∈ (ofList calls).keys ↔ ∃ call ∈ calls, call.1 = k := by
  simp only [mem_keys, get?_ofList_eq_some_iff, exists_lastCall_iff]

theorem get?_ofList_eq_none_iff : (ofList calls).get? k = none ↔ ∀ call ∈ calls, call.1 ≠ k := by
  have hkey : (∃ v, (ofList calls).get? k = some v) ↔ ∃ call ∈ calls, call.1 = k := by
    rw [← mem_keys, mem_keys_ofList_iff]
  rw [Option.eq_none_iff_forall_ne_some]
  constructor
  · intro hnone call hcall hk
    obtain ⟨v, hv⟩ := hkey.mpr ⟨call, hcall, hk⟩
    exact hnone v hv
  · intro hnone v hv
    obtain ⟨call, hcall, hk⟩ := hkey.mp ⟨v, hv⟩
    exact hnone call hcall hk

end SortedMap

namespace Params

/-- What parameters show of the calls that set them. -/
structure SetBy (calls : List (String × String)) (params : Params) : Prop where
  found : ∀ k v, params.get? k = some v ↔ LastCall calls k v
  missing : ∀ k, params.get? k = none ↔ ∀ call ∈ calls, call.1 ≠ k
  /-- The listing is the only one in which the keys ascend, by their code points, and that has just
  what is found. -/
  listing : ∀ xs, xs = params.entries ↔
    (xs.map Prod.fst).Pairwise (· < ·) ∧ ∀ k v, (k, v) ∈ xs ↔ LastCall calls k v
  /-- Each key that was set is listed once, and no other is listed. -/
  once : ∀ k, (params.entries.map Prod.fst).count k = if ∃ call ∈ calls, call.1 = k then 1 else 0
  /-- The keys ascend by their bytes too. -/
  bytes : (params.entries.map Prod.fst).Pairwise fun a b => Text.utf8 a < Text.utf8 b

theorem setBy (calls : List (String × String)) : SetBy calls (.ofList calls) where
  found _ _ := SortedMap.get?_ofList_eq_some_iff
  missing _ := SortedMap.get?_ofList_eq_none_iff
  listing xs := by
    simp only [SortedMap.eq_entries_iff, List.pairwise_map, Text.precedes_iff_lt,
      SortedMap.get?_ofList_eq_some_iff]
  once k := by
    have hcount := (SortedSet.nodup_toList (SortedMap.ofList calls).keys).count (a := k)
    exact hcount.trans (if_congr SortedMap.mem_keys_ofList_iff rfl rfl)
  bytes := (SortedMap.ofList calls).keys.ascending.imp fun h =>
    Text.utf8_lt (Text.precedes_iff_lt.mp h)

end Params

theorem SubscriptionId.precedes_iff_lt {a b : SubscriptionId} :
    precedes a b = true ↔ a.number < b.number := by
  rw [Int32.lt_iff_toInt_lt]
  exact decide_eq_true_iff

namespace Snapshot
variable {calls : List (Uuid × List SubscriptionId)} {group : Uuid} {id : SubscriptionId}

/-- The groups that some calls set. -/
def ofList (calls : List (Uuid × List SubscriptionId)) : Snapshot :=
  calls.foldl (fun s call => s.setGroup call.1 call.2) {}

/-- The last call for the group names the subscription. -/
def Names (calls : List (Uuid × List SubscriptionId)) (group : Uuid) (id : SubscriptionId) : Prop :=
  ∃ ids, LastCall calls group ids ∧ id ∈ ids

theorem mem_members_ofList_iff : id ∈ (ofList calls).members group ↔ Names calls group id := by
  induction calls using List.reverseRecOn with
  | nil =>
    have hnone : id ∉ (ofList []).members group := SortedSet.not_mem_empty
    simp [hnone, Names, not_lastCall_nil]
  | append_singleton calls call ih =>
    obtain ⟨group', ids⟩ := call
    rw [ofList, List.foldl_concat, ← ofList, members_setGroup]
    by_cases h : group' = group <;> simp [h, Names, lastCall_concat, ih]

/-- What the members of a group show of the calls that set the groups. -/
structure SetBy (calls : List (Uuid × List SubscriptionId)) (group : Uuid)
    (members : SubscriptionIds) : Prop where
  /-- The listing is the only ascending one of those that the last call for the group names. -/
  listing : ∀ ids, ids = members.toList ↔
    (ids.map SubscriptionId.number).Pairwise (· < ·) ∧ ∀ id, id ∈ ids ↔ Names calls group id
  once : members.toList.Nodup
  missing : (∀ call ∈ calls, call.1 ≠ group) → members.toList = []

theorem setBy (calls : List (Uuid × List SubscriptionId)) (group : Uuid) :
    SetBy calls group ((ofList calls).members group) where
  listing ids := by
    simp only [SortedSet.eq_toList_iff, List.pairwise_map, SubscriptionId.precedes_iff_lt,
      mem_members_ofList_iff]
  once := SortedSet.nodup_toList _
  missing hnone := by
    rw [List.eq_nil_iff_forall_not_mem]
    intro id hid
    obtain ⟨ids, hlast, -⟩ := mem_members_ofList_iff.mp (SortedSet.mem_def.mpr hid)
    obtain ⟨call, hcall, hgroup⟩ := exists_lastCall_iff.mp ⟨ids, hlast⟩
    exact hnone call hcall hgroup

end Snapshot

/-- Parameters find the value of the last call for a key and list each key once, by its code points;
they are equal if they find the same under every key, so calls for different keys can be made in
either order. A group lists, ascending, those that the last call for it names, whatever their order
and repetition there and whatever is said of other groups. -/
theorem listed_by_last_calls (calls : List (String × String))
    (settings : List (Uuid × List SubscriptionId)) :
    Params.SetBy calls (.ofList calls) ∧
      (∀ calls', SortedMap.ofList calls = SortedMap.ofList calls' ↔
        ∀ k, (SortedMap.ofList calls).get? k = (SortedMap.ofList calls').get? k) ∧
      (∀ k v k' v' later, k ≠ k' →
        SortedMap.ofList (calls ++ (k, v) :: (k', v') :: later) =
          SortedMap.ofList (calls ++ (k', v') :: (k, v) :: later)) ∧
      ∀ group,
        Snapshot.SetBy settings group ((Snapshot.ofList settings).members group) ∧
          ∀ settings',
            (Snapshot.ofList settings).members group = (Snapshot.ofList settings').members group ↔
              ∀ id, Snapshot.Names settings group id ↔ Snapshot.Names settings' group id := by
  refine ⟨Params.setBy calls, fun _ => SortedMap.ext_iff, ?_, ?_⟩
  · intro k v k' v' later hne
    simp only [SortedMap.ofList, List.foldl_append, List.foldl_cons, SortedMap.insert_comm hne]
  · intro group
    refine ⟨Snapshot.setBy settings group, ?_⟩
    intro settings'
    simp only [SortedSet.ext_iff, Snapshot.mem_members_ofList_iff]

/-- A key beyond the sixteen-bit code points, and a group that only other calls are for. -/
theorem listed_by_last_calls_supplementary :
    let settings : List (Uuid × List SubscriptionId) := [(⟨1⟩, [⟨7⟩, ⟨-2⟩, ⟨7⟩])]
    "\uffff" ≠ "😀" ∧
      SortedMap.ofList ([("", "1")] ++ ("\uffff", "2") :: ("😀", "3") :: [("\x00", "4")]) =
        SortedMap.ofList ([("", "1")] ++ ("😀", "3") :: ("\uffff", "2") :: [("\x00", "4")]) ∧
      (∀ call ∈ settings, call.1 ≠ Uuid.zero) ∧
      ((Snapshot.ofList settings).members .zero).toList = [] := by
  intro settings
  obtain ⟨-, -, hcomm, hgroup⟩ := listed_by_last_calls [("", "1")] settings
  have hne : "\uffff" ≠ "😀" := by decide
  have hnone : ∀ call ∈ settings, call.1 ≠ Uuid.zero := by decide
  exact ⟨hne, hcomm _ _ _ _ _ hne, hnone, (hgroup .zero).1.missing hnone⟩

-- by its sixteen-bit units the last key would come before the one above it
example :
    (SortedMap.ofList [("😀", "1"), ("\uffff", "2"), ("", "3"), ("😀", "4"), ("\x00", "5")]).entries =
      [("", "3"), ("\x00", "5"), ("\uffff", "2"), ("😀", "4")] := by decide

end Rangelink
