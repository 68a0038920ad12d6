import Mathlib.Data.List.DropRight
import Rangelink.Proofs.History
import Rangelink.Proofs.RouteSelection.Step

/-! # Route selection read off its history

The tracked network and the record under construction are determined by the
history of events alone: by the segment since the network was last taken up, the
last report of each kind in it, and the last suspension or resumption after the
last report of capabilities.
-/
namespace Rangelink.RouteSelection.History

/-- Among the networks, this one became available last, and it was not lost since. -/
def Tracks (n : NetworkId) (events : List NetworkEvent) : Prop :=
  ∃ before later, events = before ++ ⟨n, .available⟩ :: later ∧
    (∀ e, e ∈ later → e.change ≠ .available) ∧ ⟨n, .lost⟩ ∉ later

/-- Another network became available, or the network itself was lost. -/
def parts (n : NetworkId) (e : NetworkEvent) : Bool :=
  decide (e.change = .available ∧ e.network ≠ n) || decide (e = ⟨n, .lost⟩)

/-- The events from the first availability of the network after the last event that parts from it. -/
def segment (n : NetworkId) (events : List NetworkEvent) : List NetworkEvent :=
  (events.rtakeWhile (fun e => !parts n e)).dropWhile (fun e => !decide (e = ⟨n, .available⟩))

def capabilities? (n : NetworkId) : NetworkEvent → Option Capabilities
  | ⟨m, .capabilities cs⟩ => if m = n then some cs else none
  | _ => none

def link? (n : NetworkId) : NetworkEvent → Option Link
  | ⟨m, .link link⟩ => if m = n then some link else none
  | _ => none

def blocked? (n : NetworkId) : NetworkEvent → Option Bool
  | ⟨m, .blocked blocked⟩ => if m = n then some blocked else none
  | _ => none

def suspension? (n : NetworkId) : NetworkEvent → Option Suspension
  | ⟨m, .suspended⟩ => if m = n then some .suspended else none
  | ⟨m, .resumed⟩ => if m = n then some .resumed else none
  | _ => none

def last {α : Type} (value? : NetworkEvent → Option α) (events : List NetworkEvent) : Option α :=
  (events.filterMap value?).getLast?

/-- The last suspension or resumption after the last report of capabilities. -/
def lastSuspension (n : NetworkId) (events : List NetworkEvent) : Option Suspension :=
  last (suspension? n) (events.rtakeWhile fun e => (capabilities? n e).isNone)

/-- A suspension takes `notSuspended` out of both sets, and a resumption makes it wanted. -/
def overridden : Option Suspension → Capabilities → Capabilities
  | none, cs => cs
  | some .suspended, cs =>
    { cs with
      wanted := cs.wanted.erase .notSuspended
      unwanted := cs.unwanted.erase .notSuspended }
  | some .resumed, cs =>
    { cs with
      wanted := cs.wanted.insert .notSuspended
      unwanted := cs.unwanted.erase .notSuspended }

/-- The record under construction, as far as a segment of events about the network fills it. -/
def draft (n : NetworkId) (events : List NetworkEvent) : NetworkRecord.Draft where
  network := n
  capabilities := (last (capabilities? n) events).map (overridden (lastSuspension n events))
  link := last (link? n) events
  blocked := last (blocked? n) events

section Histories
variable {n : NetworkId} {events : List NetworkEvent} {e : NetworkEvent}

theorem tracks_iff :
    Tracks n events ↔ ∃ before x later, events = before ++ x :: later ∧ x = ⟨n, .available⟩ ∧
      ∀ e ∈ later, e.change ≠ .available ∧ e ≠ ⟨n, .lost⟩ := by
  constructor
  · rintro ⟨before, later, hsplit, hlater, hlost⟩
    refine ⟨before, _, later, hsplit, rfl, ?_⟩
    intro e he
    exact ⟨hlater e he, fun h => hlost (h ▸ he)⟩
  · rintro ⟨before, _, later, hsplit, rfl, hlater⟩
    exact ⟨before, later, hsplit, fun e he => (hlater e he).1, fun he => (hlater _ he).2 rfl⟩

theorem not_tracks_nil : ¬ Tracks n [] := by
  rw [tracks_iff]
  exact not_exists_split_nil

theorem tracks_append :
    Tracks n (events ++ [e]) ↔
      e = ⟨n, .available⟩ ∨ (Tracks n events ∧ e.change ≠ .available ∧ e ≠ ⟨n, .lost⟩) := by
  rw [tracks_iff, tracks_iff]
  exact exists_split_concat

theorem segment_append (n : NetworkId) (events : List NetworkEvent) (e : NetworkEvent) :
    segment n (events ++ [e]) =
      if parts n e = true then []
      else if segment n events = [] then if e = ⟨n, .available⟩ then [e] else []
      else segment n events ++ [e] := by
  unfold segment
  rw [List.rtakeWhile_concat]
  cases hp : parts n e with
  | true => simp
  | false =>
    simp only [Bool.not_false, if_true, Bool.false_eq_true, if_false, List.dropWhile_append,
      List.isEmpty_iff]
    split
    · by_cases he : e = ⟨n, .available⟩ <;> simp [he]
    · rfl

theorem segment_ne_nil_iff (n : NetworkId) (events : List NetworkEvent) :
    segment n events ≠ [] ↔ Tracks n events := by
  induction events using List.reverseRecOn with
  | nil =>
    constructor
    · intro h
      exact absurd rfl h
    · intro h
      exact absurd h not_tracks_nil
  | append_singleton events e ih =>
    rw [tracks_append, segment_append, ← ih]
    by_cases he : e = ⟨n, .available⟩
    · subst he
      have hp : parts n ⟨n, .available⟩ = false := by simp [parts]
      by_cases hs : segment n events = [] <;> simp [hp, hs]
    · have hp : parts n e = false ↔ e.change ≠ .available ∧ e ≠ ⟨n, .lost⟩ := by
        obtain ⟨m, change⟩ := e
        simp only [parts, Bool.or_eq_false_iff, decide_eq_false_iff_not, ne_eq, not_and, not_not]
        constructor
        · rintro ⟨h, hlost⟩
          refine ⟨fun hc => he ?_, hlost⟩
          rw [h hc, hc]
        · rintro ⟨h, hlost⟩
          exact ⟨fun hc => absurd hc h, hlost⟩
      rw [← hp]
      by_cases hs : segment n events = [] <;> cases hb : parts n e <;> simp [hs, he]

theorem last_append {α : Type} (value? : NetworkEvent → Option α) (events : List NetworkEvent)
    (e : NetworkEvent) : last value? (events ++ [e]) = (value? e).or (last value? events) :=
  getLast?_filterMap_concat value? events e

theorem isSome_last_iff {α : Type} (value? : NetworkEvent → Option α) (events : List NetworkEvent) :
    (last value? events).isSome = true ↔ ∃ value e, e ∈ events ∧ value? e = some value := by
  rw [last, Option.isSome_iff_ne_none, ne_eq, List.getLast?_eq_none_iff]
  constructor
  · intro h
    obtain ⟨value, hvalue⟩ := List.exists_mem_of_ne_nil _ h
    obtain ⟨e, he, hev⟩ := List.mem_filterMap.mp hvalue
    exact ⟨value, e, he, hev⟩
  · rintro ⟨value, e, he, hev⟩
    have hvalue : value ∈ events.filterMap value? := List.mem_filterMap.mpr ⟨e, he, hev⟩
    exact List.ne_nil_of_mem hvalue

theorem capabilities?_eq_some_iff {cs : Capabilities} :
    capabilities? n e = some cs ↔ e = ⟨n, .capabilities cs⟩ := by
  obtain ⟨m, change⟩ := e
  cases change <;> simp [capabilities?]

theorem link?_eq_some_iff {link : Link} : link? n e = some link ↔ e = ⟨n, .link link⟩ := by
  obtain ⟨m, change⟩ := e
  cases change <;> simp [link?]

theorem blocked?_eq_some_iff {blocked : Bool} :
    blocked? n e = some blocked ↔ e = ⟨n, .blocked blocked⟩ := by
  obtain ⟨m, change⟩ := e
  cases change <;> simp [blocked?]

theorem lastSuspension_append (n : NetworkId) (events : List NetworkEvent) (e : NetworkEvent) :
    lastSuspension n (events ++ [e]) =
      if (capabilities? n e).isSome = true then none
      else (suspension? n e).or (lastSuspension n events) := by
  unfold lastSuspension
  rw [List.rtakeWhile_concat]
  cases h : capabilities? n e with
  | none => simp [last_append]
  | some cs => simp [last]

end Histories

/-- The state is what a segment of events about the tracked network makes of it. -/
structure Reads (n : NetworkId) (events : List NetworkEvent) (s : RouteSelection) : Prop where
  inProgress : s.inProgress = some (draft n events)
  genuine : s.genuine = last (capabilities? n) events
  suspension : s.suspension = lastSuspension n events

theorem overridden_eq_adjust : overridden = Suspension.adjust := by
  funext suspension cs
  rcases suspension with _ | _ | _ <;> rfl

namespace Reads
variable {n : NetworkId} {events : List NetworkEvent} {s : RouteSelection} {e : NetworkEvent}

theorem of_available (n : NetworkId) (current : Option NetworkRecord) :
    Reads n [⟨n, .available⟩] { inProgress := some { network := n }, current } :=
  ⟨rfl, rfl, rfl⟩

theorem skip (h : Reads n events s) (hc : capabilities? n e = none) (hl : link? n e = none)
    (hb : blocked? n e = none) (hs : suspension? n e = none) : Reads n (events ++ [e]) s := by
  have hsuspension : lastSuspension n (events ++ [e]) = lastSuspension n events := by
    rw [lastSuspension_append, hc, hs]
    rfl
  constructor
  · rw [h.inProgress]
    simp [draft, last_append, hsuspension, hc, hl, hb]
  · rw [h.genuine, last_append, hc, Option.none_or]
  · rw [h.suspension, hsuspension]

theorem note_capabilities (h : Reads n events s) (cs : Capabilities) :
    Reads n (events ++ [⟨n, .capabilities cs⟩]) (s.note (.capabilities cs)) := by
  constructor
  · simp [note, refresh, effective, modifyDraft, h.inProgress, draft, last_append,
      lastSuspension_append, capabilities?, link?, blocked?, NetworkRecord.Draft.setCapabilities,
      overridden_eq_adjust]
  · simp [note, refresh, effective, modifyDraft, last_append, capabilities?]
  · simp [note, refresh, effective, modifyDraft, lastSuspension_append, capabilities?]

theorem refresh_override (h : Reads n events s) {suspension : Suspension}
    (hs : suspension? n e = some suspension) (hc : capabilities? n e = none)
    (hl : link? n e = none) (hb : blocked? n e = none) :
    Reads n (events ++ [e]) ({ s with suspension := some suspension } : RouteSelection).refresh := by
  have hlast : lastSuspension n (events ++ [e]) = some suspension := by
    simp [lastSuspension_append, hc, hs]
  cases hg : last (capabilities? n) events with
  | none =>
    have hnone : s.genuine = none := h.genuine.trans hg
    constructor
    · simp [refresh, effective, hnone, h.inProgress, draft, last_append, hc, hl, hb, hg]
    · simp [refresh, effective, hnone, last_append, hc, hg]
    · simp [refresh, effective, hnone, hlast]
  | some cs =>
    have hsome : s.genuine = some cs := h.genuine.trans hg
    constructor
    · simp [refresh, effective, modifyDraft, hsome, h.inProgress, draft, last_append, hc, hl, hb,
        hg, hlast, NetworkRecord.Draft.setCapabilities, overridden_eq_adjust]
    · simp [refresh, effective, modifyDraft, hsome, last_append, hc, hg]
    · simp [refresh, effective, modifyDraft, hsome, hlast]

theorem note_link (h : Reads n events s) (link : Link) :
    Reads n (events ++ [⟨n, .link link⟩]) (s.note (.link link)) := by
  constructor
  · simp [note, modifyDraft, h.inProgress, draft, last_append, lastSuspension_append,
      capabilities?, link?, blocked?, suspension?, NetworkRecord.Draft.setLink]
  · simp [note, modifyDraft, h.genuine, last_append, capabilities?]
  · simp [note, modifyDraft, h.suspension, lastSuspension_append, capabilities?, suspension?]

theorem note_blocked (h : Reads n events s) (blocked : Bool) :
    Reads n (events ++ [⟨n, .blocked blocked⟩]) (s.note (.blocked blocked)) := by
  constructor
  · simp [note, modifyDraft, h.inProgress, draft, last_append, lastSuspension_append,
      capabilities?, link?, blocked?, suspension?, NetworkRecord.Draft.setBlocked]
  · simp [note, modifyDraft, h.genuine, last_append, capabilities?]
  · simp [note, modifyDraft, h.suspension, lastSuspension_append, capabilities?, suspension?]

theorem note_report (h : Reads n events s) {change : NetworkChange} (hr : change.isReport = true) :
    Reads n (events ++ [⟨n, change⟩]) (s.note change) := by
  cases change with
  | available => cases hr
  | lost => cases hr
  | capabilities cs => exact h.note_capabilities cs
  | link link => exact h.note_link link
  | blocked blocked => exact h.note_blocked blocked
  | suspended => exact h.refresh_override (by simp [suspension?]) rfl rfl rfl
  | resumed => exact h.refresh_override (by simp [suspension?]) rfl rfl rfl

theorem of_announce (h : Reads n events s) : Reads n events s.announce.1 := by
  obtain ⟨current, hc⟩ := s.announce_fst
  rw [hc]
  exact ⟨h.inProgress, h.genuine, h.suspension⟩

theorem skip_other (h : Reads n events s) (hn : e.network ≠ n) : Reads n (events ++ [e]) s := by
  obtain ⟨m, change⟩ := e
  have hm : m ≠ n := hn
  cases change <;> exact h.skip (by simp [capabilities?, hm]) (by simp [link?, hm])
    (by simp [blocked?, hm]) (by simp [suspension?, hm])

end Reads

section Runs
variable {n : NetworkId} {events : List NetworkEvent} {s : RouteSelection} {e : NetworkEvent}

theorem tracked_apply :
    (s.apply e).1.tracked = some n ↔
      e = ⟨n, .available⟩ ∨ (s.tracked = some n ∧ e.change ≠ .available ∧ e ≠ ⟨n, .lost⟩) := by
  obtain ⟨m, change⟩ := e
  rcases change.coming_going_or_report with rfl | rfl | hr
  · have hm : (s.apply ⟨m, .available⟩).1.tracked = some m := s.tracked_track m
    simp [hm]
  · have hm : (s.apply ⟨m, .lost⟩).1.tracked = if s.tracked = some m then none else s.tracked :=
      s.tracked_lose m
    rw [hm]
    by_cases h : s.tracked = some m
    · simp [h, eq_comm]
    · have hne : s.tracked = some n → m ≠ n := by
        rintro hn rfl
        exact h hn
      simpa [h] using hne
  · have hm : (s.apply ⟨m, change⟩).1.tracked = s.tracked := by
      rw [apply_report (e := ⟨m, change⟩) hr, tracked_update]
    have hchange : change ≠ .available ∧ change ≠ .lost := by
      constructor <;> rintro rfl <;> cases hr
    simp [hm, hchange]

theorem tracked_after (n : NetworkId) (events : List NetworkEvent) :
    (after events {}).tracked = some n ↔ Tracks n events := by
  induction events using List.reverseRecOn with
  | nil =>
    constructor
    · intro h
      cases h
    · intro h
      exact absurd h not_tracks_nil
  | append_singleton events e ih =>
    rw [after_append, after_singleton, tracked_apply, tracks_append, ih]

theorem segment_extend (h : Tracks n events) (ha : e.change = .available → e.network = n)
    (hl : e ≠ ⟨n, .lost⟩) : segment n (events ++ [e]) = segment n events ++ [e] := by
  have hparts : parts n e = false := by
    simp only [parts, Bool.or_eq_false_iff, decide_eq_false_iff_not]
    exact ⟨fun hp => hp.2 (ha hp.1), hl⟩
  have hbegun := (segment_ne_nil_iff n events).mpr h
  rw [segment_append, hparts, if_neg (by simp), if_neg hbegun]

/-- As long as the network stays tracked, every event extends the reading. -/
theorem Reads.apply (h : Reads n events s) (hs : s.tracked = some n)
    (ha : e.change ≠ .available) (hl : e ≠ ⟨n, .lost⟩) : Reads n (events ++ [e]) (s.apply e).1 := by
  obtain ⟨m, change⟩ := e
  rcases change.coming_going_or_report with rfl | rfl | hr
  · exact absurd rfl ha
  · have hm : ¬(s.tracked = some m ∨ s.tracked = none) := by
      rw [hs]
      rintro (hn | hn)
      · exact hl (by rw [Option.some.inj hn])
      · cases hn
    have hsame : (s.apply ⟨m, .lost⟩).1 = s := by
      show (s.lose m).1 = s
      rw [lose, if_neg hm]
    rw [hsame]
    exact h.skip rfl rfl rfl rfl
  · rw [apply_report (e := ⟨m, change⟩) hr]
    by_cases hm : m = n
    · subst hm
      rw [update, if_pos hs]
      exact (h.note_report hr).of_announce
    · have hne : s.tracked ≠ some m := by
        rw [hs]
        exact fun hn => hm (Option.some.inj hn).symm
      rw [update, if_neg hne]
      exact h.skip_other hm

/-- An availability starts a segment, unless the network is tracked already. -/
theorem reads_track (htracks : s.tracked = some n ↔ Tracks n events)
    (hreads : s.tracked = some n → Reads n (segment n events) s) :
    Reads n (segment n (events ++ [⟨n, .available⟩])) (s.track n) := by
  unfold track
  split
  · rename_i hs
    -- a second availability belongs to the segment, but supplies no value
    rw [segment_extend (htracks.mp hs) (fun _ => rfl) (by simp)]
    exact (hreads hs).skip rfl rfl rfl rfl
  · rename_i hs
    have hempty : segment n events = [] := by
      by_contra hne
      exact hs (htracks.mpr ((segment_ne_nil_iff n events).mp hne))
    have hparts : parts n ⟨n, .available⟩ = false := by simp [parts]
    rw [segment_append, hparts, hempty, if_neg (by simp), if_pos rfl, if_pos rfl]
    exact Reads.of_available n s.current

/-- The state is the reading of the segment of the network that is tracked. -/
theorem reads_after (ht : (after events {}).tracked = some n) :
    Reads n (segment n events) (after events {}) := by
  induction events using List.reverseRecOn with
  | nil => cases ht
  | append_singleton events e ih =>
    rw [after_append, after_singleton] at ht ⊢
    have htracks := tracked_after n events
    rcases tracked_apply.mp ht with rfl | ⟨hs, ha, hl⟩
    · exact reads_track htracks ih
    · rw [segment_extend (htracks.mp hs) (fun he => absurd he ha) hl]
      exact (ih hs).apply hs ha hl

theorem draft_complete_iff (n : NetworkId) (events : List NetworkEvent) :
    (draft n events).isComplete = true ↔
      (∃ cs, ⟨n, .capabilities cs⟩ ∈ events) ∧ (∃ link, ⟨n, .link link⟩ ∈ events) ∧
        ∃ blocked, ⟨n, .blocked blocked⟩ ∈ events := by
  simp only [NetworkRecord.Draft.isComplete, draft, Option.isSome_map, Bool.and_eq_true,
    isSome_last_iff, capabilities?_eq_some_iff, link?_eq_some_iff, blocked?_eq_some_iff,
    exists_eq_right, and_assoc]

theorem record?_draft {r : NetworkRecord} (h : (draft n events).record? = some r) :
    r.network = n ∧ last (link? n) events = some r.link ∧
      last (blocked? n) events = some r.blocked ∧
      ∃ cs, last (capabilities? n) events = some cs ∧
        r.capabilities = overridden (lastSuspension n events) cs := by
  simp only [NetworkRecord.Draft.record?, draft] at h
  split at h
  · rename_i cs link blocked hcs hlink hblocked
    obtain ⟨genuine, hgenuine, hcs⟩ := Option.map_eq_some_iff.mp hcs
    cases h
    exact ⟨rfl, hlink, hblocked, genuine, hgenuine, hcs.symm⟩
  · cases h

/-- The tracked network is the one that became available last, unless it was lost since. Its record
is complete once its segment holds a report of each kind, and then consists of the last ones, with
the last suspension or resumption after the report of capabilities taken into account. -/
theorem determined_by_history (n : NetworkId) (events : List NetworkEvent) :
    ((after events {}).tracked = some n ↔ Tracks n events) ∧
      ((after events {}).tracked = some n →
        ((after events {}).candidate.isSome = true ↔
          (∃ cs, ⟨n, .capabilities cs⟩ ∈ segment n events) ∧
            (∃ link, ⟨n, .link link⟩ ∈ segment n events) ∧
            ∃ blocked, ⟨n, .blocked blocked⟩ ∈ segment n events) ∧
        ∀ r, (after events {}).candidate = some r →
          r.network = n ∧
            last (link? n) (segment n events) = some r.link ∧
            last (blocked? n) (segment n events) = some r.blocked ∧
            ∃ cs, last (capabilities? n) (segment n events) = some cs ∧
              r.capabilities = overridden (lastSuspension n (segment n events)) cs) := by
  refine ⟨tracked_after n events, ?_⟩
  intro ht
  have hcandidate : (after events {}).candidate = (draft n (segment n events)).record? := by
    rw [candidate, (reads_after ht).inProgress, Option.bind_some]
  rw [hcandidate]
  constructor
  · rw [NetworkRecord.Draft.isSome_record?, draft_complete_iff]
  · intro r hr
    exact record?_draft hr

/-- After a switch there and back, only the suspension and the resumption of the last segment count,
and of these only the one after the report of capabilities. -/
theorem determined_by_history_switch_back :
    let events : List NetworkEvent :=
      [⟨⟨1⟩, .available⟩, ⟨⟨1⟩, .blocked true⟩, ⟨⟨2⟩, .available⟩, ⟨⟨1⟩, .available⟩,
        ⟨⟨1⟩, .suspended⟩, ⟨⟨1⟩, .capabilities {}⟩, ⟨⟨2⟩, .lost⟩, ⟨⟨1⟩, .link {}⟩,
        ⟨⟨1⟩, .resumed⟩, ⟨⟨1⟩, .blocked false⟩]
    ∃ r, (after events {}).candidate = some r ∧ r.blocked = false ∧
      r.capabilities = overridden (some .resumed) {} := by
  intro events
  have ht : (after events {}).tracked = some ⟨1⟩ := by rfl
  obtain ⟨-, hread⟩ := (determined_by_history ⟨1⟩ events).2 ht
  obtain ⟨-, -, hblocked, cs, hcs, hcapabilities⟩ := hread _ rfl
  cases hcs
  exact ⟨_, rfl, (Option.some.inj hblocked).symm, hcapabilities⟩

end Runs

end Rangelink.RouteSelection.History
