import Rangelink.Proofs.Attempt
import Rangelink.Proofs.Provider
import Rangelink.Tracker

/-! # What a call on the connectivity service can do

A call is either refused, for a reason that is in store, and leaves the active
callbacks alone; or it files or withdraws exactly the callback it names. The
provider has no grounds of its own for a failure as long as the identifiers that
are drawn are fresh and only active ones are withdrawn.
-/
namespace Rangelink

namespace Refusals
variable {ν : Type} [StrictOrder ν] [DecidableEq ν]

def Lists (r : Refusals ν) (reason : String) : Prop := ∃ call, some reason ∈ r.queue call

theorem next_fst (call : ν) (r : Refusals ν) : (r.next call).1 = (r.queue call).head?.join := by
  unfold next
  split
  · rename_i h
    rw [h]
    rfl
  · rename_i front rest h
    rw [h]
    rfl

theorem queue_next (call call' : ν) (r : Refusals ν) :
    (r.next call).2.queue call' = if call = call' then (r.queue call').tail else r.queue call' := by
  unfold next
  split
  · rename_i h
    split
    · rename_i hc
      rw [← hc, h]
      rfl
    · rfl
  · rename_i front rest h
    simp only [queue, SortedMap.get?_insert]
    split
    · rename_i hc
      rw [← hc]
      simp only [queue] at h
      rw [h]
      rfl
    · rfl

theorem lists_of_next {call : ν} {r : Refusals ν} {reason : String}
    (h : (r.next call).1 = some reason) : r.Lists reason := by
  refine ⟨call, ?_⟩
  rw [next_fst] at h
  exact List.mem_of_mem_head? (Option.join_eq_some_iff.mp h)

theorem Lists.of_next {call : ν} {r : Refusals ν} {reason : String}
    (h : (r.next call).2.Lists reason) : r.Lists reason := by
  obtain ⟨call', h⟩ := h
  refine ⟨call', ?_⟩
  rw [queue_next] at h
  split at h
  · exact List.mem_of_mem_tail h
  · exact h

end Refusals

namespace Service

/-- Some call to come is to be refused for this reason. -/
def MayRefuse (s : Service) (reason : String) : Prop :=
  s.refusals.Lists reason ∨ (∃ skip, s.provider.dueRefusal = some (skip, reason)) ∨
    s.provider.withdrawalRefusal = some reason

/-- The failure is a refusal that is in store, and none that the provider made up. -/
def Refuses (s : Service) (e : Failure) : Prop := ∃ reason, e = .remote reason ∧ s.MayRefuse reason

/-- No refusal was added on the way from one state to another. -/
def Spends (s s' : Service) : Prop := ∀ reason, s'.MayRefuse reason → s.MayRefuse reason

theorem Spends.refl (s : Service) : s.Spends s := fun _ h => h

theorem Spends.trans {s₁ s₂ s₃ : Service} (h₁ : s₁.Spends s₂) (h₂ : s₂.Spends s₃) :
    s₁.Spends s₃ := fun reason h => h₁ reason (h₂ reason h)

theorem Refuses.of_spends {s s' : Service} {e : Failure} (hs : s.Spends s') (h : s'.Refuses e) :
    s.Refuses e := by
  obtain ⟨reason, he, hr⟩ := h
  exact ⟨reason, he, hs reason hr⟩

/-- Active identifiers are distinct, and those that are left to be drawn are not among them. -/
structure Sound (s : Service) : Prop where
  distinct : s.provider.activeIds.Nodup
  numbered : ∀ place, .serial place ∈ s.provider.activeIds → place < s.drawn

theorem Sound.fresh {s : Service} (h : s.Sound) {place : Nat} (hp : s.drawn ≤ place) :
    .serial place ∉ s.provider.activeIds :=
  fun hmem => Nat.not_lt.mpr hp (h.numbered place hmem)

theorem Sound.of_active {s s' : Service} (h : s.Sound) (ha : s'.provider.active = s.provider.active)
    (hd : s.drawn ≤ s'.drawn) : s'.Sound := by
  constructor
  · rw [Provider.activeIds, ha]
    exact h.distinct
  · rw [Provider.activeIds, ha]
    exact fun place hp => Nat.lt_of_lt_of_le (h.numbered place hp) hd

theorem Sound.of_filed {s s' : Service} (h : s.Sound) {f : Filing} (hf : f.id = .serial s.drawn)
    (ha : s'.provider.active = s.provider.active ++ [f]) (hd : s'.drawn = s.drawn + 1) :
    s'.Sound := by
  have hnew : f.id ∉ s.provider.activeIds := by
    rw [hf]
    exact h.fresh (Nat.le_refl _)
  have hids : s'.provider.activeIds = s.provider.activeIds ++ [f.id] := by
    simp [Provider.activeIds, ha]
  constructor
  · rw [hids, List.nodup_append]
    refine ⟨h.distinct, by simp, ?_⟩
    rintro id hid _ hid' rfl
    rw [List.mem_singleton] at hid'
    exact hnew (hid' ▸ hid)
  · intro place hp
    rw [hids, List.mem_append, List.mem_singleton, hf] at hp
    rw [hd]
    rcases hp with hp | hp
    · have hlt := h.numbered place hp
      omega
    · cases hp
      omega

theorem Sound.of_withdrawn {s s' : Service} (h : s.Sound) {keep : Filing → Bool}
    (ha : s'.provider.active = s.provider.active.filter keep) (hd : s.drawn ≤ s'.drawn) :
    s'.Sound := by
  have hsub : s'.provider.activeIds.Sublist s.provider.activeIds := by
    rw [Provider.activeIds, ha]
    exact List.filter_sublist.map _
  constructor
  · exact h.distinct.sublist hsub
  · exact fun place hp => Nat.lt_of_lt_of_le (h.numbered place (hsub.subset hp)) hd

theorem spends_of_parts {s s' : Service} {verb : ServiceVerb}
    (hr : s'.refusals = (s.refusals.next verb).2)
    (hd : ∀ skip reason, s'.provider.dueRefusal = some (skip, reason) →
      ∃ skip', s.provider.dueRefusal = some (skip', reason))
    (hw : ∀ reason, s'.provider.withdrawalRefusal = some reason →
      s.provider.withdrawalRefusal = some reason) : s.Spends s' := by
  intro reason h
  rcases h with h | ⟨skip, h⟩ | h
  · rw [hr] at h
    exact Or.inl h.of_next
  · exact Or.inr (Or.inl (hd skip reason h))
  · exact Or.inr (Or.inr (hw reason h))

/-- A call is refused before the provider hears of it, or it is the provider that answers. -/
theorem attempt_cases {verb : ServiceVerb} {call : ServiceCall}
    {act : Provider → Outcome × Provider} {s s' : Service} {answer : Outcome}
    (h : s.attempt verb call act = (answer, s')) :
    s'.refusals = (s.refusals.next verb).2 ∧ s'.drawn = s.drawn ∧
      s'.attempts = s.attempts ++ [⟨call, failureOf answer⟩] ∧
      ((∃ reason, s.refusals.Lists reason ∧ answer = .error (.remote reason) ∧
          s'.provider = s.provider) ∨
        act s.provider = (answer, s'.provider)) := by
  rcases hn : s.refusals.next verb with ⟨_ | reason, refusals⟩
  · rcases ha : act s.provider with ⟨answer', provider⟩
    simp only [attempt, hn, ha] at h
    cases h
    exact ⟨rfl, rfl, rfl, Or.inr rfl⟩
  · have hlisted : s.refusals.Lists reason := Refusals.lists_of_next (by rw [hn])
    simp only [attempt, hn] at h
    cases h
    exact ⟨rfl, rfl, rfl, Or.inl ⟨reason, hlisted, rfl, rfl⟩⟩

/-- A callback under a fresh identifier is refused for a reason in store, or becomes active. -/
theorem file_cases {s : Service} {f : Filing} (fresh : f.id ∉ s.provider.activeIds)
    {answer : Outcome} {s' : Service} (h : s.file f = (answer, s')) :
    s.Spends s' ∧
      ((∃ e, answer = .error e ∧ s.Refuses e ∧ s'.provider.active = s.provider.active) ∨
        (answer = .ok () ∧ s'.provider.active = s.provider.active ++ [f])) := by
  obtain ⟨hrest, -, -, ⟨reason, hlisted, rfl, hsame⟩ | hact⟩ := attempt_cases h
  · refine ⟨spends_of_parts hrest ?_ ?_, Or.inl ⟨_, rfl, ⟨reason, rfl, Or.inl hlisted⟩, ?_⟩⟩
    · rw [hsame]
      exact fun skip _ h => ⟨skip, h⟩
    · rw [hsame]
      exact fun _ h => h
    · rw [hsame]
  · obtain ⟨reason, hdue, hfile⟩ | ⟨-, hactive, -⟩ | ⟨-, -, hfile⟩ := s.provider.file_spec f
    · obtain ⟨rfl, hnow⟩ := Prod.mk.inj (hact.symm.trans hfile)
      refine ⟨spends_of_parts hrest ?_ ?_,
        Or.inl ⟨_, rfl, ⟨reason, rfl, Or.inr (Or.inl ⟨0, hdue⟩)⟩, ?_⟩⟩
      · rw [hnow]
        exact nofun
      · rw [hnow]
        exact fun _ h => h
      · rw [hnow]
    · exact absurd hactive fresh
    · obtain ⟨rfl, hnow⟩ := Prod.mk.inj (hact.symm.trans hfile)
      refine ⟨spends_of_parts hrest ?_ ?_, Or.inr ⟨rfl, ?_⟩⟩
      · rw [hnow]
        exact fun skip _ h => ⟨skip + 1, Provider.countdown_eq_some h⟩
      · rw [hnow]
        exact fun _ h => h
      · rw [hnow]

/-- The withdrawal of an active callback is refused for a reason in store, or takes it away. -/
theorem withdraw_cases {s : Service} {id : CallbackId} (active : id ∈ s.provider.activeIds)
    {answer : Outcome} {s' : Service} (h : s.withdraw id = (answer, s')) :
    s.Spends s' ∧ s'.drawn = s.drawn ∧
      ((∃ e, answer = .error e ∧ s.Refuses e ∧ s'.provider.active = s.provider.active) ∨
        (answer = .ok () ∧
          s'.provider.active = s.provider.active.filter (fun f => !(f.id == id)))) := by
  obtain ⟨hrest, hdrawn, -, ⟨reason, hlisted, rfl, hsame⟩ | hact⟩ := attempt_cases h
  · refine ⟨spends_of_parts hrest ?_ ?_, hdrawn,
      Or.inl ⟨_, rfl, ⟨reason, rfl, Or.inl hlisted⟩, ?_⟩⟩
    · rw [hsame]
      exact fun skip _ h => ⟨skip, h⟩
    · rw [hsame]
      exact fun _ h => h
    · rw [hsame]
  · obtain ⟨reason, harmed, hwithdraw⟩ | ⟨-, hid, -⟩ | ⟨-, f, -, -, hwithdraw⟩ :=
      s.provider.withdraw_spec id
    · obtain ⟨rfl, hnow⟩ := Prod.mk.inj (hact.symm.trans hwithdraw)
      refine ⟨spends_of_parts hrest ?_ ?_, hdrawn,
        Or.inl ⟨_, rfl, ⟨reason, rfl, Or.inr (Or.inr harmed)⟩, ?_⟩⟩
      · rw [hnow]
        exact fun skip _ h => ⟨skip, h⟩
      · rw [hnow]
        exact nofun
      · rw [hnow]
    · exact absurd active hid
    · obtain ⟨rfl, hnow⟩ := Prod.mk.inj (hact.symm.trans hwithdraw)
      refine ⟨spends_of_parts hrest ?_ ?_, hdrawn, Or.inr ⟨rfl, ?_⟩⟩
      · rw [hnow]
        exact fun skip _ h => ⟨skip, h⟩
      · rw [hnow]
        exact fun _ h => h
      · rw [hnow]

theorem active_of_withdraw {s : Service} {id id' : CallbackId} (active : id ∈ s.provider.activeIds)
    (active' : id' ∈ s.provider.activeIds) (hne : id' ≠ id) :
    id' ∈ (s.withdraw id).2.provider.activeIds := by
  obtain ⟨-, -, ⟨-, -, -, hsame⟩ | ⟨-, hless⟩⟩ := withdraw_cases active (Prod.eta _).symm
  · rw [Provider.activeIds, hsame]
    exact active'
  · obtain ⟨f, hf, rfl⟩ := List.mem_map.mp active'
    refine List.mem_map.mpr ⟨f, ?_, rfl⟩
    rw [hless]
    exact List.mem_filter.mpr ⟨hf, by simpa using hne⟩

theorem withdrawAll_failure {s : Service} {ids : List CallbackId} (hd : ids.Nodup)
    (active : ∀ id, id ∈ ids → id ∈ s.provider.activeIds) {e : Failure}
    (he : (s.withdrawAll ids).1 = .error e) : s.Refuses e := by
  let P := fun (rest : List CallbackId) (s' : Service) =>
    s.Spends s' ∧ rest.Nodup ∧ ∀ id, id ∈ rest → id ∈ s'.provider.activeIds
  have next : ∀ id rest s', P (id :: rest) s' → P rest (s'.withdraw id).2 := by
    rintro id rest s' ⟨hspends, hrest, hactive⟩
    obtain ⟨hid, hrest⟩ := List.nodup_cons.mp hrest
    have hfirst := hactive id List.mem_cons_self
    obtain ⟨hnow, -⟩ := withdraw_cases hfirst (Prod.eta _).symm
    refine ⟨hspends.trans hnow, hrest, ?_⟩
    intro id' hid'
    have hne : id' ≠ id := fun h => hid (h ▸ hid')
    exact active_of_withdraw hfirst (hactive id' (List.mem_cons_of_mem _ hid')) hne
  obtain ⟨id, rest, s', ⟨hspends, -, hactive⟩, he⟩ :=
    attemptEach_failure (P := P) next ⟨Spends.refl s, hd, active⟩ he
  obtain ⟨-, -, ⟨e', hfail, hrefuses, -⟩ | ⟨hok, -⟩⟩ :=
    withdraw_cases (hactive id List.mem_cons_self) (Prod.eta _).symm
  · rw [hfail] at he
    cases he
    exact hrefuses.of_spends hspends
  · rw [hok] at he
    cases he

end Service

namespace Tracker
variable {s s' : Service}

theorem file_eq (kind : CallbackKind) (request : Request) (s : Service) :
    file kind request s =
      ((s.draw.2.file ⟨.serial s.drawn, kind, request⟩).1.map fun _ => .serial s.drawn,
        (s.draw.2.file ⟨.serial s.drawn, kind, request⟩).2) := rfl

/-- A request is refused for a reason in store, or filed under the identifier drawn for it. The
identifier is used up either way. -/
theorem file_cases (sound : s.Sound) (kind : CallbackKind) (request : Request)
    {answer : Except Failure CallbackId} (h : file kind request s = (answer, s')) :
    s.Spends s' ∧ s'.drawn = s.drawn + 1 ∧
      ((∃ e, answer = .error e ∧ s.Refuses e ∧ s'.provider.active = s.provider.active) ∨
        (answer = .ok (.serial s.drawn) ∧
          s'.provider.active = s.provider.active ++ [⟨.serial s.drawn, kind, request⟩])) := by
  have fresh : .serial s.drawn ∉ s.draw.2.provider.activeIds := sound.fresh (Nat.le_refl _)
  rcases hf : s.draw.2.file ⟨.serial s.drawn, kind, request⟩ with ⟨outcome, service⟩
  obtain ⟨-, hdrawn, -⟩ := Service.attempt_cases hf
  obtain ⟨hspends, hcases⟩ := Service.file_cases fresh hf
  rw [file_eq, hf] at h
  cases h
  refine ⟨hspends, hdrawn, ?_⟩
  rcases hcases with ⟨e, rfl, hrefuses, hactive⟩ | ⟨rfl, hactive⟩
  · exact Or.inl ⟨e, rfl, hrefuses, hactive⟩
  · exact Or.inr ⟨rfl, hactive⟩

end Tracker

end Rangelink
