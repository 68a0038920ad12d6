import Mathlib.Data.List.Nodup
import Rangelink.Proofs.Service

/-! # What a call leaves behind

Every call is entered in the log with its outcome, and the callbacks filed are the
requests in it that were accepted. What is filed is active until it is withdrawn, so
over any sequence of calls the callbacks filed are those that became active and those
that were withdrawn.
-/
namespace Rangelink
open scoped List

/-- The callback of a request that was accepted. -/
def ServiceAttempt.filed? : ServiceAttempt → Option Filing
  | ⟨.file f, none⟩ => some f
  | ⟨.file _, some _⟩ | ⟨.withdraw _, _⟩ => none

namespace Service

/-- The entry for a request that was accepted. -/
def accepted (f : Filing) : ServiceAttempt := ⟨.file f, none⟩

theorem filterMap_accepted (fs : List Filing) :
    (fs.map accepted).filterMap (·.filed?) = fs := by
  rw [List.filterMap_map]
  exact List.filterMap_some

/-- Withdrawals in order, each with the reason for which it failed, if it did. -/
abbrev Withdrawals := List (Filing × Option Failure)

namespace Withdrawals

def attempts (ws : Withdrawals) : List ServiceAttempt := ws.map fun w => ⟨.withdraw w.1.id, w.2⟩

/-- The callbacks whose withdrawal failed. -/
def kept (ws : Withdrawals) : List Filing := (ws.filter (·.2.isSome)).map (·.1)

/-- The identifiers under which a withdrawal was accepted. -/
def gone (ws : Withdrawals) : List CallbackId := (ws.filter (·.2.isNone)).map (·.1.id)

def failure? (ws : Withdrawals) : Option Failure := (ws.filterMap (·.2)).head?

/-- The first failure, if there is one. -/
def outcome (ws : Withdrawals) : Outcome :=
  match ws.failure? with
  | none => .ok ()
  | some e => .error e

theorem outcome_eq_ok {ws : Withdrawals} : ws.outcome = .ok () ↔ ws.failure? = none := by
  unfold outcome
  cases ws.failure? <;> simp

theorem kept_eq_nil {ws : Withdrawals} (h : ws.failure? = none) : ws.kept = [] := by
  rw [failure?, List.head?_eq_none_iff, List.filterMap_eq_nil_iff] at h
  rw [kept, List.map_eq_nil_iff, List.filter_eq_nil_iff]
  intro w hw
  simp [h w hw]

theorem outcome_cons (f : Filing) (answer : Outcome) (ws : Withdrawals) :
    outcome ((f, failureOf answer) :: ws) = firstFailure answer ws.outcome := by
  cases answer with
  | ok _ => simp [outcome, failure?, failureOf, firstFailure]
  | error e => rfl

/-- Under distinct identifiers, a callback is gone just if its own withdrawal was accepted. -/
theorem mem_gone {ws : Withdrawals} (hd : (ws.map (·.1.id)).Nodup) {w : Filing × Option Failure}
    (hw : w ∈ ws) : w.1.id ∈ ws.gone ↔ w.2 = none := by
  rw [gone, List.mem_map]
  constructor
  · rintro ⟨w', hw', hid⟩
    obtain ⟨hmem, hnone⟩ := List.mem_filter.mp hw'
    have hsame : w' = w := List.inj_on_of_nodup_map hd hmem hw hid
    rw [← hsame]
    exact Option.isNone_iff_eq_none.mp hnone
  · intro hnone
    exact ⟨w, List.mem_filter.mpr ⟨hw, Option.isNone_iff_eq_none.mpr hnone⟩, rfl⟩

/-- Of these callbacks, those are left whose withdrawal failed. -/
theorem filter_gone {ws : Withdrawals} {fs : List Filing} (hfs : ws.map (·.1) = fs)
    (hd : (fs.map (·.id)).Nodup) : fs.filter (fun f => decide (f.id ∉ ws.gone)) = ws.kept := by
  subst hfs
  rw [List.map_map] at hd
  rw [kept, List.filter_map]
  refine congrArg _ (List.filter_congr fun w hw => ?_)
  rw [Function.comp_apply, Bool.eq_iff_iff, decide_eq_true_eq, mem_gone hd hw]
  exact Option.isSome_iff_ne_none.symm

end Withdrawals

section Calls
variable {s s' : Service} {id : CallbackId}

/-- All that filing a callback leaves behind, whatever identifiers are active. -/
theorem file_leaves {f : Filing} {answer : Outcome} (h : s.file f = (answer, s')) :
    s'.attempts = s.attempts ++ [⟨.file f, failureOf answer⟩] ∧ s'.drawn = s.drawn ∧
      s'.provider.withdrawn = s.provider.withdrawn ∧
      ((∃ e, answer = .error e ∧ s'.provider.active = s.provider.active ∧
          s'.provider.filed = s.provider.filed) ∨
        (answer = .ok () ∧ f.id ∉ s.provider.activeIds ∧
          s'.provider.active = s.provider.active ++ [f] ∧
          s'.provider.filed = s.provider.filed ++ [f])) := by
  obtain ⟨-, hdrawn, hlog, ⟨_, -, rfl, hsame⟩ | hact⟩ := attempt_cases h
  · rw [hsame]
    exact ⟨hlog, hdrawn, rfl, Or.inl ⟨_, rfl, rfl, rfl⟩⟩
  · obtain ⟨_, -, hfile⟩ | ⟨-, -, hfile⟩ | ⟨-, hnew, hfile⟩ := s.provider.file_spec f
    · obtain ⟨rfl, hnow⟩ := Prod.mk.inj (hact.symm.trans hfile)
      rw [hnow]
      exact ⟨hlog, hdrawn, rfl, Or.inl ⟨_, rfl, rfl, rfl⟩⟩
    · obtain ⟨rfl, hnow⟩ := Prod.mk.inj (hact.symm.trans hfile)
      rw [hnow]
      exact ⟨hlog, hdrawn, rfl, Or.inl ⟨_, rfl, rfl, rfl⟩⟩
    · obtain ⟨rfl, hnow⟩ := Prod.mk.inj (hact.symm.trans hfile)
      rw [hnow]
      exact ⟨hlog, hdrawn, rfl, Or.inr ⟨rfl, hnew, rfl, rfl⟩⟩

/-- All that a withdrawal leaves behind, whatever identifiers are active. -/
theorem withdraw_leaves {answer : Outcome} (h : s.withdraw id = (answer, s')) :
    s'.attempts = s.attempts ++ [⟨.withdraw id, failureOf answer⟩] ∧
      s'.drawn = s.drawn ∧ s'.provider.filed = s.provider.filed ∧
      ((∃ e, answer = .error e ∧ s'.provider.active = s.provider.active ∧
          s'.provider.withdrawn = s.provider.withdrawn) ∨
        ∃ f, f ∈ s.provider.active ∧ f.id = id ∧ answer = .ok () ∧
          s'.provider.active = s.provider.active.filter (fun g => !(g.id == id)) ∧
          s'.provider.withdrawn = s.provider.withdrawn ++ [f]) := by
  obtain ⟨-, hdrawn, hlog, ⟨_, -, rfl, hsame⟩ | hact⟩ := attempt_cases h
  · rw [hsame]
    exact ⟨hlog, hdrawn, rfl, Or.inl ⟨_, rfl, rfl, rfl⟩⟩
  · obtain ⟨_, -, hwithdraw⟩ | ⟨-, -, hwithdraw⟩ | ⟨-, f, hf, hid, hwithdraw⟩ :=
      s.provider.withdraw_spec id
    · obtain ⟨rfl, hnow⟩ := Prod.mk.inj (hact.symm.trans hwithdraw)
      rw [hnow]
      exact ⟨hlog, hdrawn, rfl, Or.inl ⟨_, rfl, rfl, rfl⟩⟩
    · obtain ⟨rfl, hnow⟩ := Prod.mk.inj (hact.symm.trans hwithdraw)
      rw [hnow]
      exact ⟨hlog, hdrawn, rfl, Or.inl ⟨_, rfl, rfl, rfl⟩⟩
    · obtain ⟨rfl, hnow⟩ := Prod.mk.inj (hact.symm.trans hwithdraw)
      rw [hnow]
      exact ⟨hlog, hdrawn, rfl, Or.inr ⟨f, hf, hid, rfl, rfl, rfl⟩⟩

/-- All that a request of a tracker leaves behind, whatever identifiers are active. -/
theorem request_leaves {kind : CallbackKind} {request : Request}
    {answer : Except Failure CallbackId} (h : Tracker.file kind request s = (answer, s')) :
    s'.attempts = s.attempts ++
        [⟨.file ⟨.serial s.drawn, kind, request⟩, failureOf (answer.map fun _ => ())⟩] ∧
      s'.drawn = s.drawn + 1 ∧ s'.provider.withdrawn = s.provider.withdrawn ∧
      ((∃ e, answer = .error e ∧ s'.provider.active = s.provider.active ∧
          s'.provider.filed = s.provider.filed) ∨
        (answer = .ok (.serial s.drawn) ∧ .serial s.drawn ∉ s.provider.activeIds ∧
          s'.provider.active = s.provider.active ++ [⟨.serial s.drawn, kind, request⟩] ∧
          s'.provider.filed = s.provider.filed ++ [⟨.serial s.drawn, kind, request⟩])) := by
  rcases hf : s.draw.2.file ⟨.serial s.drawn, kind, request⟩ with ⟨outcome, service⟩
  obtain ⟨hlog, hdrawn, hwithdrawn, hcases⟩ := file_leaves hf
  rw [Tracker.file_eq, hf] at h
  cases h
  rcases hcases with ⟨e, rfl, hactive, hfiled⟩ | ⟨rfl, hnew, hactive, hfiled⟩
  · exact ⟨hlog, hdrawn, hwithdrawn, Or.inl ⟨e, rfl, hactive, hfiled⟩⟩
  · exact ⟨hlog, hdrawn, hwithdrawn, Or.inr ⟨rfl, hnew, hactive, hfiled⟩⟩

end Calls

/-- The second state comes from the first by requests and withdrawals. -/
inductive Called : Service → Service → Prop where
  | refl (s : Service) : Called s s
  | file {s s' : Service} (kind : CallbackKind) (request : Request) :
    Called s s' → Called s (Tracker.file kind request s').2
  | withdraw {s s' : Service} (id : CallbackId) : Called s s' → Called s (s'.withdraw id).2

/-- What was filed on the way from one state to another became active or was withdrawn, under
identifiers that were not drawn before. -/
structure Accounts (s s' : Service) : Prop where
  books : ∃ filed withdrawn,
    s'.provider.filed = s.provider.filed ++ filed ∧
    s'.provider.withdrawn = s.provider.withdrawn ++ withdrawn ∧
    s.provider.active ++ filed ~ s'.provider.active ++ withdrawn ∧
    ∀ f ∈ filed, ∃ place, s.drawn ≤ place ∧ f.id = .serial place
  distinct : s'.provider.activeIds.Nodup
  drawn : s.drawn ≤ s'.drawn

/-- Whatever was filed on the way from one state to another was withdrawn again. -/
structure Settled (s s' : Service) : Prop where
  books : ∃ filed withdrawn,
    s'.provider.filed = s.provider.filed ++ filed ∧
    s'.provider.withdrawn = s.provider.withdrawn ++ withdrawn ∧
    filed ~ withdrawn ∧ ∀ f ∈ filed, f.id ∉ s'.provider.activeIds
  active : s'.provider.active ~ s.provider.active

theorem Accounts.settled {s s' : Service} (h : Accounts s s') (sound : s.Sound)
    (ha : s'.provider.active ~ s.provider.active) : Settled s s' := by
  obtain ⟨filed, withdrawn, hfiled, hwithdrawn, hperm, hserial⟩ := h.books
  refine ⟨⟨filed, withdrawn, hfiled, hwithdrawn, ?_, ?_⟩, ha⟩
  · exact (List.perm_append_left_iff _).mp (hperm.trans (ha.append_right withdrawn))
  · intro f hf hactive
    obtain ⟨place, hnew, hid⟩ := hserial f hf
    have hold := (ha.map Filing.id).mem_iff.mp hactive
    exact sound.fresh hnew (hid ▸ hold)

namespace Called
variable {s₁ s₂ s₃ : Service}

theorem trans (h₁ : Called s₁ s₂) (h₂ : Called s₂ s₃) : Called s₁ s₃ := by
  induction h₂ with
  | refl => exact h₁
  | file kind request _ ih => exact ih.file kind request
  | withdraw id _ ih => exact ih.withdraw id

/-- The books balance over any calls, refused ones and ones with unknown identifiers included. -/
theorem accounts (h : Called s₁ s₂) (hd : s₁.provider.activeIds.Nodup) : Accounts s₁ s₂ := by
  induction h with
  | refl => exact ⟨⟨[], [], by simp, by simp, .refl _, by simp⟩, hd, Nat.le_refl _⟩
  | @file s' kind request _ ih =>
    obtain ⟨⟨filed, withdrawn, hfiled, hwithdrawn, hperm, hserial⟩, hdistinct, hdrawn⟩ := ih
    obtain ⟨-, hd, hw, ⟨-, -, ha, hf⟩ | ⟨-, hnew, ha, hf⟩⟩ :=
      request_leaves (Prod.eta (Tracker.file kind request s')).symm
    · refine ⟨⟨filed, withdrawn, hf.trans hfiled, hw.trans hwithdrawn, ?_, hserial⟩, ?_, by omega⟩
      · rw [ha]
        exact hperm
      · rw [Provider.activeIds, ha]
        exact hdistinct
    · refine ⟨⟨filed ++ [⟨.serial s'.drawn, kind, request⟩], withdrawn, ?_, hw.trans hwithdrawn,
        ?_, ?_⟩, ?_, by omega⟩
      · rw [hf, hfiled, List.append_assoc]
      · rw [ha, ← List.append_assoc, List.append_assoc s'.provider.active]
        refine (hperm.append_right _).trans ?_
        rw [List.append_assoc]
        exact List.perm_append_comm.append_left _
      · intro f hmem
        rcases List.mem_append.mp hmem with hmem | hmem
        · exact hserial f hmem
        · rw [List.mem_singleton.mp hmem]
          exact ⟨s'.drawn, hdrawn, rfl⟩
      · rw [Provider.activeIds, ha, List.map_append]
        refine List.nodup_append.mpr ⟨hdistinct, by simp, ?_⟩
        rintro id hid _ hlast rfl
        have hid' : id = .serial s'.drawn := by simpa using hlast
        exact hnew (hid' ▸ hid)
  | @withdraw s' id _ ih =>
    obtain ⟨⟨filed, withdrawn, hfiled, hwithdrawn, hperm, hserial⟩, hdistinct, hdrawn⟩ := ih
    obtain ⟨-, hd, hf, ⟨-, -, ha, hw⟩ | ⟨f, hmem, hid, -, ha, hw⟩⟩ :=
      withdraw_leaves (Prod.eta (s'.withdraw id)).symm
    · refine ⟨⟨filed, withdrawn, hf.trans hfiled, hw.trans hwithdrawn, ?_, hserial⟩, ?_, by omega⟩
      · rw [ha]
        exact hperm
      · rw [Provider.activeIds, ha]
        exact hdistinct
    · refine ⟨⟨filed, withdrawn ++ [f], hf.trans hfiled, ?_, ?_, hserial⟩, ?_, by omega⟩
      · rw [hw, hwithdrawn, List.append_assoc]
      · have hout := Provider.active_perm_cons hdistinct hmem
        rw [ha, ← hid]
        calc s₁.provider.active ++ filed
            _ ~ s'.provider.active ++ withdrawn := hperm
            _ ~ f :: s'.provider.active.filter (fun g => !(g.id == f.id)) ++ withdrawn :=
              hout.append_right _
            _ ~ s'.provider.active.filter (fun g => !(g.id == f.id)) ++ (withdrawn ++ [f]) := by
              rw [← List.append_assoc]
              exact (List.perm_append_singleton _ _).symm
      · rw [Provider.activeIds, ha]
        exact hdistinct.sublist (List.filter_sublist.map _)

theorem sound (h : Called s₁ s₂) (sound : s₁.Sound) : s₂.Sound := by
  induction h with
  | refl => exact sound
  | @file s' kind request _ ih =>
    obtain ⟨-, hd, -, ⟨-, -, ha, -⟩ | ⟨-, -, ha, -⟩⟩ :=
      request_leaves (Prod.eta (Tracker.file kind request s')).symm
    · exact ih.of_active ha (by omega)
    · exact ih.of_filed rfl ha hd
  | @withdraw s' id _ ih =>
    obtain ⟨-, hd, -, ⟨-, -, ha, -⟩ | ⟨-, -, -, -, ha, -⟩⟩ :=
      withdraw_leaves (Prod.eta (s'.withdraw id)).symm
    · exact ih.of_active ha (Nat.le_of_eq hd.symm)
    · exact ih.of_withdrawn ha (Nat.le_of_eq hd.symm)

/-- The provider lists the requests that were accepted. -/
theorem filed (h : Called s₁ s₂) :
    ∃ log, s₂.attempts = s₁.attempts ++ log ∧
      s₂.provider.filed = s₁.provider.filed ++ log.filterMap (·.filed?) := by
  induction h with
  | refl => exact ⟨[], by simp⟩
  | @file s' kind request _ ih =>
    obtain ⟨log, hlog, hfiled⟩ := ih
    obtain ⟨hnow, -, -, ⟨e, he, -, hf⟩ | ⟨hok, -, -, hf⟩⟩ :=
      request_leaves (Prod.eta (Tracker.file kind request s')).symm
    · refine ⟨_, hnow.trans (by rw [hlog, List.append_assoc]), ?_⟩
      rw [hf, hfiled, he]
      simp [failureOf, Except.map, ServiceAttempt.filed?]
    · refine ⟨_, hnow.trans (by rw [hlog, List.append_assoc]), ?_⟩
      rw [hf, hfiled, hok]
      simp [failureOf, Except.map, ServiceAttempt.filed?]
  | @withdraw s' id _ ih =>
    obtain ⟨log, hlog, hfiled⟩ := ih
    obtain ⟨hnow, -, hf, -⟩ := withdraw_leaves (Prod.eta (s'.withdraw id)).symm
    refine ⟨_, hnow.trans (by rw [hlog, List.append_assoc]), ?_⟩
    rw [hf, hfiled]
    simp [ServiceAttempt.filed?]

/-- What was filed on the way, if the calls that were made are known. -/
theorem filed_of_attempts (h : Called s₁ s₂) {log : List ServiceAttempt}
    (hlog : s₂.attempts = s₁.attempts ++ log) :
    s₂.provider.filed = s₁.provider.filed ++ log.filterMap (·.filed?) := by
  obtain ⟨log', hlog', hfiled⟩ := h.filed
  rw [List.append_cancel_left (hlog.symm.trans hlog')]
  exact hfiled

end Called

/-- What comes of withdrawing callbacks in order, going on past failures. -/
def withdrawals : List Filing → Service → Withdrawals
  | [], _ => []
  | f :: rest, s =>
    (f, failureOf (s.withdraw f.id).1) :: withdrawals rest (s.withdraw f.id).2

section Withdrawing
variable {s : Service} {others fs : List Filing}

theorem filings_withdrawals (fs : List Filing) (s : Service) :
    (s.withdrawals fs).map (·.1) = fs := by
  induction fs generalizing s with
  | nil => rfl
  | cons f rest ih => exact congrArg (f :: ·) (ih _)

theorem outcome_withdrawAll (fs : List Filing) (s : Service) :
    (s.withdrawAll (fs.map (·.id))).1 = (s.withdrawals fs).outcome := by
  induction fs generalizing s with
  | nil => rfl
  | cons f rest ih =>
    rw [withdrawals, Withdrawals.outcome_cons, ← ih]
    rfl

/-- Every withdrawal is attempted, once and in order. -/
theorem attempts_withdrawAll (fs : List Filing) (s : Service) :
    (s.withdrawAll (fs.map (·.id))).2.attempts = s.attempts ++ (s.withdrawals fs).attempts := by
  induction fs generalizing s with
  | nil => exact (List.append_nil _).symm
  | cons f rest ih =>
    obtain ⟨hlog, -⟩ := withdraw_leaves (Prod.eta (s.withdraw f.id)).symm
    calc (s.withdrawAll ((f :: rest).map (·.id))).2.attempts
        _ = (s.withdraw f.id).2.attempts ++ ((s.withdraw f.id).2.withdrawals rest).attempts := ih _
        _ = s.attempts ++ (s.withdrawals (f :: rest)).attempts := by
          rw [hlog, List.append_assoc]
          rfl

/-- Whatever identifiers are active, those are gone whose withdrawal was accepted. -/
theorem active_withdrawAll (fs : List Filing) (s : Service) :
    (s.withdrawAll (fs.map (·.id))).2.provider.active =
      s.provider.active.filter fun g => decide (g.id ∉ (s.withdrawals fs).gone) := by
  induction fs generalizing s with
  | nil => exact (List.filter_eq_self.mpr fun _ _ => rfl).symm
  | cons f rest ih =>
    refine (ih (s.withdraw f.id).2).trans ?_
    obtain ⟨-, -, -, ⟨e, he, hactive, -⟩ | ⟨-, -, -, hok, hactive, -⟩⟩ :=
      withdraw_leaves (Prod.eta (s.withdraw f.id)).symm
    · rw [hactive, withdrawals, he]
      rfl
    · have hgone : (s.withdrawals (f :: rest)).gone =
          f.id :: ((s.withdraw f.id).2.withdrawals rest).gone := by
        rw [withdrawals, hok]
        rfl
      rw [hactive, hgone, List.filter_filter]
      refine List.filter_congr fun g _ => ?_
      rw [Bool.eq_iff_iff]
      simp [and_comm]

/-- Distinct callbacks that are active fail to be withdrawn only by a refusal in store. -/
theorem refuses_of_withdrawals (hd : (fs.map (·.id)).Nodup)
    (active : ∀ f ∈ fs, f.id ∈ s.provider.activeIds) :
    ∀ w ∈ s.withdrawals fs, ∀ e, w.2 = some e → s.Refuses e := by
  induction fs generalizing s with
  | nil => simp [withdrawals]
  | cons f rest ih =>
    obtain ⟨hf, hrest⟩ := List.nodup_cons.mp hd
    obtain ⟨hfirst, hothers⟩ := List.forall_mem_cons.mp active
    obtain ⟨hspends, -, hcase⟩ := withdraw_cases hfirst (Prod.eta (s.withdraw f.id)).symm
    have hlater : ∀ g ∈ rest, g.id ∈ (s.withdraw f.id).2.provider.activeIds := by
      intro g hg
      refine active_of_withdraw hfirst (hothers g hg) ?_
      intro he
      exact hf (List.mem_map.mpr ⟨g, hg, he⟩)
    rw [withdrawals, List.forall_mem_cons]
    constructor
    · intro e he
      rcases hcase with ⟨e', herror, hrefuses, -⟩ | ⟨hok, -⟩
      · rw [herror] at he
        cases he
        exact hrefuses
      · rw [hok] at he
        cases he
    · intro w hw e he
      exact (ih hrest hlater w hw e he).of_spends hspends

/-- Of the callbacks of one holder, the withdrawal of all leaves those whose withdrawal failed. -/
theorem active_withdrawAll_perm (hd : s.provider.activeIds.Nodup)
    (ha : s.provider.active ~ others ++ fs) :
    (s.withdrawAll (fs.map (·.id))).2.provider.active ~ others ++ (s.withdrawals fs).kept := by
  have hids := (ha.map Filing.id).nodup_iff.mp hd
  rw [List.map_append] at hids
  obtain ⟨-, hfs, hapart⟩ := List.nodup_append.mp hids
  have hothers : others.filter (fun f => decide (f.id ∉ (s.withdrawals fs).gone)) = others := by
    rw [List.filter_eq_self]
    intro g hg
    rw [decide_eq_true_eq]
    intro hgone
    obtain ⟨w, hw, hid⟩ := List.mem_map.mp hgone
    have hmem : w.1 ∈ fs := by
      rw [← filings_withdrawals fs s]
      exact List.mem_map_of_mem (List.mem_filter.mp hw).1
    exact hapart _ (List.mem_map_of_mem hg) _ (List.mem_map_of_mem hmem) hid.symm
  have hfilter := ha.filter (fun f => decide (f.id ∉ (s.withdrawals fs).gone))
  rw [List.filter_append, hothers, Withdrawals.filter_gone (filings_withdrawals fs s) hfs] at hfilter
  rw [active_withdrawAll]
  exact hfilter

/-- Withdrawals of active callbacks, each attempted once and in order, leave those of which the
withdrawal was refused. -/
theorem withdrawAll_log (hd : s.provider.activeIds.Nodup) (ha : s.provider.active ~ others ++ fs) :
    ∃ ws : Withdrawals, ws.map (·.1) = fs ∧
      (s.withdrawAll (fs.map (·.id))).2.attempts = s.attempts ++ ws.attempts ∧
      (s.withdrawAll (fs.map (·.id))).2.provider.active ~ others ++ ws.kept ∧
      (s.withdrawAll (fs.map (·.id))).1 = ws.outcome ∧
      ∀ w ∈ ws, ∀ e, w.2 = some e → s.Refuses e := by
  refine ⟨s.withdrawals fs, filings_withdrawals fs s, attempts_withdrawAll fs s,
    active_withdrawAll_perm hd ha, outcome_withdrawAll fs s, refuses_of_withdrawals ?_ ?_⟩
  · have hids := (ha.map Filing.id).nodup_iff.mp hd
    rw [List.map_append] at hids
    exact (List.nodup_append.mp hids).2.1
  · intro f hf
    exact List.mem_map_of_mem (ha.mem_iff.mpr (List.mem_append_right _ hf))

theorem called_withdrawAll (ids : List CallbackId) (s : Service) :
    Called s (s.withdrawAll ids).2 := by
  induction ids generalizing s with
  | nil => exact .refl s
  | cons id rest ih => exact ((Called.refl s).withdraw id).trans (ih (s.withdraw id).2)

theorem filed_withdrawAll (ids : List CallbackId) (s : Service) :
    (s.withdrawAll ids).2.provider.filed = s.provider.filed := by
  induction ids generalizing s with
  | nil => rfl
  | cons id rest ih =>
    obtain ⟨-, -, hfiled, -⟩ := withdraw_leaves (Prod.eta (s.withdraw id)).symm
    exact (ih (s.withdraw id).2).trans hfiled

end Withdrawing

end Service

end Rangelink
