import Mathlib.Data.List.Chain
import Mathlib.Data.List.Nodup
import Rangelink.Proofs.History
import Rangelink.Proofs.Provider
import Rangelink.Service

/-! # Callbacks are conserved

A callback that was filed is active until it is withdrawn, so that under each
identifier the accepted calls file and withdraw in turns. A refusal that was
armed takes its one call and no other, however the calls before it end.
-/
namespace Rangelink.Provider
open scoped List

/-- To file or to withdraw a callback, or to have a call to come refused. -/
inductive Call where
  | file (filing : Filing)
  | withdraw (id : CallbackId)
  | refuseRequestAfter (skip : Nat) (reason : String)
  | refuseNextWithdrawal (reason : String)
  deriving DecidableEq

namespace Call

def isRequest : Call → Bool
  | .file _ => true
  | .withdraw _ | .refuseRequestAfter _ _ | .refuseNextWithdrawal _ => false

def isWithdrawal : Call → Bool
  | .withdraw _ => true
  | .file _ | .refuseRequestAfter _ _ | .refuseNextWithdrawal _ => false

/-- Arms a refusal of a request, in place of one that was armed before. -/
def armsRequest : Call → Bool
  | .refuseRequestAfter _ _ => true
  | .file _ | .withdraw _ | .refuseNextWithdrawal _ => false

def armsWithdrawal : Call → Bool
  | .refuseNextWithdrawal _ => true
  | .file _ | .withdraw _ | .refuseRequestAfter _ _ => false

def filing? : Call → Option Filing
  | .file f => some f
  | .withdraw _ | .refuseRequestAfter _ _ | .refuseNextWithdrawal _ => none

/-- What a call is to do with the callback under an identifier. -/
def verb? (id : CallbackId) : Call → Option ServiceVerb
  | .file f => if f.id = id then some .file else none
  | .withdraw id' => if id' = id then some .withdraw else none
  | .refuseRequestAfter _ _ | .refuseNextWithdrawal _ => none

end Call

def perform (call : Call) (p : Provider) : Outcome × Provider :=
  match call with
  | .file f => p.file f
  | .withdraw id => p.withdraw id
  | .refuseRequestAfter skip reason => (.ok (), p.refuseRequestAfter skip reason)
  | .refuseNextWithdrawal reason => (.ok (), p.refuseNextWithdrawal reason)

def after (calls : List Call) (p : Provider) : Provider :=
  calls.foldl (fun p call => (p.perform call).2) p

/-- The calls of a run that are not refused. -/
def accepted : List Call → Provider → List Call
  | [], _ => []
  | call :: rest, p =>
    match p.perform call with
    | (.ok (), p) => call :: accepted rest p
    | (.error _, p) => accepted rest p

/-- What was done with the callback under an identifier in the course of a run. -/
def turns (id : CallbackId) (calls : List Call) (p : Provider) : List ServiceVerb :=
  (accepted calls p).filterMap (Call.verb? id)

/-- The refusal of a request that was armed last is for the request that comes next. -/
def IsDue (reason : String) (calls : List Call) : Prop :=
  ∃ before skip later, calls = before ++ .refuseRequestAfter skip reason :: later ∧
    (∀ c ∈ later, c.armsRequest = false) ∧ later.countP Call.isRequest = skip

/-- The refusal of a withdrawal that was armed last has not been used up. -/
def IsArmed (reason : String) (calls : List Call) : Prop :=
  ∃ before call later, calls = before ++ call :: later ∧ call = .refuseNextWithdrawal reason ∧
    ∀ c ∈ later, c.armsWithdrawal = false ∧ c.isWithdrawal = false

/-- Two providers with the same callbacks, filed, withdrawn and active. -/
structure SameBooks (p p' : Provider) : Prop where
  active : p'.active = p.active
  filed : p'.filed = p.filed
  withdrawn : p'.withdrawn = p.withdrawn

def disarmed (p : Provider) : Provider := { p with dueRefusal := none }

section Steps
variable {p : Provider} {call : Call}

theorem SameBooks.of_refused {e : Failure} (h : (p.perform call).1 = .error e) :
    SameBooks p (p.perform call).2 := by
  cases call with
  | file f =>
    change (p.file f).1 = _ at h
    change SameBooks p (p.file f).2
    obtain ⟨_, -, heq⟩ | ⟨-, -, heq⟩ | ⟨-, -, heq⟩ := file_spec f p
    · rw [heq]
      exact ⟨rfl, rfl, rfl⟩
    · rw [heq]
      exact ⟨rfl, rfl, rfl⟩
    · rw [heq] at h
      cases h
  | withdraw id =>
    change (p.withdraw id).1 = _ at h
    change SameBooks p (p.withdraw id).2
    obtain ⟨_, -, heq⟩ | ⟨-, -, heq⟩ | ⟨-, _, -, -, heq⟩ := withdraw_spec id p
    · rw [heq]
      exact ⟨rfl, rfl, rfl⟩
    · rw [heq]
      exact ⟨rfl, rfl, rfl⟩
    · rw [heq] at h
      cases h
  | refuseRequestAfter skip reason => cases h
  | refuseNextWithdrawal reason => cases h

theorem dueRefusal_of_request (h : call.isRequest = true) (p : Provider) :
    (p.perform call).2.dueRefusal = countdown p.dueRefusal := by
  cases call with
  | file f =>
    change (p.file f).2.dueRefusal = _
    obtain ⟨reason, hdue, heq⟩ | ⟨-, -, heq⟩ | ⟨-, -, heq⟩ := file_spec f p
    · rw [heq, hdue]
      rfl
    · rw [heq]
    · rw [heq]
  | withdraw id => cases h
  | refuseRequestAfter skip reason => cases h
  | refuseNextWithdrawal reason => cases h

theorem dueRefusal_of_other (h : call.isRequest = false) (harms : call.armsRequest = false)
    (p : Provider) : (p.perform call).2.dueRefusal = p.dueRefusal := by
  cases call with
  | file f => cases h
  | withdraw id =>
    change (p.withdraw id).2.dueRefusal = _
    obtain ⟨_, -, heq⟩ | ⟨-, -, heq⟩ | ⟨-, _, -, -, heq⟩ := withdraw_spec id p <;> rw [heq]
  | refuseRequestAfter skip reason => cases harms
  | refuseNextWithdrawal reason => rfl

theorem withdrawalRefusal_of_withdrawal (h : call.isWithdrawal = true) (p : Provider) :
    (p.perform call).2.withdrawalRefusal = none := by
  cases call with
  | file f => cases h
  | withdraw id =>
    change (p.withdraw id).2.withdrawalRefusal = none
    obtain ⟨_, -, heq⟩ | ⟨hnone, -, heq⟩ | ⟨hnone, _, -, -, heq⟩ := withdraw_spec id p
    · rw [heq]
    · rw [heq]
      exact hnone
    · rw [heq]
      exact hnone
  | refuseRequestAfter skip reason => cases h
  | refuseNextWithdrawal reason => cases h

theorem withdrawalRefusal_of_other (h : call.isWithdrawal = false)
    (harms : call.armsWithdrawal = false) (p : Provider) :
    (p.perform call).2.withdrawalRefusal = p.withdrawalRefusal := by
  cases call with
  | file f =>
    change (p.file f).2.withdrawalRefusal = _
    obtain ⟨_, -, heq⟩ | ⟨-, -, heq⟩ | ⟨-, -, heq⟩ := file_spec f p <;> rw [heq]
  | withdraw id => cases h
  | refuseRequestAfter skip reason => rfl
  | refuseNextWithdrawal reason => cases harms

end Steps

section Runs
variable {calls : List Call}

theorem after_concat (calls : List Call) (call : Call) (p : Provider) :
    after (calls ++ [call]) p = ((after calls p).perform call).2 :=
  List.foldl_concat _ _ _ _

theorem accepted_append (calls rest : List Call) (p : Provider) :
    accepted (calls ++ rest) p = accepted calls p ++ accepted rest (after calls p) := by
  induction calls generalizing p with
  | nil => rfl
  | cons call calls ih =>
    have hafter : after (call :: calls) p = after calls (p.perform call).2 := rfl
    rw [hafter, List.cons_append, accepted, accepted]
    split
    · rename_i heq
      rw [ih, heq, List.cons_append]
    · rename_i heq
      rw [ih, heq]

theorem turns_append (id : CallbackId) (calls rest : List Call) (p : Provider) :
    turns id (calls ++ rest) p = turns id calls p ++ turns id rest (after calls p) := by
  rw [turns, accepted_append, List.filterMap_append]
  rfl

/-- What was done with a callback that is active, or with one that is not. -/
structure TakesTurns (active : Prop) (verbs : List ServiceVerb) : Prop where
  chain : verbs.IsChain (· ≠ ·)
  opening : verbs.head? ≠ some .withdraw
  closing : active ↔ verbs.getLast? = some .file

theorem TakesTurns.filed {active : Prop} {verbs : List ServiceVerb} (h : TakesTurns active verbs)
    (hfree : ¬ active) : TakesTurns True (verbs ++ [.file]) := by
  obtain ⟨hchain, hopening, hclosing⟩ := h
  constructor
  · refine List.isChain_append.mpr ⟨hchain, List.isChain_singleton _, ?_⟩
    rintro verb hlast _ ⟨⟩ rfl
    exact hfree (hclosing.mpr hlast)
  · cases verbs with
    | nil => exact nofun
    | cons verb verbs => exact hopening
  · rw [List.getLast?_concat]
    exact iff_of_true trivial rfl

theorem TakesTurns.withdrawn {active : Prop} {verbs : List ServiceVerb}
    (h : TakesTurns active verbs) (hactive : active) :
    TakesTurns False (verbs ++ [.withdraw]) := by
  obtain ⟨hchain, hopening, hclosing⟩ := h
  have hlast : verbs.getLast? = some .file := hclosing.mp hactive
  constructor
  · refine List.isChain_append.mpr ⟨hchain, List.isChain_singleton _, ?_⟩
    rw [hlast]
    rintro _ ⟨⟩ _ ⟨⟩
    exact nofun
  · cases verbs with
    | nil => cases hlast
    | cons verb verbs => exact hopening
  · rw [List.getLast?_concat]
    exact iff_of_false id nofun

/-- No callback gets lost: one that was filed is active or was withdrawn, and under each
identifier one is active that was filed last and not withdrawn since. -/
structure Conserved (calls : List Call) : Prop where
  recorded : (after calls {}).filed = (accepted calls {}).filterMap Call.filing?
  balanced : (after calls {}).filed ~ (after calls {}).active ++ (after calls {}).withdrawn
  distinct : (after calls {}).activeIds.Nodup
  turns : ∀ id, TakesTurns (id ∈ (after calls {}).activeIds) (turns id calls {})

theorem Conserved.of_same_books (h : Conserved calls) {call : Call}
    (same : SameBooks (after calls {}) ((after calls {}).perform call).2)
    (hfiled : (accepted [call] (after calls {})).filterMap Call.filing? = [])
    (hturns : ∀ id, Provider.turns id [call] (after calls {}) = []) :
    Conserved (calls ++ [call]) := by
  obtain ⟨hrecorded, hbalanced, hdistinct, hall⟩ := h
  obtain ⟨hactive, hfiles, hwithdrawn⟩ := same
  constructor
  · rw [after_concat, hfiles, hrecorded, accepted_append, List.filterMap_append, hfiled,
      List.append_nil]
  · rw [after_concat, hactive, hfiles, hwithdrawn]
    exact hbalanced
  · rw [after_concat, activeIds, hactive]
    exact hdistinct
  · intro id
    rw [after_concat, activeIds, hactive, turns_append, hturns, List.append_nil]
    exact hall id

theorem Conserved.of_refused (h : Conserved calls) {call : Call} {e : Failure}
    (herror : ((after calls {}).perform call).1 = .error e) : Conserved (calls ++ [call]) := by
  have hnone : accepted [call] (after calls {}) = [] := by
    rw [accepted]
    split <;> rename_i heq
    · rw [heq] at herror
      cases herror
    · rfl
  refine h.of_same_books (.of_refused herror) (by rw [hnone]; rfl) ?_
  intro id
  rw [Provider.turns, hnone]
  rfl

theorem Conserved.of_filed (h : Conserved calls) {f : Filing} {p : Provider}
    (hfree : f.id ∉ (after calls {}).activeIds) (hfile : (after calls {}).file f = (.ok (), p))
    (hactive : p.active = (after calls {}).active ++ [f])
    (hfiled : p.filed = (after calls {}).filed ++ [f])
    (hwithdrawn : p.withdrawn = (after calls {}).withdrawn) : Conserved (calls ++ [.file f]) := by
  obtain ⟨hrecorded, hbalanced, hdistinct, hall⟩ := h
  have hafter : after (calls ++ [.file f]) {} = p := by
    rw [after_concat]
    exact congrArg Prod.snd hfile
  have haccepted : accepted [.file f] (after calls {}) = [.file f] := by
    simp only [accepted, perform, hfile]
  have hids : p.activeIds = (after calls {}).activeIds ++ [f.id] := by
    rw [activeIds, hactive, List.map_append]
    rfl
  constructor
  · rw [hafter, hfiled, hrecorded, accepted_append, haccepted, List.filterMap_append]
    rfl
  · rw [hafter, hfiled, hactive, hwithdrawn]
    calc (after calls {}).filed ++ [f]
        _ ~ ((after calls {}).active ++ (after calls {}).withdrawn) ++ [f] :=
          hbalanced.append_right [f]
        _ ~ ((after calls {}).active ++ [f]) ++ (after calls {}).withdrawn := by
          rw [List.append_assoc, List.append_assoc]
          exact List.perm_append_comm.append_left _
  · rw [hafter, hids, ← List.concat_eq_append]
    exact List.Nodup.concat hfree hdistinct
  · intro id
    have hturn : Provider.turns id [.file f] (after calls {}) =
        [.file f].filterMap (Call.verb? id) := congrArg (List.filterMap (Call.verb? id)) haccepted
    rw [hafter, hids, turns_append, hturn]
    by_cases hid : f.id = id
    · subst hid
      have hnow := (hall f.id).filed hfree
      simpa [Call.verb?] using hnow
    · simpa [Call.verb?, hid, Ne.symm hid] using hall id

theorem Conserved.of_withdrawn (h : Conserved calls) {f : Filing} {p : Provider}
    (hf : f ∈ (after calls {}).active) (hwithdraw : (after calls {}).withdraw f.id = (.ok (), p))
    (hactive : p.active = (after calls {}).active.filter (fun g => !(g.id == f.id)))
    (hfiled : p.filed = (after calls {}).filed)
    (hwithdrawn : p.withdrawn = (after calls {}).withdrawn ++ [f]) :
    Conserved (calls ++ [.withdraw f.id]) := by
  obtain ⟨hrecorded, hbalanced, hdistinct, hall⟩ := h
  have hafter : after (calls ++ [.withdraw f.id]) {} = p := by
    rw [after_concat]
    exact congrArg Prod.snd hwithdraw
  have haccepted : accepted [.withdraw f.id] (after calls {}) = [.withdraw f.id] := by
    simp only [accepted, perform, hwithdraw]
  have hout : (after calls {}).active ~ f :: p.active := by
    rw [hactive]
    exact active_perm_cons hdistinct hf
  have hids : p.activeIds = (after calls {}).activeIds.filter (fun id => !(id == f.id)) := by
    rw [activeIds, hactive, activeIds, List.filter_map]
    rfl
  constructor
  · rw [hafter, hfiled, hrecorded, accepted_append, haccepted, List.filterMap_append]
    simp [Call.filing?]
  · rw [hafter, hfiled, hwithdrawn]
    calc (after calls {}).filed
        _ ~ (after calls {}).active ++ (after calls {}).withdrawn := hbalanced
        _ ~ f :: p.active ++ (after calls {}).withdrawn := hout.append_right _
        _ ~ p.active ++ ((after calls {}).withdrawn ++ [f]) := by
          rw [← List.append_assoc, List.cons_append]
          exact (List.perm_append_singleton f _).symm
  · rw [hafter, hids]
    exact hdistinct.filter _
  · intro id
    have hturn : Provider.turns id [.withdraw f.id] (after calls {}) =
        [.withdraw f.id].filterMap (Call.verb? id) := congrArg (List.filterMap (Call.verb? id)) haccepted
    rw [hafter, hids, turns_append, hturn]
    by_cases hid : f.id = id
    · subst hid
      have hnow := (hall f.id).withdrawn (List.mem_map_of_mem hf)
      simpa [Call.verb?] using hnow
    · simpa [Call.verb?, hid, Ne.symm hid] using hall id

theorem conserved (calls : List Call) : Conserved calls := by
  induction calls using List.reverseRecOn with
  | nil =>
    refine ⟨rfl, List.Perm.refl _, List.nodup_nil, ?_⟩
    intro id
    exact ⟨List.isChain_nil, nofun, iff_of_false List.not_mem_nil nofun⟩
  | append_singleton calls call ih =>
    cases call with
    | file f =>
      obtain ⟨reason, -, heq⟩ | ⟨-, -, heq⟩ | ⟨-, hfree, heq⟩ := file_spec f (after calls {})
      · exact ih.of_refused (congrArg Prod.fst heq)
      · exact ih.of_refused (congrArg Prod.fst heq)
      · exact ih.of_filed hfree heq rfl rfl rfl
    | withdraw id =>
      obtain ⟨reason, -, heq⟩ | ⟨-, -, heq⟩ | ⟨-, f, hf, rfl, heq⟩ :=
        withdraw_spec id (after calls {})
      · exact ih.of_refused (congrArg Prod.fst heq)
      · exact ih.of_refused (congrArg Prod.fst heq)
      · exact ih.of_withdrawn hf heq rfl rfl rfl
    | refuseRequestAfter skip reason => exact ih.of_same_books ⟨rfl, rfl, rfl⟩ rfl fun _ => rfl
    | refuseNextWithdrawal reason => exact ih.of_same_books ⟨rfl, rfl, rfl⟩ rfl fun _ => rfl

theorem countdown_left (skip count : Nat) (reason : String) :
    countdown (if count ≤ skip then some (skip - count, reason) else none) =
      if count + 1 ≤ skip then some (skip - (count + 1), reason) else none := by
  rcases Nat.lt_trichotomy count skip with hlt | rfl | hgt
  · obtain ⟨left, rfl⟩ := Nat.exists_eq_add_of_le' (Nat.succ_le_of_lt hlt)
    rw [if_pos (by omega), if_pos (by omega), show left + (count + 1) - count = left + 1 by omega,
      Nat.add_sub_cancel]
    rfl
  · rw [if_pos le_rfl, if_neg (by omega), Nat.sub_self]
    rfl
  · rw [if_neg (by omega), if_neg (by omega)]
    rfl

/-- How far an armed refusal has been counted down, whatever the calls since came to. -/
theorem dueRefusal_after {later : List Call} (steady : ∀ c ∈ later, c.armsRequest = false)
    (before : List Call) (skip : Nat) (reason : String) :
    (after (before ++ .refuseRequestAfter skip reason :: later) {}).dueRefusal =
      if later.countP Call.isRequest ≤ skip then
        some (skip - later.countP Call.isRequest, reason)
      else none := by
  induction later using List.reverseRecOn with
  | nil =>
    rw [after_concat]
    rfl
  | append_singleton later call ih =>
    obtain ⟨hlater, hcall⟩ := List.forall_mem_append.mp steady
    have hcall : call.armsRequest = false := hcall call List.mem_cons_self
    rw [← List.cons_append, ← List.append_assoc, after_concat, List.countP_append]
    cases hrequest : call.isRequest with
    | true =>
      rw [dueRefusal_of_request hrequest, ih hlater, List.countP_singleton, if_pos hrequest]
      exact countdown_left skip _ reason
    | false =>
      rw [dueRefusal_of_other hrequest hcall, ih hlater, List.countP_singleton, hrequest]
      rfl

theorem dueRefusal_origin {left : Nat} {reason : String}
    (h : (after calls {}).dueRefusal = some (left, reason)) :
    ∃ before skip later, calls = before ++ .refuseRequestAfter skip reason :: later ∧
      (∀ c ∈ later, c.armsRequest = false) ∧ later.countP Call.isRequest + left = skip := by
  induction calls using List.reverseRecOn generalizing left with
  | nil => cases h
  | append_singleton calls call ih =>
    rw [after_concat] at h
    by_cases harms : call.armsRequest = true
    · cases call with
      | refuseRequestAfter skip reason =>
        cases h
        exact ⟨calls, left, [], rfl, List.forall_mem_nil _, Nat.zero_add _⟩
      | file f => cases harms
      | withdraw id => cases harms
      | refuseNextWithdrawal reason => cases harms
    · have hcall : call.armsRequest = false := eq_false_of_ne_true harms
      have hbefore : (after calls {}).dueRefusal =
          some (left + [call].countP Call.isRequest, reason) := by
        cases hrequest : call.isRequest with
        | true =>
          rw [dueRefusal_of_request hrequest] at h
          rw [List.countP_singleton, if_pos hrequest]
          rcases hd : (after calls {}).dueRefusal with _ | ⟨_ | skip, reason'⟩ <;> rw [hd] at h <;>
            cases h
          rfl
        | false =>
          rw [dueRefusal_of_other hrequest hcall] at h
          rw [List.countP_singleton, hrequest]
          exact h
      obtain ⟨before, skip, later, rfl, hlater, hskip⟩ := ih hbefore
      refine ⟨before, skip, later ++ [call], by simp, ?_, ?_⟩
      · exact List.forall_mem_append.mpr ⟨hlater, List.forall_mem_singleton.mpr hcall⟩
      · rw [List.countP_append]
        omega

theorem isDue_iff {reason : String} :
    IsDue reason calls ↔ (after calls {}).dueRefusal = some (0, reason) := by
  constructor
  · rintro ⟨before, skip, later, rfl, hlater, rfl⟩
    rw [dueRefusal_after hlater, if_pos le_rfl, Nat.sub_self]
  · intro h
    obtain ⟨before, skip, later, hsplit, hlater, hskip⟩ := dueRefusal_origin h
    exact ⟨before, skip, later, hsplit, hlater, hskip⟩

theorem isArmed_iff {reason : String} :
    IsArmed reason calls ↔ (after calls {}).withdrawalRefusal = some reason := by
  induction calls using List.reverseRecOn with
  | nil => exact iff_of_false not_exists_split_nil nofun
  | append_singleton calls call ih =>
    rw [IsArmed, exists_split_concat, ← IsArmed, ih, after_concat]
    cases call with
    | file f =>
      rw [withdrawalRefusal_of_other rfl rfl]
      simp [Call.armsWithdrawal, Call.isWithdrawal]
    | withdraw id =>
      rw [withdrawalRefusal_of_withdrawal rfl]
      simp [Call.isWithdrawal]
    | refuseRequestAfter skip reason' =>
      rw [withdrawalRefusal_of_other rfl rfl]
      simp [Call.armsWithdrawal, Call.isWithdrawal]
    | refuseNextWithdrawal reason' =>
      simp [perform, refuseNextWithdrawal, Call.armsWithdrawal]

/-- What the call after a run comes to. -/
structure Answered (calls : List Call) : Prop where
  filed : ∀ f, ((after calls {}).file f).1 = .ok () ↔
    (∀ reason, ¬ IsDue reason calls) ∧ f.id ∉ (after calls {}).activeIds
  withdrawn : ∀ id, ((after calls {}).withdraw id).1 = .ok () ↔
    (∀ reason, ¬ IsArmed reason calls) ∧ id ∈ (after calls {}).activeIds
  refused : ∀ id reason, IsArmed reason calls →
    ((after calls {}).withdraw id).1 = .error (.remote reason)
  unknown : ∀ id, (∀ reason, ¬ IsArmed reason calls) → id ∉ (after calls {}).activeIds →
    ((after calls {}).withdraw id).1 = .error (.unknownCallback id)
  unchanged : ∀ call e, ((after calls {}).perform call).1 = .error e →
    SameBooks (after calls {}) ((after calls {}).perform call).2

theorem answered (calls : List Call) : Answered calls := by
  constructor
  · intro f
    simp only [isDue_iff]
    obtain ⟨reason, hdue, heq⟩ | ⟨hdue, hactive, heq⟩ | ⟨hdue, hfree, heq⟩ :=
      file_spec f (after calls {})
    · rw [heq]
      exact iff_of_false nofun fun h => h.1 reason hdue
    · rw [heq]
      exact iff_of_false nofun fun h => h.2 hactive
    · rw [heq]
      exact iff_of_true rfl ⟨hdue, hfree⟩
  · intro id
    simp only [isArmed_iff]
    obtain ⟨reason, harmed, heq⟩ | ⟨hnone, hid, heq⟩ | ⟨hnone, f, hf, rfl, heq⟩ :=
      withdraw_spec id (after calls {})
    · rw [heq]
      exact iff_of_false nofun fun h => h.1 reason harmed
    · rw [heq]
      exact iff_of_false nofun fun h => hid h.2
    · rw [heq, hnone]
      exact iff_of_true rfl ⟨fun _ => nofun, List.mem_map_of_mem hf⟩
  · intro id reason harmed
    rw [isArmed_iff] at harmed
    simp only [withdraw, harmed]
  · intro id hnone hid
    simp only [isArmed_iff] at hnone
    obtain ⟨reason, harmed, -⟩ | ⟨-, -, heq⟩ | ⟨-, f, hf, rfl, -⟩ :=
      withdraw_spec id (after calls {})
    · exact absurd harmed (hnone reason)
    · rw [heq]
    · exact absurd (List.mem_map_of_mem hf) hid
  · intro call e
    exact .of_refused

/-- An armed refusal that is not due does not show. -/
theorem perform_disarmed {p : Provider} {call : Call}
    (h : call.isRequest = true → ∀ reason, p.dueRefusal ≠ some (0, reason)) :
    (p.perform call).1 = (p.disarmed.perform call).1 ∧
      SameBooks (p.perform call).2 (p.disarmed.perform call).2 := by
  cases call with
  | file f =>
    change (p.file f).1 = (p.disarmed.file f).1 ∧ SameBooks (p.file f).2 (p.disarmed.file f).2
    have hnone : p.disarmed.takeDueRefusal = (none, p.disarmed) := rfl
    obtain ⟨reason, hdue, -⟩ | ⟨-, hactive, heq⟩ | ⟨-, hfree, heq⟩ := file_spec f p
    · exact absurd hdue (h rfl reason)
    · have htaken : p.disarmed.isActive f.id = true := isActive_eq_true.mpr hactive
      rw [heq, file, hnone]
      simp only [if_pos htaken, true_and]
      exact ⟨rfl, rfl, rfl⟩
    · have hfree : ¬ p.disarmed.isActive f.id = true := mt isActive_eq_true.mp hfree
      rw [heq, file, hnone]
      simp only [if_neg hfree, true_and]
      exact ⟨rfl, rfl, rfl⟩
  | withdraw id =>
    have hsame : p.disarmed.withdraw id = ((p.withdraw id).1, (p.withdraw id).2.disarmed) := by
      simp only [withdraw, disarmed]
      split
      · rfl
      · split <;> rfl
    change (p.withdraw id).1 = (p.disarmed.withdraw id).1 ∧ _
    change _ ∧ SameBooks (p.withdraw id).2 (p.disarmed.withdraw id).2
    rw [hsame]
    exact ⟨rfl, rfl, rfl, rfl⟩
  | refuseRequestAfter skip reason => exact ⟨rfl, rfl, rfl, rfl⟩
  | refuseNextWithdrawal reason => exact ⟨rfl, rfl, rfl, rfl⟩

/-- A refusal that was armed and not replaced takes the one request it is for. Every other call is
answered, and does to the callbacks, what it would be and do without it. -/
def RefusesOnce (calls : List Call) : Prop :=
  ∀ before skip reason later, calls = before ++ .refuseRequestAfter skip reason :: later →
    (∀ c ∈ later, c.armsRequest = false) → ∀ call : Call,
      if call.isRequest = true ∧ later.countP Call.isRequest = skip then
        ((after calls {}).perform call).1 = .error (.remote reason)
      else
        ((after calls {}).perform call).1 = ((after calls {}).disarmed.perform call).1 ∧
          SameBooks ((after calls {}).perform call).2 ((after calls {}).disarmed.perform call).2

theorem refusesOnce (calls : List Call) : RefusesOnce calls := by
  rintro before skip reason later rfl hlater call
  have hdue := dueRefusal_after hlater before skip reason
  split
  · rename_i hnow
    obtain ⟨hrequest, rfl⟩ := hnow
    rw [if_pos le_rfl, Nat.sub_self] at hdue
    cases call with
    | file f => simp only [perform, file, takeDueRefusal, hdue]
    | withdraw id => cases hrequest
    | refuseRequestAfter skip reason => cases hrequest
    | refuseNextWithdrawal reason => cases hrequest
  · rename_i hnow
    apply perform_disarmed
    intro hrequest reason' hzero
    rw [hdue] at hzero
    split at hzero
    · obtain ⟨hleft, -⟩ : skip - later.countP Call.isRequest = 0 ∧ reason = reason' := by
        simpa using hzero
      exact hnow ⟨hrequest, by omega⟩
    · cases hzero

/-- After any calls the callbacks filed are those active and those withdrawn, the next call fails
only on its own account or for a refusal that was armed for it, and that refusal takes no other. -/
theorem callbacks_conserved (calls : List Call) :
    Conserved calls ∧ Answered calls ∧ RefusesOnce calls :=
  ⟨conserved calls, answered calls, refusesOnce calls⟩

-- the request refused as a duplicate is the one the armed refusal lets pass
example (request : Request) :
    ((after [.file ⟨.serial 0, .bringup, request⟩, .refuseRequestAfter 1 "busy",
      .file ⟨.serial 0, .bringup, request⟩] {}).file ⟨.serial 1, .bringup, request⟩).1 =
      .error (.remote "busy") := by
  rfl

end Runs

end Rangelink.Provider
