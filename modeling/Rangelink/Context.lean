import Rangelink.Failure

/-! # Sequencing contexts

A component may be changed on one thread only. A call from any other thread is
turned away and changes nothing.
-/
namespace Rangelink

structure ThreadId where
  number : Nat
  deriving DecidableEq, Repr

/-- Names the thread that owns a component. -/
structure Context where
  owner : ThreadId
  deriving DecidableEq, Repr

namespace Context

def isCurrent (c : Context) (caller : ThreadId) : Bool := decide (caller = c.owner)

def ensure (c : Context) (caller : ThreadId) : Except Refusal Unit :=
  if c.isCurrent caller then .ok () else .error .offContext

/-- Acts on a state if the caller owns it, and otherwise leaves it as it is. -/
def guarded {σ α : Type} (c : Context) (caller : ThreadId) (act : σ → Except Failure α × σ)
    (s : σ) : Except Refusal α × σ :=
  if c.isCurrent caller then ((act s).1.mapError .failed, (act s).2) else (.error .offContext, s)

theorem guarded_of_ne {σ α : Type} {c : Context} {caller : ThreadId} (h : caller ≠ c.owner)
    (act : σ → Except Failure α × σ) (s : σ) :
    c.guarded caller act s = (.error .offContext, s) := by
  simp [guarded, isCurrent, h]

theorem guarded_owner {σ α : Type} (c : Context) (act : σ → Except Failure α × σ) (s : σ) :
    c.guarded c.owner act s = ((act s).1.mapError .failed, (act s).2) := by
  simp [guarded, isCurrent]

/-- An act that changes nothing is answered by what the check of the caller says. -/
theorem guarded_idle {σ α : Type} (c : Context) (caller : ThreadId)
    {act : σ → Except Failure α × σ} {s : σ} {a : α} (h : act s = (.ok a, s)) :
    c.guarded caller act s = ((c.ensure caller).map fun _ => a, s) := by
  unfold guarded ensure
  rw [h]
  split <;> rfl

theorem ensure_ne_failed (c : Context) (caller : ThreadId) (e : Failure) :
    c.ensure caller ≠ .error (.failed e) := by
  unfold ensure
  split <;> simp

/-- A failure is that of the act itself, done by the owner. -/
theorem guarded_failed {σ α : Type} {c : Context} {caller : ThreadId}
    {act : σ → Except Failure α × σ} {s : σ} {e : Failure}
    (h : (c.guarded caller act s).1 = .error (.failed e)) : (act s).1 = .error e := by
  by_cases hc : caller = c.owner
  · subst hc
    rw [guarded_owner] at h
    cases ha : (act s).1 with
    | ok a =>
      rw [ha] at h
      cases h
    | error e' =>
      rw [ha] at h
      cases h
      rfl
  · simp [guarded_of_ne hc] at h

/-- Only the check of the caller answers that he is not the owner. -/
theorem guarded_offContext_iff {σ α : Type} {c : Context} {caller : ThreadId}
    {act : σ → Except Failure α × σ} {s : σ} :
    (c.guarded caller act s).1 = .error .offContext ↔ caller ≠ c.owner := by
  constructor
  · rintro h rfl
    rw [guarded_owner] at h
    cases ha : (act s).1 <;> rw [ha] at h <;> cases h
  · intro hc
    rw [guarded_of_ne hc]

end Context

end Rangelink
