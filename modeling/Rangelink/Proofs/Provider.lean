import Mathlib.Data.List.Basic
import Mathlib.Data.List.Nodup
import Rangelink.Provider

/-! # What a call of the provider can do

A request or a withdrawal is refused for the reason that was armed for it, fails
on its own account, or changes the callbacks by the one it names.
-/
namespace Rangelink.Provider
open scoped List

theorem isActive_eq_true {id : CallbackId} {p : Provider} :
    p.isActive id = true ↔ id ∈ p.activeIds := by
  simp [isActive, activeIds, List.any_eq_true]

theorem filter_perm {active rest : List Filing} {f : Filing} (hp : active.Perm (f :: rest))
    (hd : (active.map (·.id)).Nodup) : (active.filter (fun g => !(g.id == f.id))).Perm rest := by
  have hnot : f.id ∉ rest.map (·.id) :=
    (List.nodup_cons.mp ((hp.map (·.id)).nodup_iff.mp hd)).1
  have hrest : rest.filter (fun g => !(g.id == f.id)) = rest := by
    rw [List.filter_eq_self]
    intro g hg
    have hne : g.id ≠ f.id := fun he => hnot (List.mem_map.mpr ⟨g, hg, he⟩)
    simpa using hne
  have hfilter := hp.filter (fun g => !(g.id == f.id))
  rw [List.filter_cons_of_neg (by simp), hrest] at hfilter
  exact hfilter

/-- An active callback goes with the identifier it is active under. -/
theorem active_perm_cons {p : Provider} {f : Filing} (hd : p.activeIds.Nodup) (hf : f ∈ p.active) :
    p.active ~ f :: p.active.filter (fun g => !(g.id == f.id)) := by
  have hcons := List.perm_cons_erase hf
  exact hcons.trans ((filter_perm hcons hd).symm.cons f)

/-- A refusal that is not due at a request comes one request nearer. -/
def countdown : Option (Nat × String) → Option (Nat × String)
  | some (skip + 1, reason) => some (skip, reason)
  | some (0, _) | none => none

theorem countdown_eq_some {due : Option (Nat × String)} {skip : Nat} {reason : String}
    (h : countdown due = some (skip, reason)) : due = some (skip + 1, reason) := by
  rcases due with _ | ⟨_ | skip', reason'⟩
  · cases h
  · cases h
  · cases h
    rfl

theorem takeDueRefusal_of_not_due {p : Provider} (h : ∀ reason, p.dueRefusal ≠ some (0, reason)) :
    p.takeDueRefusal = (none, { p with dueRefusal := countdown p.dueRefusal }) := by
  unfold takeDueRefusal
  rcases hd : p.dueRefusal with _ | ⟨_ | skip, reason⟩
  · simp [countdown, ← hd]
  · exact absurd hd (h reason)
  · rfl

/-- All that a request can come to. -/
theorem file_spec (f : Filing) (p : Provider) :
    (∃ reason, p.dueRefusal = some (0, reason) ∧
        p.file f = (.error (.remote reason), { p with dueRefusal := none })) ∨
      ((∀ reason, p.dueRefusal ≠ some (0, reason)) ∧ f.id ∈ p.activeIds ∧
        p.file f = (.error (.remote ("callback " ++ f.id.text ++ " already registered")),
          { p with dueRefusal := countdown p.dueRefusal })) ∨
      ((∀ reason, p.dueRefusal ≠ some (0, reason)) ∧ f.id ∉ p.activeIds ∧
        p.file f = (.ok (),
          { p with
            dueRefusal := countdown p.dueRefusal
            active := p.active ++ [f]
            filed := p.filed ++ [f] })) := by
  by_cases hdue : ∃ reason, p.dueRefusal = some (0, reason)
  · obtain ⟨reason, hreason⟩ := hdue
    refine Or.inl ⟨reason, hreason, ?_⟩
    simp only [file, takeDueRefusal, hreason]
  · right
    have hdue : ∀ reason, p.dueRefusal ≠ some (0, reason) := not_exists.mp hdue
    have htake := takeDueRefusal_of_not_due hdue
    by_cases hactive : f.id ∈ p.activeIds
    · left
      refine ⟨hdue, hactive, ?_⟩
      have htaken : p.isActive f.id = true := isActive_eq_true.mpr hactive
      simp only [file, htake]
      exact if_pos htaken
    · right
      refine ⟨hdue, hactive, ?_⟩
      have hfree : ¬ p.isActive f.id = true := mt isActive_eq_true.mp hactive
      simp only [file, htake]
      exact if_neg hfree

/-- All that a withdrawal can come to. -/
theorem withdraw_spec (id : CallbackId) (p : Provider) :
    (∃ reason, p.withdrawalRefusal = some reason ∧
        p.withdraw id = (.error (.remote reason), { p with withdrawalRefusal := none })) ∨
      (p.withdrawalRefusal = none ∧ id ∉ p.activeIds ∧
        p.withdraw id = (.error (.unknownCallback id), p)) ∨
      (p.withdrawalRefusal = none ∧ ∃ f ∈ p.active, f.id = id ∧
        p.withdraw id = (.ok (),
          { p with
            active := p.active.filter (fun g => !(g.id == id))
            withdrawn := p.withdrawn ++ [f] })) := by
  cases hw : p.withdrawalRefusal with
  | some reason =>
    refine Or.inl ⟨reason, rfl, ?_⟩
    simp only [withdraw, hw]
  | none =>
    right
    cases hf : p.active.find? (·.id == id) with
    | none =>
      left
      refine ⟨rfl, ?_, by simp only [withdraw, hw, hf]⟩
      intro hid
      obtain ⟨f, hmem, rfl⟩ := List.mem_map.mp hid
      simpa using List.find?_eq_none.mp hf f hmem
    | some f =>
      right
      have hid : f.id = id := by simpa using List.find?_some hf
      exact ⟨rfl, f, List.mem_of_find?_eq_some hf, hid, by simp only [withdraw, hw, hf]⟩

end Rangelink.Provider
