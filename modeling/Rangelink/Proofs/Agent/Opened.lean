import Mathlib.Data.List.Nodup
import Rangelink.Proofs.Agent.Sessions

/-! # Sessions just opened

An agent that opens sessions on an adapter without any registers them in the order
of their places. Each of them then stands at the beginning of its script.
-/
namespace Rangelink

/-- The adapter reports what comes of commands, and nothing is refused. -/
def Agent.idle (reports : Nat) (tracker : Tracker) (service : Service) : Agent where
  station := { context, adapter := .reporting reports }
  tracker
  service

/-- The sessions of the first places, all of them requested. -/
def Registry.requested (m : Nat) : Registry Nat Unit where
  sessions := .ofList
    ((List.range m).map fun place => (.nth place, { client := place, executor := () }))

/-- An agent with sessions in the first places, of which the adapter has not reported any yet. -/
def Agent.opened (s : Script) (m : Nat) (a : Agent) : Agent :=
  { a with
    station.registry := .requested m
    station.adapter.nextHandle := .ofNat (m + 1)
    station.adapter.calls := (List.range m).map fun place => .openSession (sessionParams place)
    station.adapter.outbox := some ((List.range m).map fun place => ⟨.nth place, .opened⟩)
    handlers := (List.range m).map fun place => s.handler place 0 }

section Openings
variable {s : Script} {m : Nat} {tracker : Tracker} {service : Service}

theorem requested_succ (m : Nat) :
    Registry.requested (m + 1) =
      { Registry.requested m with
        sessions := (Registry.requested m).sessions.insert (.nth m)
          { client := m, executor := () } } := by
  rw [Registry.requested, List.range_succ, List.map_append, SortedMap.ofList, List.foldl_append]
  rfl

theorem get?_requested {h : Handle} {e : SessionEntry Nat Unit} (hm : m ≤ 2 ^ 31) :
    (Registry.requested m).sessions.get? h = some e ↔
      ∃ place, place < m ∧ h = .nth place ∧ e = { client := place, executor := () } := by
  induction m with
  | zero => simp [Registry.requested, SortedMap.ofList, SortedMap.get?_empty]
  | succ m ih =>
    rw [requested_succ, SortedMap.get?_insert]
    split
    · rename_i hlast
      subst hlast
      constructor
      · intro he
        exact ⟨m, Nat.lt_succ_self m, rfl, (Option.some.inj he).symm⟩
      · rintro ⟨place, hplace, hhandle, rfl⟩
        rw [(Handle.nth_inj (by omega) (by omega)).mp hhandle]
    · rename_i hother
      rw [ih (by omega)]
      constructor
      · rintro ⟨place, hplace, hentry⟩
        exact ⟨place, Nat.lt_succ_of_lt hplace, hentry⟩
      · rintro ⟨place, hplace, hhandle, he⟩
        have hne : place ≠ m := by
          rintro rfl
          exact hother hhandle.symm
        exact ⟨place, by omega, hhandle, he⟩

theorem isRegistered_requested (hm : m < 2 ^ 31) :
    (Registry.requested m).isRegistered (.nth m) = false := by
  rw [Registry.isRegistered, SortedMap.contains]
  cases he : (Registry.requested m).sessions.get? (.nth m) with
  | none => rfl
  | some e =>
    obtain ⟨place, hplace, hhandle, -⟩ := (get?_requested (Nat.le_of_lt hm)).mp he
    have hsame := (Handle.nth_inj hm (by omega)).mp hhandle
    omega

theorem station_openSession (s : Script) (tracker : Tracker) (service : Service) (hm : m < 2 ^ 31) :
    ((Agent.idle s.reports tracker service).opened s m).station.openSession Agent.thread
        (Agent.sessionParams m) () m =
      (.ok none, ((Agent.idle s.reports tracker service).opened s (m + 1)).station) := by
  have hrequest : ((Agent.idle s.reports tracker service).opened s m).station.requestSession
      (Agent.sessionParams m) =
      (.ok (.nth m),
        { ((Agent.idle s.reports tracker service).opened s (m + 1)).station with
          registry := .requested m }) := by
    have hnext : Int32.ofNat (m + 1 + 1) = Int32.ofNat (m + 1) + 1 := Int32.ofNat_add ..
    simp only [Agent.opened, hnext, List.range_succ, List.map_append]
    rfl
  have henter : (Registry.requested m).openSession (.ok (.nth m)) m () =
      (.ok none, .requested (m + 1)) := by
    simp only [Registry.openSession, Registry.enter, isRegistered_requested hm, Bool.false_eq_true,
      if_false, requested_succ]
  have howner : ((Agent.idle s.reports tracker service).opened s m).station.context.owner =
      Agent.thread := rfl
  rw [Station.openSession, ← howner, Context.guarded_owner]
  simp only [hrequest, henter]
  rfl

/-- The next session takes the next place. -/
theorem openSession_opened (hm : m < 2 ^ 31) :
    ((Agent.idle s.reports tracker service).opened s m).openSession s.closeAfter m =
      (.ok (), (Agent.idle s.reports tracker service).opened s (m + 1)) := by
  have hstation := station_openSession s tracker service hm
  have hlength : ((Agent.idle s.reports tracker service).opened s m).handlers.length = m := by
    simp [Agent.opened]
  simp only [Agent.openSession, hlength, hstation, Option.map_none, Agent.submit]
  simp only [Agent.opened, List.range_succ, List.map_append]
  rfl

theorem openSessions_opened (s : Script) (tracker : Tracker) (service : Service) {k : Nat}
    (hm : m + k ≤ 2 ^ 31) :
    Agent.openSessions s.closeAfter (List.range' m k)
        ((Agent.idle s.reports tracker service).opened s m) =
      (.ok (), (Agent.idle s.reports tracker service).opened s (m + k)) := by
  -- on the sessions still to be opened, after any number of others
  induction k generalizing m with
  | zero => rfl
  | succ k ih =>
    rw [List.range'_succ, Agent.openSessions, openSession_opened (by omega)]
    have hrest := ih (m := m + 1) (by omega)
    rw [Nat.add_right_comm] at hrest
    exact hrest

theorem openSessions_idle (s : Script) (tracker : Tracker) (service : Service) {n : Nat}
    (hn : n < 2 ^ 31) :
    Agent.openSessions s.closeAfter (List.range n) (.idle s.reports tracker service) =
      (.ok (), (Agent.idle s.reports tracker service).opened s n) := by
  have hopened := openSessions_opened s tracker service (m := 0) (k := n) (by omega)
  rw [Nat.zero_add, ← List.range_eq_range'] at hopened
  exact hopened

end Openings

section Beginnings
variable {s : Script} {n place : Nat} {tracker : Tracker} {service : Service}

theorem Script.strand_begin (s : Script) (place : Nat) :
    s.strand place 0 0 =
      { coming := [.opened]
        entry := some { client := place, executor := () }
        waiting := []
        heard := []
        handler := some (s.handler place 0)
        ended := false
        calls := [] } := by
  have hordered : ¬ s.Ordered 0 := by
    rintro ⟨-, hle⟩
    omega
  simp [strand, hordered, reported, course, entry, calls]

theorem filter_range (h : place < n) :
    ((List.range n).filter fun i => decide (i = place)) = [place] := by
  rw [List.filter_eq, List.count_eq_one_of_mem List.nodup_range (List.mem_range.mpr h)]
  rfl

theorem Interplay.strand_opened (hn : n < 2 ^ 31) (hplace : place < n) :
    (Interplay.mk ((Agent.idle s.reports tracker service).opened s n) []).strand place =
      s.strand place 0 0 := by
  have hcoming : ((List.range n).map fun i => (⟨.nth i, .opened⟩ : RangingEvent)).filter
      (fun e => decide (e.handle = .nth place)) = [⟨.nth place, .opened⟩] := by
    rw [List.filter_map]
    have hown : (List.range n).filter
        ((fun e : RangingEvent => decide (e.handle = .nth place)) ∘ fun i => ⟨.nth i, .opened⟩) =
          (List.range n).filter fun i => decide (i = place) := by
      refine List.filter_congr ?_
      intro i hi
      have hlt := List.mem_range.mp hi
      exact decide_eq_decide.mpr (Handle.nth_inj (by omega) (by omega))
    rw [hown, filter_range hplace]
    rfl
  have hentry : (Registry.requested n).sessions.get? (.nth place) =
      some { client := place, executor := () } :=
    (get?_requested (Nat.le_of_lt hn)).mpr ⟨place, hplace, rfl, rfl⟩
  have hcalls : ((List.range n).map fun i =>
      AdapterCall.openSession (Agent.sessionParams i)).filterMap (·.command? (.nth place)) = [] := by
    simp [AdapterCall.command?]
  have hhandler : ((List.range n).map fun i => s.handler i 0)[place]? =
      some (s.handler place 0) := by
    simp [hplace]
  rw [s.strand_begin]
  simp only [Interplay.strand, Interplay.events, Interplay.registry, Interplay.waiting,
    Interplay.calls, Agent.opened, Option.getD_some, hcoming, hentry, hcalls, hhandler]
  rfl

theorem Interplay.woven_opened (hn : n < 2 ^ 31) :
    Interplay.Woven s n ⟨(Agent.idle s.reports tracker service).opened s n, []⟩ where
  wired := ⟨rfl, rfl, rfl, rfl⟩
  reports := rfl
  strands place hplace := ⟨0, 0, Nat.le_refl 0, Nat.zero_le _, strand_opened hn hplace⟩
  handlers := by simp [Agent.opened]
  openings := by
    rw [List.filter_eq_self.mpr]
    · rfl
    · intro e he
      obtain ⟨i, -, rfl⟩ := List.mem_map.mp he
      exact decide_eq_true rfl
  addressed e he := by
    obtain ⟨i, hi, rfl⟩ := List.mem_map.mp he
    exact ⟨i, List.mem_range.mp hi, rfl⟩
  hearers d hd := absurd hd List.not_mem_nil
  clients d hd := absurd hd List.not_mem_nil
  commanded h c hc := by
    obtain ⟨i, -, hcall⟩ := List.mem_map.mp hc
    cases hcall
  opened := by
    simp [Interplay.calls, Agent.opened, AdapterCall.params?]
  registered h e he := by
    obtain ⟨place, hplace, hhandle, -⟩ := (get?_requested (Nat.le_of_lt hn)).mp he
    exact ⟨place, hplace, hhandle⟩

end Beginnings

end Rangelink
