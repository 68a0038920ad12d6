import Mathlib.Algebra.Group.Nat.Defs
import Mathlib.Data.List.Forall2
import Rangelink.Proofs.History
import Rangelink.Ranging.Adapter

/-! # What an adapter makes of its instructions

An adapter is told which handles to give, which opening to refuse, and what a
caller asks of it. Its calls, its events and the handles it grants are read off
the log of what became of each instruction.
-/
namespace Rangelink.Adapter

/-- What an adapter can be told. -/
inductive Instruction where
  | script (handles : List Handle)
  | refuseNextOpen (reason : String)
  | call (c : AdapterCall)
  deriving DecidableEq

/-- Where the handle of a granted opening comes from. -/
inductive Source where
  | script
  | counter
  deriving DecidableEq, Repr

/-- What became of an instruction. -/
inductive Deed where
  | scripted (handles : List Handle)
  | refusalSet (reason : String)
  | refused (params : Params) (failure : Failure)
  | granted (params : Params) (handle : Handle) (source : Source)
  | commanded (handle : Handle) (command : SessionCommand)
  deriving DecidableEq

def Instruction.call? : Instruction → Option AdapterCall
  | .call c => some c
  | .script _ | .refuseNextOpen _ => none

namespace Deed

def instruction : Deed → Instruction
  | .scripted handles => .script handles
  | .refusalSet reason => .refuseNextOpen reason
  | .refused params _ | .granted params _ _ => .call (.openSession params)
  | .commanded handle command => .call (.command handle command)

/-- The refusal that is pending afterwards; an opening leaves none. -/
def refusal? : Deed → Option (Option String)
  | .refusalSet reason => some (some reason)
  | .refused _ _ | .granted _ _ _ => some none
  | .scripted _ | .commanded _ _ => none

def scriptedHandles : Deed → List Handle
  | .scripted handles => handles
  | .refusalSet _ | .refused _ _ | .granted _ _ _ | .commanded _ _ => []

/-- The handle that was granted from this source. -/
def grantedFrom? (source : Source) : Deed → Option Handle
  | .granted _ handle source' => if source' = source then some handle else none
  | .scripted _ | .refusalSet _ | .refused _ _ | .commanded _ _ => none

end Deed

/-- The refusal that the last opening has left pending or that was set since. -/
def pendingRefusal (deeds : List Deed) : Option String :=
  lastWritten Deed.refusal? none deeds

/-- All handles ever scripted, in order. -/
def scriptedIn (deeds : List Deed) : List Handle := deeds.flatMap Deed.scriptedHandles

def grantedIn (deeds : List Deed) (source : Source) : List Handle :=
  deeds.filterMap (Deed.grantedFrom? source)

/-- An opening is refused for the reason that is pending. It is granted if there is none, by a number
only if no scripted handle is left. -/
def Deed.IsDue (before : List Deed) : Deed → Prop
  | .refused _ failure => ∃ reason, pendingRefusal before = some reason ∧ failure = .remote reason
  | .granted _ _ source => pendingRefusal before = none ∧
      (source = .counter → grantedIn before .script = scriptedIn before)
  | .scripted _ | .refusalSet _ | .commanded _ _ => True

/-- The events that a deed is reported by. -/
inductive Echoes (reportsPerStart : Nat) : Deed → List RangingEvent → Prop
  | scripted (handles : List Handle) : Echoes reportsPerStart (.scripted handles) []
  | refusalSet (reason : String) : Echoes reportsPerStart (.refusalSet reason) []
  | refused (params : Params) (failure : Failure) : Echoes reportsPerStart (.refused params failure) []
  | opened (params : Params) (h : Handle) (source : Source) :
      Echoes reportsPerStart (.granted params h source) [⟨h, .opened⟩]
  | started (params : Params) (h : Handle) (reports : List Report)
      (hreports : reports.length = reportsPerStart) :
      Echoes reportsPerStart (.commanded h (.start params))
        (⟨h, .started params⟩ :: reports.map fun report => ⟨h, .result report⟩)
  | reconfigured (params : Params) (h : Handle) :
      Echoes reportsPerStart (.commanded h (.reconfigure params)) [⟨h, .reconfigured params⟩]
  | stopped (h : Handle) : Echoes reportsPerStart (.commanded h .stop) [⟨h, .stopped⟩]
  | closed (h : Handle) :
      Echoes reportsPerStart (.commanded h .close) [⟨h, .closed ChangeReason.localApi.code .empty⟩]

section Running

def performOpening (params : Params) (a : Adapter) : Deed × Adapter :=
  match a.openSession params with
  | (.error failure, a') => (.refused params failure, a')
  | (.ok handle, a') =>
    (.granted params handle (if a.scripted.isEmpty then .counter else .script), a')

/-- What becomes of an instruction, and the adapter afterwards. -/
def perform : Instruction → Adapter → Deed × Adapter
  | .script handles, a => (.scripted handles, a.script handles)
  | .refuseNextOpen reason, a => (.refusalSet reason, a.refuseNextOpen reason)
  | .call (.openSession params), a => a.performOpening params
  | .call (.command handle c), a => (.commanded handle c, a.command handle c)

/-- What becomes of each of the instructions, in order. -/
def deedsOf : List Instruction → Adapter → List Deed
  | [], _ => []
  | i :: rest, a => (perform i a).1 :: deedsOf rest (perform i a).2

def performAll (instructions : List Instruction) (a : Adapter) : Adapter :=
  instructions.foldl (fun a i => (perform i a).2) a

variable {instructions : List Instruction} {i : Instruction} {a : Adapter}

theorem deedsOf_concat (instructions : List Instruction) (i : Instruction) (a : Adapter) :
    deedsOf (instructions ++ [i]) a =
      deedsOf instructions a ++ [(perform i (performAll instructions a)).1] := by
  induction instructions generalizing a with
  | nil => rfl
  | cons j rest ih => exact congrArg (List.cons (perform j a).1) (ih (perform j a).2)

theorem performAll_concat (instructions : List Instruction) (i : Instruction) (a : Adapter) :
    performAll (instructions ++ [i]) a = (perform i (performAll instructions a)).2 :=
  List.foldl_concat _ _ _ _

end Running

section Steps
variable {i : Instruction} {a a' : Adapter} {d : Deed} {deeds : List Deed} {r : Nat}

theorem echoes_response (r : Nat) (h : Handle) (c : SessionCommand) :
    Echoes r (.commanded h c) (response r h c) := by
  cases c with
  | start params =>
    have hreports : ((List.range r).map (reportOf h)).length = r := by simp
    simpa [response, Function.comp_def] using
      Echoes.started params h ((List.range r).map (reportOf h)) hreports
  | reconfigure params => exact .reconfigured params h
  | stop => exact .stopped h
  | close => exact .closed h

/-- An opening takes the pending refusal, else the first scripted handle, else the next number. -/
theorem openSession_cases (params : Params) (a : Adapter) :
    (∃ reason, a.openRefusal = some reason ∧
        a.openSession params =
          (.error (.remote reason), { a.record (.openSession params) with openRefusal := none })) ∨
      a.openRefusal = none ∧
        ((∃ h rest, a.scripted = h :: rest ∧
            a.openSession params = (.ok h,
              ({ a.record (.openSession params) with scripted := rest } : Adapter).push
                [⟨h, .opened⟩])) ∨
          a.scripted = [] ∧
            a.openSession params = (.ok ⟨a.nextHandle⟩,
              ({ a.record (.openSession params) with nextHandle := a.nextHandle + 1 } : Adapter).push
                [⟨⟨a.nextHandle⟩, .opened⟩])) := by
  cases hr : a.openRefusal with
  | some reason => simp [openSession, record, hr]
  | none =>
    cases hs : a.scripted with
    | nil => simp [openSession, record, takeHandle, hr, hs]
    | cons h rest => simp [openSession, record, takeHandle, hr, hs]

/-- The state in which a deed is done. -/
def Deed.Fits (a : Adapter) : Deed → Prop
  | .refused _ failure => ∃ reason, a.openRefusal = some reason ∧ failure = .remote reason
  | .granted _ h source => a.openRefusal = none ∧
      (source = .counter → a.scripted = [] ∧ h = ⟨a.nextHandle⟩)
  | .scripted _ | .refusalSet _ | .commanded _ _ => True

/-- All that a deed does to an adapter. -/
structure Does (a : Adapter) (d : Deed) (a' : Adapter) : Prop where
  fits : d.Fits a
  calls : a'.calls = a.calls ++ d.instruction.call?.toList
  reports : a'.reportsPerStart = a.reportsPerStart
  outbox : ∃ part, Echoes a.reportsPerStart d part ∧ a'.outbox = a.outbox.map (· ++ part)
  refusal : a'.openRefusal = d.refusal?.getD a.openRefusal
  script : (d.grantedFrom? .script).toList ++ a'.scripted = a.scripted ++ d.scriptedHandles
  counter : a'.nextHandle = a.nextHandle + Int32.ofNat (d.grantedFrom? .counter).toList.length

theorem does_performOpening (params : Params) (a : Adapter) :
    Does a (a.performOpening params).1 (a.performOpening params).2 := by
  unfold performOpening
  rcases openSession_cases params a with ⟨reason, hr, ho⟩ | ⟨hr, ⟨h, rest, hs, ho⟩ | ⟨hs, ho⟩⟩
  · simp only [ho]
    exact
      { fits := ⟨reason, hr, rfl⟩
        calls := rfl
        reports := rfl
        outbox := ⟨[], .refused _ _, by simp [record]⟩
        refusal := rfl
        script := by simp [Deed.grantedFrom?, Deed.scriptedHandles, record]
        counter := by simp [Deed.grantedFrom?, record] }
  · simp only [ho, hs, List.isEmpty_cons, Bool.false_eq_true, if_false]
    exact
      { fits := ⟨hr, nofun⟩
        calls := rfl
        reports := rfl
        outbox := ⟨[⟨h, .opened⟩], .opened _ _ _, rfl⟩
        refusal := hr
        script := by simp [Deed.grantedFrom?, Deed.scriptedHandles, push, hs]
        counter := by simp [Deed.grantedFrom?, push, record] }
  · simp only [ho, hs, List.isEmpty_nil, if_true]
    exact
      { fits := ⟨hr, fun _ => ⟨hs, rfl⟩⟩
        calls := rfl
        reports := rfl
        outbox := ⟨[⟨⟨a.nextHandle⟩, .opened⟩], .opened _ _ _, rfl⟩
        refusal := hr
        script := by simp [Deed.grantedFrom?, Deed.scriptedHandles, push, record, hs]
        counter := by simp [Deed.grantedFrom?, push] }

theorem does_perform (i : Instruction) (a : Adapter) : Does a (perform i a).1 (perform i a).2 := by
  cases i with
  | script handles =>
    exact
      { fits := trivial
        calls := (List.append_nil _).symm
        reports := rfl
        outbox := ⟨[], .scripted _, by simp [perform, script]⟩
        refusal := rfl
        script := rfl
        counter := by simp [perform, Deed.grantedFrom?, script] }
  | refuseNextOpen reason =>
    exact
      { fits := trivial
        calls := (List.append_nil _).symm
        reports := rfl
        outbox := ⟨[], .refusalSet _, by simp [perform, refuseNextOpen]⟩
        refusal := rfl
        script := (List.append_nil _).symm
        counter := by simp [perform, Deed.grantedFrom?, refuseNextOpen] }
  | call c =>
    cases c with
    | openSession params => exact does_performOpening params a
    | command h c =>
      exact
        { fits := trivial
          calls := rfl
          reports := rfl
          outbox := ⟨response a.reportsPerStart h c, echoes_response _ h c, rfl⟩
          refusal := rfl
          script := (List.append_nil _).symm
          counter := by simp [perform, Deed.grantedFrom?, command, push, record] }

theorem instruction_perform (i : Instruction) (a : Adapter) : (perform i a).1.instruction = i := by
  cases i with
  | script handles => rfl
  | refuseNextOpen reason => rfl
  | call c =>
    cases c with
    | command h c => rfl
    | openSession params =>
      show (a.performOpening params).1.instruction = _
      unfold performOpening
      rcases a.openSession params with ⟨failure | handle, a'⟩ <;> rfl

end Steps

section Logs
variable {a a' : Adapter} {d : Deed} {deeds : List Deed} {r : Nat}

theorem scriptedIn_concat (deeds : List Deed) (d : Deed) :
    scriptedIn (deeds ++ [d]) = scriptedIn deeds ++ d.scriptedHandles := by
  simp [scriptedIn]

theorem grantedIn_concat (deeds : List Deed) (d : Deed) (source : Source) :
    grantedIn (deeds ++ [d]) source = grantedIn deeds source ++ (d.grantedFrom? source).toList := by
  cases h : d.grantedFrom? source <;> simp [grantedIn, h]

theorem pendingRefusal_concat (deeds : List Deed) (d : Deed) :
    pendingRefusal (deeds ++ [d]) = d.refusal?.getD (pendingRefusal deeds) :=
  lastWritten_concat _ _ _ _

/-- An adapter is what the log of its deeds says. -/
structure Agrees (r : Nat) (deeds : List Deed) (a : Adapter) : Prop where
  calls : a.calls = deeds.filterMap fun d => d.instruction.call?
  reports : a.reportsPerStart = r
  outbox : ∃ parts, List.Forall₂ (Echoes r) deeds parts ∧ a.outbox = some parts.flatten
  refusal : a.openRefusal = pendingRefusal deeds
  script : grantedIn deeds .script ++ a.scripted = scriptedIn deeds
  counter : ∃ n, a.nextHandle = Int32.ofNat (n + 1) ∧
    grantedIn deeds .counter = (List.range n).map fun k => ⟨Int32.ofNat (k + 1)⟩

theorem agrees_reporting (r : Nat) : Agrees r [] (reporting r) :=
  ⟨rfl, rfl, ⟨[], .nil, rfl⟩, rfl, rfl, 0, rfl, rfl⟩

theorem Deed.Fits.counted (hd : d.Fits a) {h : Handle} (hh : d.grantedFrom? .counter = some h) :
    h = ⟨a.nextHandle⟩ := by
  cases d with
  | granted params handle source =>
    cases source with
    | script => cases hh
    | counter =>
      cases hh
      exact (hd.2 rfl).2
  | scripted handles => cases hh
  | refusalSet reason => cases hh
  | refused params failure => cases hh
  | commanded handle c => cases hh

theorem Agrees.next (h : Agrees r deeds a) (hd : Does a d a') : Agrees r (deeds ++ [d]) a' := by
  constructor
  case calls =>
    rw [hd.calls, h.calls, List.filterMap_append]
    cases hc : d.instruction.call? <;> simp [hc]
  case reports => rw [hd.reports, h.reports]
  case outbox =>
    obtain ⟨parts, hparts, hout⟩ := h.outbox
    obtain ⟨part, hpart, hout'⟩ := hd.outbox
    rw [h.reports] at hpart
    refine ⟨parts ++ [part], List.rel_append hparts (.cons hpart .nil), ?_⟩
    simp [hout', hout]
  case refusal => rw [hd.refusal, h.refusal, pendingRefusal_concat]
  case script =>
    rw [grantedIn_concat, scriptedIn_concat, List.append_assoc, hd.script, ← List.append_assoc,
      h.script]
  case counter =>
    obtain ⟨n, hnext, hcounted⟩ := h.counter
    rw [hd.counter, grantedIn_concat]
    cases hh : d.grantedFrom? .counter with
    | none => exact ⟨n, by simpa using hnext, by simpa using hcounted⟩
    | some handle =>
      refine ⟨n + 1, ?_, ?_⟩
      · rw [hnext, Int32.ofNat_add (n + 1) 1]
        rfl
      · rw [hcounted, hd.fits.counted hh, hnext, List.range_succ, List.map_append]
        rfl

theorem Agrees.isDue (h : Agrees r deeds a) (hd : d.Fits a) : d.IsDue deeds := by
  cases d with
  | scripted handles => trivial
  | refusalSet reason => trivial
  | commanded handle c => trivial
  | refused params failure =>
    obtain ⟨reason, hr, hfailure⟩ := hd
    exact ⟨reason, h.refusal ▸ hr, hfailure⟩
  | granted params handle source =>
    obtain ⟨hr, hcounter⟩ := hd
    refine ⟨h.refusal ▸ hr, ?_⟩
    intro hsource
    have hscript := h.script
    rwa [(hcounter hsource).1, List.append_nil] at hscript

end Logs

section Runs
variable (r : Nat) (instructions : List Instruction)

theorem agrees_performAll :
    Agrees r (deedsOf instructions (reporting r)) (performAll instructions (reporting r)) := by
  induction instructions using List.reverseRecOn with
  | nil => exact agrees_reporting r
  | append_singleton instructions i ih =>
    rw [deedsOf_concat, performAll_concat]
    exact ih.next (does_perform i _)

theorem isDue_deedsOf :
    ∀ before d later, deedsOf instructions (reporting r) = before ++ d :: later →
      d.IsDue before := by
  induction instructions using List.reverseRecOn with
  | nil => simp [deedsOf]
  | append_singleton instructions i ih =>
    rw [deedsOf_concat, forall_split_concat]
    exact ⟨ih, (agrees_performAll r instructions).isDue (does_perform i _).fits⟩

theorem map_instruction_deedsOf (a : Adapter) :
    (deedsOf instructions a).map Deed.instruction = instructions := by
  induction instructions generalizing a with
  | nil => rfl
  | cons i rest ih => rw [deedsOf, List.map_cons, instruction_perform, ih]

/-- An adapter that reports keeps every call, refused openings included, and reports each deed by its
own events, in order. An opening is refused just if a refusal is pending, for the reason set last,
and uses no handle up. Granted openings take the scripted handles in order and, where none is left,
the numbers from one on. -/
theorem mirrors_instructions
    (hfew : (grantedIn (deedsOf instructions (reporting r)) .counter).length < 2 ^ 31 - 1) :
    let deeds := deedsOf instructions (reporting r)
    let a := performAll instructions (reporting r)
    deeds.map Deed.instruction = instructions ∧
      a.calls = instructions.filterMap Instruction.call? ∧
      (∃ parts, List.Forall₂ (Echoes r) deeds parts ∧ a.outbox = some parts.flatten) ∧
      (∀ before d later, deeds = before ++ d :: later → d.IsDue before) ∧
      grantedIn deeds .script <+: scriptedIn deeds ∧
      ∃ n, (grantedIn deeds .counter).map (fun h => h.number.toInt) =
        (List.range n).map fun k : Nat => (k : Int) + 1 := by
  intro deeds a
  have hagrees : Agrees r deeds a := agrees_performAll r instructions
  have hinstructions := map_instruction_deedsOf instructions (reporting r)
  obtain ⟨n, -, hcounted⟩ := hagrees.counter
  refine ⟨hinstructions, ?_, hagrees.outbox, isDue_deedsOf r instructions, ?_, n, ?_⟩
  · calc a.calls
        _ = deeds.filterMap (fun d => d.instruction.call?) := hagrees.calls
        _ = (deeds.map Deed.instruction).filterMap Instruction.call? := by
          rw [List.filterMap_map]
          rfl
        _ = instructions.filterMap Instruction.call? := by rw [hinstructions]
  · exact ⟨a.scripted, hagrees.script⟩
  · have hn : n < 2 ^ 31 - 1 := by simpa [deeds, hcounted] using hfew
    rw [hcounted, List.map_map]
    apply List.map_congr_left
    intro k hk
    have hlt : k < n := List.mem_range.mp hk
    have hk' : k + 1 < 2 ^ 31 := by omega
    exact Int32.toInt_ofNat_of_lt hk'

/-- A scripted handle waits through a refused opening, whose reason was set twice, and is granted
before the first number. -/
theorem mirrors_instructions_mixed :
    let instructions : List Instruction :=
      [.script [⟨10⟩], .refuseNextOpen "busy", .refuseNextOpen "gone", .call (.openSession .empty),
        .call (.openSession .empty), .call (.openSession .empty),
        .call (.command ⟨10⟩ (.start .empty))]
    let deeds := deedsOf instructions (reporting 2)
    (grantedIn deeds .counter).length < 2 ^ 31 - 1 ∧
      deeds.map Deed.instruction = instructions ∧
      deeds.drop 3 = [.refused .empty (.remote "gone"), .granted .empty ⟨10⟩ .script,
        .granted .empty ⟨1⟩ .counter, .commanded ⟨10⟩ (.start .empty)] ∧
      (∃ parts, List.Forall₂ (Echoes 2) deeds parts ∧
        (performAll instructions (reporting 2)).outbox = some parts.flatten) ∧
      grantedIn deeds .script <+: scriptedIn deeds := by
  intro instructions deeds
  have hfew : (grantedIn deeds .counter).length < 2 ^ 31 - 1 := by decide
  obtain ⟨hinstructions, -, hevents, -, hscript, -⟩ := mirrors_instructions 2 instructions hfew
  exact ⟨hfew, hinstructions, by decide, hevents, hscript⟩

end Runs

end Rangelink.Adapter
