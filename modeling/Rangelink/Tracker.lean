import Rangelink.Context
import Rangelink.Request.Template
import Rangelink.RouteSelection
import Rangelink.Service
import Rangelink.Subscription

/-! # Underlying network tracker

A tracker keeps the candidates of one subscription group up: it files a Wi-Fi
bring-up, a cellular bring-up for each subscription and one route selection,
whose events it folds into the selected record. After teardown nothing is filed
and late events are dropped.
-/
namespace Rangelink

abbrev Cells := SortedMap SubscriptionId CallbackId

/-- The identifiers under which callbacks are filed. -/
structure Filings where
  wifi : Option CallbackId := none
  cells : Cells := .empty
  route : Option CallbackId := none
  deriving DecidableEq

namespace Filings

def ids (f : Filings) : List CallbackId := f.wifi.toList ++ f.cells.values ++ f.route.toList

def bringups (f : Filings) : Nat := f.wifi.toList.length + f.cells.size

end Filings

/-- `subscriptions` are the ones with a cellular bring-up, and `filings` is absent once the tracker
is torn down. -/
structure Tracker where
  context : Context
  group : Uuid
  required : SortedSet Capability
  subscriptions : SubscriptionIds := .empty
  filings : Option Filings := some {}
  selection : RouteSelection := {}
  deriving DecidableEq

namespace Tracker

/-- Changes the identifiers on record; where there is no record, a new one is begun. -/
def record (change : Filings → Filings) (t : Tracker) : Tracker :=
  { t with filings := some (change (t.filings.getD {})) }

/-- Files a request under an identifier that is drawn for it. -/
def file (kind : CallbackKind) (request : Request) (service : Service) :
    Except Failure CallbackId × Service :=
  let (id, service) := service.draw
  let (outcome, service) := service.file ⟨id, kind, request⟩
  (outcome.map fun _ => id, service)

def enroll (kind : CallbackKind) (request : Request) (change : CallbackId → Filings → Filings) :
    Tracker × Service → Outcome × (Tracker × Service)
  | (t, service) =>
    match file kind request service with
    | (.ok id, service) => (.ok (), (t.record (change id), service))
    | (.error e, service) => (.error e, (t, service))

def recordWifi (id : CallbackId) (f : Filings) : Filings := { f with wifi := some id }

def recordRoute (id : CallbackId) (f : Filings) : Filings := { f with route := some id }

def join (sub : SubscriptionId) (id : CallbackId) (t : Tracker) : Tracker :=
  { t.record (fun f => { f with cells := f.cells.insert sub id }) with
    subscriptions := t.subscriptions.insert sub }

def leave (sub : SubscriptionId) (t : Tracker) : Tracker :=
  { t with
    filings := t.filings.map fun f => { f with cells := f.cells.erase sub }
    subscriptions := t.subscriptions.erase sub }

def cell? (sub : SubscriptionId) (t : Tracker) : Option CallbackId :=
  t.filings.bind (·.cells.get? sub)

def enlist (sub : SubscriptionId) : Tracker × Service → Outcome × (Tracker × Service)
  | (t, service) =>
    match Request.cellBringup t.required sub with
    | .error e => (.error e, (t, service))
    | .ok request =>
      match file .bringup request service with
      | (.ok id, service) => (.ok (), (t.join sub id, service))
      | (.error e, service) => (.error e, (t, service))

/-- Withdraws the bring-up of one subscription; it stays recorded if that is refused. -/
def dismiss (sub : SubscriptionId) : Tracker × Service → Outcome × (Tracker × Service)
  | (t, service) =>
    match t.cell? sub with
    | none => (.ok (), (t.leave sub, service))
    | some id =>
      match service.withdraw id with
      | (.ok (), service) => (.ok (), (t.leave sub, service))
      | (.error e, service) => (.error e, (t, service))

/-- Files everything in order, up to the first request that is refused. -/
def fileAll (members : SubscriptionIds) (s : Tracker × Service) : Outcome × (Tracker × Service) :=
  match enroll .bringup (Request.wifiBringup s.1.required) recordWifi s with
  | (.error e, s) => (.error e, s)
  | (.ok (), s) =>
    match attemptUntilFailure enlist members.toList s with
    | (.error e, s) => (.error e, s)
    | (.ok (), s) =>
      enroll .routeSelection (Request.routeSelection s.1.required) recordRoute s

/-- Withdraws every callback, going on past refusals, and keeps nothing on record. -/
def release : Tracker × Service → Outcome × (Tracker × Service)
  | (t, service) =>
    match t.filings with
    | none => (.ok (), (t, service))
    | some f =>
      let (outcome, service) := service.withdrawAll f.ids
      (outcome, ({ t with filings := none, subscriptions := .empty }, service))

/-- Starts a tracker for a group. If a request is refused, what was filed is withdrawn again. -/
def start (caller : ThreadId) (context : Context) (group : Uuid) (snapshot : Snapshot)
    (required : SortedSet Capability) (service : Service) : Except Refusal Tracker × Service :=
  context.guarded caller
    (fun service =>
      match fileAll (snapshot.members group) ({ context, group, required }, service) with
      | (.ok (), t, service) => (.ok t, service)
      | (.error e, s) => (.error e, (release s).2.2))
    service

/-- Files and withdraws what the recorded subscriptions and the wanted ones differ in. -/
def reconcile (wanted : SubscriptionIds) (s : Tracker × Service) : Outcome × (Tracker × Service) :=
  let left := attemptEach dismiss (s.1.subscriptions.difference wanted).toList s
  let joined := attemptEach enlist (wanted.difference s.1.subscriptions).toList left.2
  (firstFailure left.1 joined.1, joined.2)

/-- Brings the cellular bring-ups in line with a snapshot; the rest is not touched. -/
def update (caller : ThreadId) (snapshot : Snapshot) (t : Tracker) (service : Service) :
    Except Refusal Unit × (Tracker × Service) :=
  t.context.guarded caller
    (fun s =>
      if s.1.filings.isNone then (.ok (), s) else reconcile (snapshot.members s.1.group) s)
    (t, service)

/-- Withdraws every callback, going on past refusals. A second teardown does nothing. -/
def teardown (caller : ThreadId) (t : Tracker) (service : Service) :
    Except Refusal Unit × (Tracker × Service) :=
  t.context.guarded caller release (t, service)

def route (t : Tracker) : Option CallbackId := t.filings.bind (·.route)

/-- Takes in an event for a callback. Only route selection is listened to. -/
def receive (caller : ThreadId) (id : CallbackId) (event : NetworkEvent) (t : Tracker) :
    Except Refusal (Option Notification) × Tracker :=
  t.context.guarded caller
    (fun t =>
      if t.route = some id then
        let (selection, notification) := t.selection.apply event
        (.ok notification, { t with selection })
      else (.ok none, t))
    t

def current (t : Tracker) : Option NetworkRecord := t.selection.current

def bringups (t : Tracker) : Nat :=
  match t.filings with
  | none => 0
  | some f => f.bringups

def isTornDown (t : Tracker) : Bool := t.filings.isNone

end Tracker

end Rangelink
