import Rangelink.CommandLine.Config

/-! # Command-line arguments

Options are given by their long names, with the value attached after an equals
sign or as the next argument. List options split at commas and may repeat; the
others may be given once. The values of an option are looked at when the next
option is read or the arguments end, and an argument that nothing knows is
reported at once.
-/
namespace Rangelink

inductive OptionName where
  | group
  | subscriptions
  | resubscribe
  | required
  | sessions
  | reports
  | steps
  | seed
  | eventInterval
  deriving DecidableEq, Repr

namespace OptionName

def all : List OptionName :=
  [.group, .subscriptions, .resubscribe, .required, .sessions, .reports, .steps, .seed,
   .eventInterval]

def text : OptionName → String
  | .group => "sub-group"
  | .subscriptions => "sub-ids"
  | .resubscribe => "resubscribe"
  | .required => "required-caps"
  | .sessions => "sessions"
  | .reports => "reports"
  | .steps => "steps"
  | .seed => "seed"
  | .eventInterval => "event-interval-ms"

def ofText? (s : String) : Option OptionName := all.find? fun o => o.text == s

end OptionName

/-- Why the arguments were not accepted; a request for help also ends the reading. -/
inductive UsageError where
  | badValue
  | missingValue
  | surplusValue
  | repeated
  | unknownArgument
  | helpRequested
  deriving DecidableEq, Repr

structure Settings where
  group : Option Uuid := none
  subscriptions : Option (List Int32) := none
  resubscribe : Option (List Int32) := none
  required : Option (List String) := none
  sessions : Option UInt64 := none
  reports : Option UInt64 := none
  steps : Option UInt64 := none
  seed : Option UInt64 := none
  eventInterval : Option UInt64 := none
  deriving DecidableEq

/-- What one argument looks like. -/
inductive Argument where
  | terminator
  | long (name : String) (value : Option String)
  | short (letters : List Char)
  | plain (text : String)
  deriving DecidableEq, Repr

def splitAtEquals : List Char → List Char × Option (List Char)
  | [] => ([], none)
  | '=' :: rest => ([], some rest)
  | c :: rest =>
    let (name, value) := splitAtEquals rest
    (c :: name, value)

def Argument.ofText (s : String) : Argument :=
  match s.toList with
  | ['-', '-'] => .terminator
  | '-' :: '-' :: rest =>
    let (name, value) := splitAtEquals rest
    .long (String.ofList name) (value.map String.ofList)
  | '-' :: c :: rest => .short (c :: rest)
  | _ => .plain s

/-- The pieces between commas; an empty text is one empty piece. -/
def pieces : List Char → List (List Char)
  | [] => [[]]
  | ',' :: rest => [] :: pieces rest
  | c :: rest =>
    match pieces rest with
    | [] => [[c]]
    | piece :: more => (c :: piece) :: more

def listValues (value : String) : List String := (pieces value.toList).map String.ofList

def readEach {α : Type} (read : String → Option α) : List String → Option (List α)
  | [] => some []
  | s :: rest =>
    match read s, readEach read rest with
    | some a, some as => some (a :: as)
    | _, _ => none

namespace Settings

/-- The value of an option that may be given once. -/
def once {α : Type} (read : String → Option α) (value : String) :
    Option α → Except UsageError (Option α)
  | some _ => .error .repeated
  | none =>
    match read value with
    | some a => .ok (some a)
    | none => .error .badValue

/-- The values of a list option, after those given before. -/
def collect {α : Type} (read : String → Option α) (value : String) (before : Option (List α)) :
    Except UsageError (Option (List α)) :=
  match readEach read (listValues value) with
  | some as => .ok (some (before.getD [] ++ as))
  | none => .error .badValue

def give (o : OptionName) (value : String) (s : Settings) : Except UsageError Settings :=
  match o with
  | .group => (once Uuid.ofText? value s.group).map fun v => { s with group := v }
  | .subscriptions =>
    (collect Text.int32? value s.subscriptions).map fun v => { s with subscriptions := v }
  | .resubscribe =>
    (collect Text.int32? value s.resubscribe).map fun v => { s with resubscribe := v }
  | .required => (collect some value s.required).map fun v => { s with required := v }
  | .sessions => (once Text.word? value s.sessions).map fun v => { s with sessions := v }
  | .reports => (once Text.word? value s.reports).map fun v => { s with reports := v }
  | .steps => (once Text.word? value s.steps).map fun v => { s with steps := v }
  | .seed => (once Text.word? value s.seed).map fun v => { s with seed := v }
  | .eventInterval =>
    (once Text.word? value s.eventInterval).map fun v => { s with eventInterval := v }

/-- An option that waits for its value, or for its value to be looked at. -/
abbrev Pending := Option (OptionName × Option String)

def resolve (p : Pending) (s : Settings) : Except UsageError Settings :=
  match p with
  | none => .ok s
  | some (_, none) => .error .missingValue
  | some (o, some value) => s.give o value

def read : List String → Pending → Settings → Except UsageError Settings
  | [], p, s => s.resolve p
  | arg :: rest, p, s =>
    match Argument.ofText arg with
    | .terminator => if rest.isEmpty then s.resolve p else .error .unknownArgument
    | .long "help" value =>
      if value.isSome then .error .surplusValue
      else (s.resolve p).bind fun _ => .error .helpRequested
    | .long name value =>
      match OptionName.ofText? name with
      | none => .error .unknownArgument
      | some o =>
        match s.resolve p, value with
        | .error e, _ => .error e
        | .ok s, none => read rest (some (o, none)) s
        | .ok s, some value =>
          match s.give o value with
          | .error e => .error e
          | .ok s => read rest none s
    | .short letters =>
      if letters.head? = some 'h' then (s.resolve p).bind fun _ => .error .helpRequested
      else .error .unknownArgument
    | .plain text =>
      match p with
      | some (o, none) => read rest (some (o, some text)) s
      | _ => .error .unknownArgument

def config (s : Settings) : Config :=
  let d : Config := {}
  { group := s.group.getD d.group
    subscriptions := s.subscriptions.getD d.subscriptions
    resubscribe := s.resubscribe.getD d.resubscribe
    requiredNames := s.required.getD d.requiredNames
    sessions := s.sessions.getD d.sessions
    reports := s.reports.getD d.reports
    steps := s.steps.getD d.steps
    seed := s.seed
    eventIntervalMs := s.eventInterval.getD d.eventIntervalMs }

end Settings

def Config.ofArguments (args : List String) : Except UsageError Config :=
  (Settings.read args none {}).map Settings.config

end Rangelink
