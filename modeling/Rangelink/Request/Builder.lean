import Rangelink.Failure
import Rangelink.Request

/-! # Building requests

A builder starts from the default capabilities. Building marks the request as
restricted where it is, and lets a request that a carrier-managed network could
serve exclude such networks, unless a step has taken that choice away.
-/
namespace Rangelink

/-- `deduces` says that building may still add `notVcnManaged` by itself. -/
structure RequestBuilder where
  capabilities : Capabilities
  deduces : Bool
  deriving DecidableEq

namespace RequestBuilder

def new : RequestBuilder where
  capabilities := Capability.defaults.foldl (fun cs c => cs.require c) {}
  deduces := true

inductive Step where
  | require (c : Capability)
  | release (c : Capability)
  | forbid (c : Capability)
  | clear
  | replace (capabilities : Capabilities)
  | addTransport (t : Transport)
  | removeTransport (t : Transport)
  | setUp (kbps : UInt32)
  | setDown (kbps : UInt32)
  | specifyText (text : String)
  | specify (s : Specifier)
  deriving DecidableEq

/-- An empty text names no network, an integer a subscription, and any other text itself. -/
def readSpecifier (text : String) : Option Specifier :=
  if text.isEmpty then none
  else match Text.int32? text with
    | some n => some (.telephony ⟨n⟩)
    | none => some (.text text)

def onCapabilities (f : Capabilities → Capabilities) (b : RequestBuilder) : RequestBuilder :=
  { b with capabilities := f b.capabilities }

/-- A step that wants or releases `notVcnManaged` settles the question. -/
def settle (c : Capability) (b : RequestBuilder) : RequestBuilder :=
  { b with deduces := b.deduces && c != .notVcnManaged }

def require (c : Capability) (b : RequestBuilder) : RequestBuilder :=
  (b.onCapabilities (·.require c)).settle c

def release (c : Capability) (b : RequestBuilder) : RequestBuilder :=
  (b.onCapabilities (·.release c)).settle c

def forbid (c : Capability) (b : RequestBuilder) : RequestBuilder :=
  b.onCapabilities (·.forbid c)

def addTransport (t : Transport) (b : RequestBuilder) : RequestBuilder :=
  b.onCapabilities (·.addTransport t)

/-- A request may not name every network. -/
def specify (s : Specifier) (b : RequestBuilder) : Except Failure RequestBuilder :=
  match s with
  | .matchAll => .error (.invalidSpecifier "match-all specifier is not permitted in a request")
  | s => .ok (b.onCapabilities (·.specify (some s)))

def apply : Step → RequestBuilder → Except Failure RequestBuilder
  | .require c, b => .ok (b.require c)
  | .release c, b => .ok (b.release c)
  | .forbid c, b => .ok (b.forbid c)
  | .clear, _ => .ok { capabilities := {}, deduces := false }
  | .replace cs, b => .ok { b with capabilities := cs }
  | .addTransport t, b => .ok (b.addTransport t)
  | .removeTransport t, b => .ok (b.onCapabilities (·.removeTransport t))
  | .setUp kbps, b => .ok (b.onCapabilities (·.setUp kbps))
  | .setDown kbps, b => .ok (b.onCapabilities (·.setDown kbps))
  | .specifyText text, b => .ok (b.onCapabilities (·.specify (readSpecifier text)))
  | .specify s, b => b.specify s

/-- A refused step leaves the builder as it was. -/
def advance (b : RequestBuilder) (step : Step) : RequestBuilder :=
  match RequestBuilder.apply step b with
  | .ok b' => b'
  | .error _ => b

def build (b : RequestBuilder) : Request :=
  let marked := b.capabilities.markRestricted
  if b.deduces && marked.wanted.all Capability.isVcnSupported then
    { capabilities := marked.require .notVcnManaged }
  else
    { capabilities := marked }

end RequestBuilder

end Rangelink
