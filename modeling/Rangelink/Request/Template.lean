import Rangelink.Request.Builder

/-! # Requests that keep candidates up

The requests filed on behalf of a subscription group. All of them start from the
required capabilities and never select a network that is carrier-managed itself.
-/
namespace Rangelink.Request

/-- The required capabilities without the ones a candidate need not have. -/
def base (required : SortedSet Capability) : RequestBuilder :=
  ((((required.toList.foldl (fun b c => b.require c) RequestBuilder.new).release .trusted).release
    .notRestricted).release .notVcnManaged).forbid .notVcnManaged

def background (b : RequestBuilder) : Request := b.build.ofKind .background

/-- Keeps any matching Wi-Fi network up. -/
def wifiBringup (required : SortedSet Capability) : Request :=
  background ((base required).addTransport .wifi)

/-- Keeps the cellular network of a subscription up. -/
def cellBringup (required : SortedSet Capability) (subscription : SubscriptionId) :
    Except Failure Request :=
  (((base required).addTransport .cellular).specify (.telephony subscription)).map background

/-- Follows the best network of any transport. -/
def routeSelection (required : SortedSet Capability) : Request := background (base required)

end Rangelink.Request
