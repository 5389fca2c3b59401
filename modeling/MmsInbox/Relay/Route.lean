import MmsInbox.Subscription

namespace MmsInbox

/-!
# Routes to the relay

Carrier settings name the relay and, usually, a proxy in front of it. A send goes either directly to
the relay or through that proxy.
-/

/-- An HTTP proxy in front of the relay. -/
structure ProxyAddress where
  host : String
  port : UInt16
  deriving Repr, DecidableEq

namespace ProxyAddress

/-- Host and port as they are reported. -/
def text (proxy : ProxyAddress) : String :=
  s!"{proxy.host}:{proxy.port}"

/-- The proxy as an HTTP address. -/
def url (proxy : ProxyAddress) : String :=
  "http://" ++ proxy.text

end ProxyAddress

/-- The carrier settings of a subscription. -/
structure RelayCredentials where
  relayUrl : String
  proxy : Option ProxyAddress
  deriving Repr, DecidableEq

/-- The connection parameters of a single send. -/
structure Route where
  relayUrl : String
  proxyHost : Option String
  proxyPort : Option UInt16
  direct : Bool
  deriving Repr, DecidableEq

namespace Route

/-- The route that leaves out the proxy. -/
def straight (relayUrl : String) : Route :=
  ⟨relayUrl, none, none, true⟩

/-- The route through a proxy. -/
def through
    (relayUrl : String)
    (proxy : ProxyAddress) :
    Route :=
  ⟨relayUrl, some proxy.host, some proxy.port, false⟩

/-- The proxy that a send on this route uses. -/
def proxy? (route : Route) : Option ProxyAddress :=
  if route.direct then none
  else match route.proxyHost, route.proxyPort with
    | some host, some port => some ⟨host, port⟩
    | _, _ => none

end Route

/-- Why no route to the relay was found. -/
inductive RouteError where
  | missingProxy (subscription : Subscription)
  | invalidRelayUrl (url reason : String)
  | routeSetup (host reason : String)
  deriving Repr, DecidableEq

namespace RouteError

/-- The error as it is reported. -/
def message : RouteError → String
  | .missingProxy subscription =>
      "No proxy configured for subscription " ++ subscription.text ++
        " and the direct path is not preferred"
  | .invalidRelayUrl url reason => "Invalid relay URL \x27" ++ url ++ "\x27: " ++ reason
  | .routeSetup host reason => s!"Unable to route to {host}: {reason}"

end RouteError

end MmsInbox
