import MmsInbox.Bytes
import MmsInbox.Relay.Route

namespace MmsInbox.Http

/-!
# HTTP messages

The one exchange that the engine needs: a unit is posted to an address, and a status and a body come
back. Any status counts as an answer; what it means is decided by whoever asked.
-/

/-- A post to an address, directly or through a proxy. -/
structure Request where
  url : String
  body : Bytes
  proxy : Option ProxyAddress
  deriving DecidableEq

/-- What was answered to a post. -/
structure Response where
  status : UInt16
  body : Bytes
  deriving DecidableEq

namespace Response

/-- The status reports no failure. -/
def isSuccess (response : Response) : Bool :=
  response.status < 400

end Response

/-- Why no answer came back. -/
inductive TransportError where
  | client (text : String)
  | connection (text : String)
  | timeout (text : String)
  | request (text : String)
  deriving Repr, DecidableEq

namespace TransportError

/-- The error as it is reported. -/
def message : TransportError → String
  | .client text => s!"Failed to build HTTP client: {text}"
  | .connection text => s!"Connection failed: {text}"
  | .timeout text => s!"Request timed out: {text}"
  | .request text => s!"Request failed: {text}"

end TransportError

end MmsInbox.Http
