import MmsInbox.Http.Message
import MmsInbox.Pdu.Basic
import MmsInbox.Relay.Route

namespace MmsInbox

/-!
# Acknowledgment errors

Why a single acknowledgment was not accepted by the relay. None of these reaches the callbacks of a
run: the lane logs them and drops the task.
-/

/-- Why a post did not succeed. -/
inductive NetworkError where
  | transport (cause : Http.TransportError)
  | httpStatus (url : String) (status : UInt16)
  deriving Repr, DecidableEq

namespace NetworkError

/-- The error as it is reported. -/
def message : NetworkError → String
  | .transport cause => cause.message
  | .httpStatus url status => s!"Relay at {url} returned HTTP {status}"

/-- The messages of the errors behind this one, the nearest first. -/
def causes : NetworkError → List String
  | .transport cause => [cause.message]
  | .httpStatus .. => []

end NetworkError

/-- Why an acknowledgment failed. -/
inductive AckError where
  | route (cause : RouteError)
  | compose (cause : CodecError)
  | network (cause : NetworkError)
  deriving Repr, DecidableEq

namespace AckError

/-- The error as it is reported. -/
def message : AckError → String
  | .route cause => "Route error: " ++ cause.message
  | .compose cause => "Failed to compose acknowledgment: " ++ cause.message
  | .network cause => "Network error: " ++ cause.message

/-- The messages of the errors behind this one, the nearest first. -/
def causes : AckError → List String
  | .route cause => [cause.message]
  | .compose cause => [cause.message]
  | .network cause => cause.message :: cause.causes

/-- The failure happened on the wire. -/
def isNetwork : AckError → Bool
  | .network _ => true
  | _ => false

/-- The relay answered with a failure. -/
def isHttpStatus : AckError → Bool
  | .network (.httpStatus ..) => true
  | _ => false

end AckError

end MmsInbox
