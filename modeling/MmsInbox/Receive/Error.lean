import MmsInbox.Pdu.Basic
import MmsInbox.Store.Error

namespace MmsInbox

/-!
# Receive errors

Why a run ended without a stored message.
-/

/-- A downloaded file could not be read. -/
structure IntakeError where
  path : String
  cause : File.Error
  deriving Repr, DecidableEq

namespace IntakeError

/-- The error as it is reported. -/
def message (error : IntakeError) : String :=
  s!"Failed to read {error.path}: " ++ error.cause.message

end IntakeError

/-- A downloaded payload is no retrieval. -/
inductive DecodeError where
  | empty
  | malformed (cause : CodecError)
  | unexpectedKind (kind : MessageType)
  deriving Repr, DecidableEq

namespace DecodeError

/-- The error as it is reported. -/
def message : DecodeError → String
  | .empty => "Empty payload"
  | .malformed cause => "Malformed PDU: " ++ cause.message
  | .unexpectedKind kind => "Expected m-retrieve-conf, got " ++ kind.name

/-- The messages of the errors behind this one. -/
def causes : DecodeError → List String
  | .malformed cause => [cause.message]
  | _ => []

end DecodeError

/-- Why a run ended without a stored message. -/
inductive ReceiveError where
  | intake (cause : IntakeError)
  | decode (cause : DecodeError)
  | persistence (cause : StoreError)
  deriving Repr, DecidableEq

namespace ReceiveError

/-- The error as it is reported. -/
def message : ReceiveError → String
  | .intake cause => "Unable to read downloaded message: " ++ cause.message
  | .decode cause => "Unable to decode downloaded message: " ++ cause.message
  | .persistence cause => "Unable to persist message: " ++ cause.message

/-- The messages of the errors behind this one, the nearest first. -/
def causes : ReceiveError → List String
  | .intake cause => [cause.message, cause.cause.message]
  | .decode cause => cause.message :: cause.causes
  | .persistence cause => cause.message :: cause.causes

/-- The file could not be read. -/
def isIntake : ReceiveError → Bool
  | .intake _ => true
  | _ => false

/-- The payload is no retrieval. -/
def isDecode : ReceiveError → Bool
  | .decode _ => true
  | _ => false

/-- The message store failed. -/
def isPersistence : ReceiveError → Bool
  | .persistence _ => true
  | _ => false

end ReceiveError

end MmsInbox
