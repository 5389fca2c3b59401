import MmsInbox.Bytes
import MmsInbox.Pdu.MessageType

namespace MmsInbox

/-!
# Protocol data units

The binary envelope belongs to a codec outside this library. Here are the values that cross that
border: what a parsed unit looks like, and what an acknowledgment has to carry.
-/

/-- A text field, if it is present and not empty. -/
def nonEmpty? (field : Option String) : Option String :=
  field.filter fun text => !text.isEmpty

/-- The content that the relay returns for a fetch. -/
structure Retrieval where
  /-- The sender's address, as the relay encoded it. -/
  sender : Option String
  /-- Present when the relay wants an acknowledgment. -/
  transactionId : Option String
  messageId : Option String
  contentType : Option String
  body : Bytes
  deriving DecidableEq

namespace Retrieval

/-- The sender's address, unless it is missing or empty. -/
def sender? (retrieval : Retrieval) : Option String :=
  nonEmpty? retrieval.sender

/-- The transaction id, unless it is missing or empty. -/
def transactionId? (retrieval : Retrieval) : Option String :=
  nonEmpty? retrieval.transactionId

end Retrieval

/-- A delivery notification: the relay holds content at a location. -/
structure Notification where
  transactionId : String
  location : String
  sender : Option String
  size : Option UInt64
  deriving Repr, DecidableEq

/-- A parsed unit. -/
inductive Pdu where
  | retrieval (content : Retrieval)
  | notification (content : Notification)
  | other (kind : MessageType)
  deriving DecidableEq

namespace Pdu

/-- The kind of a parsed unit. A unit the codec left undecoded keeps the kind it was given. -/
def messageType : Pdu → MessageType
  | .retrieval _ => .retrieval
  | .notification _ => .notification
  | .other kind => kind

end Pdu

/-- The MMS version (1.2) that acknowledgments carry. -/
def mmsVersion : UInt8 := 0x92

/-- The status that tells the relay that the content was retrieved. -/
def retrievedStatus : UInt8 := 0x81

/-- The retrieve status of a notification whose retrieval ended in an error. -/
def errorRetrieveStatus : UInt8 := 0xFF

/-- A unit that the engine sends to the relay. -/
inductive OutboundPdu where
  | notificationResponse (version : UInt8) (transactionId : String) (status : UInt8)
  /-- The sender is the device's own number, empty if unknown. -/
  | acknowledgment (version : UInt8) (transactionId : String) (sender : String)
  deriving Repr, DecidableEq

namespace OutboundPdu

/-- The kind of an outbound unit. -/
def messageType : OutboundPdu → MessageType
  | .notificationResponse .. => .notificationResponse
  | .acknowledgment .. => .acknowledgment

/-- Tells the relay that the content it notified about has been retrieved. -/
def retrieved (transactionId : String) : OutboundPdu :=
  .notificationResponse mmsVersion transactionId retrievedStatus

/-- Acknowledges a retrieval on behalf of a device number. -/
def acknowledge
    (transactionId : String)
    (lineNumber : Option String) :
    OutboundPdu :=
  .acknowledgment mmsVersion transactionId (lineNumber.getD "")

end OutboundPdu

/-- Why a codec could not read or write a unit. -/
inductive CodecError where
  | truncated (bytes : Nat)
  | invalidHeader (field reason : String)
  | unsupportedVersion (version : UInt8)
  | unsupported (kind : MessageType)
  | other (text : String)
  deriving Repr, DecidableEq

namespace CodecError

/-- The error as it is reported. -/
def message : CodecError → String
  | .truncated bytes => s!"PDU truncated after {bytes} bytes"
  | .invalidHeader field reason => s!"Invalid header value for {field}: {reason}"
  | .unsupportedVersion version => "Unsupported MMS version: " ++ Text.hexByte version
  | .unsupported kind => "Unsupported PDU type: " ++ kind.name
  | .other text => s!"Codec error: {text}"

end CodecError

end MmsInbox
