import MmsInbox.Text.Hexadecimal

namespace MmsInbox

/-!
# Message types

Values of the `X-Mms-Message-Type` header. Seven values have a name; every other byte is kept
as it is.
-/

/-- The kind of an MMS protocol data unit. -/
inductive MessageType where
  | sendRequest
  | sendConfirmation
  | notification
  | notificationResponse
  | retrieval
  | acknowledgment
  | deliveryReport
  | unknown (byte : UInt8)
  deriving Repr, DecidableEq

namespace MessageType

/-- Read the header byte. -/
def ofByte (byte : UInt8) : MessageType :=
  if byte = 0x80 then .sendRequest
  else if byte = 0x81 then .sendConfirmation
  else if byte = 0x82 then .notification
  else if byte = 0x83 then .notificationResponse
  else if byte = 0x84 then .retrieval
  else if byte = 0x85 then .acknowledgment
  else if byte = 0x86 then .deliveryReport
  else .unknown byte

/-- Write the header byte. -/
def toByte : MessageType → UInt8
  | .sendRequest => 0x80
  | .sendConfirmation => 0x81
  | .notification => 0x82
  | .notificationResponse => 0x83
  | .retrieval => 0x84
  | .acknowledgment => 0x85
  | .deliveryReport => 0x86
  | .unknown byte => byte

/-- The name used in messages and audit records. -/
def name : MessageType → String
  | .sendRequest => "m-send-req"
  | .sendConfirmation => "m-send-conf"
  | .notification => "m-notification-ind"
  | .notificationResponse => "m-notifyresp-ind"
  | .retrieval => "m-retrieve-conf"
  | .acknowledgment => "m-acknowledge-ind"
  | .deliveryReport => "m-delivery-ind"
  | .unknown byte => s!"unknown ({Text.hexByte byte})"

end MessageType

end MmsInbox
