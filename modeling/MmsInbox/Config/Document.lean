import MmsInbox.Config.Basic
import MmsInbox.Relay.Route

namespace MmsInbox

/-!
# Documents

A document is a tree of named fields, in which settings are exchanged. Every setting can be written
as a document; how documents are read is the matter of `MmsInbox.Config.Reading`.
-/

/-- A tree of named fields. -/
inductive Document where
  | null
  | truth (value : Bool)
  | integer (value : Int)
  /-- A number with a fraction or an exponent, whatever its value: no setting is such a number. -/
  | fraction
  | text (value : String)
  | list (items : List Document)
  | record (fields : List (String × Document))
  deriving Repr, Inhabited

namespace Subscription

/-- A subscription as a document. -/
def document (subscription : Subscription) : Document :=
  .integer subscription.number.toInt

end Subscription

namespace HttpSettings

/-- The client settings as a document. -/
def document (settings : HttpSettings) : Document :=
  .record
    [("connect_timeout_secs", .integer settings.connectTimeout.toNat),
      ("request_timeout_secs", .integer settings.requestTimeout.toNat),
      ("user_agent", .text settings.userAgent)]

end HttpSettings

namespace AckSettings

/-- The acknowledgment settings as a document. -/
def document (settings : AckSettings) : Document :=
  .record
    [("notify_wap_mmsc", .truth settings.toContentLocation),
      ("prefer_direct_path", .truth settings.preferDirectPath),
      ("http", settings.http.document)]

end AckSettings

namespace AuditSettings

/-- The audit settings as a document. -/
def document (settings : AuditSettings) : Document :=
  .record
    [("enabled", .truth settings.enabled),
      ("redact_sender", .truth settings.redactSender)]

end AuditSettings

namespace Config

/-- A configuration as a document. -/
def document (config : Config) : Document :=
  .record
    [("default_subscription", config.defaultSubscription.document),
      ("max_concurrent_workflows",
        match config.maxConcurrentRuns with
        | some limit => .integer limit.toNat
        | none => .null),
      ("acknowledgment", config.acknowledgment.document),
      ("audit", config.audit.document)]

end Config

namespace ProxyAddress

/-- A proxy as a document. -/
def document (proxy : ProxyAddress) : Document :=
  .record [("host", .text proxy.host), ("port", .integer proxy.port.toNat)]

end ProxyAddress

namespace RelayCredentials

/-- Carrier settings as a document. -/
def document (credentials : RelayCredentials) : Document :=
  .record
    [("mmsc_url", .text credentials.relayUrl),
      ("proxy",
        match credentials.proxy with
        | some proxy => proxy.document
        | none => .null)]

end RelayCredentials

end MmsInbox
