import MmsInbox.Config.Dialect
import MmsInbox.Config.Document

namespace MmsInbox

/-!
# Reading settings

Settings are laid over their standard values: what a record leaves out keeps its standard value, at
every level, and what it does not know is ignored. The value of a field that is left out is given with
the field; what holds when a whole record is left out is given with the record. Carrier settings have no
standard values apart from a missing proxy.
-/

variable {V : Type}

/-- Read a 64 bit number without a sign. -/
def Dialect.word64
    (dialect : Dialect V)
    (value : V) :
    Option UInt64 :=
  (dialect.fitting? ⟨false, 64⟩ value).map fun number => .ofNat number.toNat

/-- Read a 16 bit number without a sign. -/
def Dialect.word16
    (dialect : Dialect V)
    (value : V) :
    Option UInt16 :=
  (dialect.fitting? ⟨false, 16⟩ value).map fun number => .ofNat number.toNat

/-- Read a subscription. -/
def Subscription.read
    (dialect : Dialect V)
    (value : V) :
    Option Subscription :=
  (dialect.fitting? ⟨true, 32⟩ value).map fun number => ⟨.ofInt number⟩

/-- Read the client settings. -/
def HttpSettings.read
    (dialect : Dialect V)
    (value : V) :
    Option HttpSettings := do
  let fields ← dialect.fields? "HttpTimeouts"
    ["connect_timeout_secs", "request_timeout_secs", "user_agent"] value
  let connectTimeout ←
    fieldOr fields "connect_timeout_secs" standardConnectTimeout dialect.word64
  let requestTimeout ←
    fieldOr fields "request_timeout_secs" standardRequestTimeout dialect.word64
  let userAgent ← fieldOr fields "user_agent" standardUserAgent dialect.text?
  return ⟨connectTimeout, requestTimeout, userAgent⟩

/-- Read the acknowledgment settings. -/
def AckSettings.read
    (dialect : Dialect V)
    (value : V) :
    Option AckSettings := do
  let fields ← dialect.fields? "AckConfig"
    ["notify_wap_mmsc", "prefer_direct_path", "http"] value
  let toContentLocation ← fieldOr fields "notify_wap_mmsc" false dialect.truth?
  let preferDirectPath ← fieldOr fields "prefer_direct_path" false dialect.truth?
  let http ← fieldOr fields "http" .standard (HttpSettings.read dialect)
  return ⟨toContentLocation, preferDirectPath, http⟩

/-- Read the audit settings. -/
def AuditSettings.read
    (dialect : Dialect V)
    (value : V) :
    Option AuditSettings := do
  let fields ← dialect.fields? "AuditConfig" ["enabled", "redact_sender"] value
  let enabled ← fieldOr fields "enabled" true dialect.truth?
  let redactSender ← fieldOr fields "redact_sender" false dialect.truth?
  return ⟨enabled, redactSender⟩

/-- Read a configuration. -/
def Config.read
    (dialect : Dialect V)
    (value : V) :
    Option Config := do
  let fields ← dialect.fields? "Mmsrx"
    ["default_subscription", "max_concurrent_workflows", "acknowledgment", "audit"] value
  let defaultSubscription ←
    fieldOr fields "default_subscription" .standard (Subscription.read dialect)
  let maxConcurrentRuns ←
    fieldOr fields "max_concurrent_workflows" none (dialect.optional dialect.word64)
  let acknowledgment ←
    fieldOr fields "acknowledgment" .standard (AckSettings.read dialect)
  let audit ← fieldOr fields "audit" .standard (AuditSettings.read dialect)
  return ⟨defaultSubscription, maxConcurrentRuns, acknowledgment, audit⟩

/-- Read a proxy. -/
def ProxyAddress.read
    (dialect : Dialect V)
    (value : V) :
    Option ProxyAddress := do
  let fields ← dialect.fields? "ProxyAddress" ["host", "port"] value
  let host ← requiredField fields "host" dialect.text?
  let port ← requiredField fields "port" dialect.word16
  return ⟨host, port⟩

/-- Read carrier settings. -/
def RelayCredentials.read
    (dialect : Dialect V)
    (value : V) :
    Option RelayCredentials := do
  let fields ← dialect.fields? "RelayCredentials" ["mmsc_url", "proxy"] value
  let relayUrl ← requiredField fields "mmsc_url" dialect.text?
  let proxy ← fieldOr fields "proxy" none (dialect.optional (ProxyAddress.read dialect))
  return ⟨relayUrl, proxy⟩

namespace Document

/-- The fields of a record, or the items of a list in the order of the fields of a record. -/
def fields?
    (order : List String) :
    Document → Option (List (String × Document))
  | .record fields => some fields
  | .list items => if items.length ≤ order.length then some (order.zip items) else none
  | _ => none

/-- A document that is not `null`. -/
def present? : Document → Option Document
  | .null => none
  | document => some document

/-- A whole number. -/
def integer? : Document → Option Int
  | .integer value => some value
  | _ => none

/-- A truth value. -/
def truth? : Document → Option Bool
  | .truth value => some value
  | _ => none

/-- A text. -/
def text? : Document → Option String
  | .text value => some value
  | _ => none

/-- The dialect of documents. Records go without names, and numbers are of any kind they fit. -/
def dialect : Dialect Document where
  fields? _ order document := document.fields? order
  present? := present?
  integer? _ document := document.integer?
  truth? := truth?
  text? := text?

end Document

/-- The configuration that a document lays over the standard values. -/
def Config.ofDocument? (document : Document) : Option Config :=
  Config.read Document.dialect document

end MmsInbox
