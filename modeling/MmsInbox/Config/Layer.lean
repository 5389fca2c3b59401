import MmsInbox.Config.Reading

namespace MmsInbox

/-!
# Layers of settings

Whoever writes settings need not write all of them. What is written is a layer, which is laid over other
settings: a setting in the layer counts, and what the layer leaves out shows from below. Within a record
of settings that is itself left out nothing is written.

Whether a value gives the settings of a layer depends on the notation. A record gives each of them by one
field, wherever the field stands, and may have any other fields besides.
-/

/-- Some of the client settings. -/
structure HttpLayer where
  connectTimeout : Option UInt64
  requestTimeout : Option UInt64
  userAgent : Option String

/-- Some of the acknowledgment settings. -/
structure AckLayer where
  toContentLocation : Option Bool
  preferDirectPath : Option Bool
  http : Option HttpLayer

/-- Some of the audit settings. -/
structure AuditLayer where
  enabled : Option Bool
  redactSender : Option Bool

/-- Some of the settings of a configuration. -/
structure ConfigLayer where
  defaultSubscription : Option Subscription
  /-- It may be written that there is no bound. -/
  maxConcurrentRuns : Option (Option UInt64)
  acknowledgment : Option AckLayer
  audit : Option AuditLayer

namespace HttpLayer

/-- Nothing is written. -/
def empty : HttpLayer :=
  ⟨none, none, none⟩

/-- The settings with the layer over them. -/
def onto
    (layer : HttpLayer)
    (below : HttpSettings) :
    HttpSettings where
  connectTimeout := layer.connectTimeout.getD below.connectTimeout
  requestTimeout := layer.requestTimeout.getD below.requestTimeout
  userAgent := layer.userAgent.getD below.userAgent

end HttpLayer

namespace AckLayer

/-- Nothing is written. -/
def empty : AckLayer :=
  ⟨none, none, none⟩

/-- The settings with the layer over them. -/
def onto
    (layer : AckLayer)
    (below : AckSettings) :
    AckSettings where
  toContentLocation := layer.toContentLocation.getD below.toContentLocation
  preferDirectPath := layer.preferDirectPath.getD below.preferDirectPath
  http := (layer.http.map (·.onto below.http)).getD below.http

/-- The layer with an empty record for the one that is left out. -/
def filled (layer : AckLayer) : AckLayer :=
  { layer with http := some (layer.http.getD .empty) }

end AckLayer

namespace AuditLayer

/-- Nothing is written. -/
def empty : AuditLayer :=
  ⟨none, none⟩

/-- The settings with the layer over them. -/
def onto
    (layer : AuditLayer)
    (below : AuditSettings) :
    AuditSettings where
  enabled := layer.enabled.getD below.enabled
  redactSender := layer.redactSender.getD below.redactSender

end AuditLayer

namespace ConfigLayer

/-- The configuration with the layer over it. -/
def onto
    (layer : ConfigLayer)
    (below : Config) :
    Config where
  defaultSubscription := layer.defaultSubscription.getD below.defaultSubscription
  maxConcurrentRuns := layer.maxConcurrentRuns.getD below.maxConcurrentRuns
  acknowledgment :=
    (layer.acknowledgment.map (·.onto below.acknowledgment)).getD below.acknowledgment
  audit := (layer.audit.map (·.onto below.audit)).getD below.audit

/-- The layer with an empty record for each one that is left out, at every level. -/
def filled (layer : ConfigLayer) : ConfigLayer :=
  { layer with
    acknowledgment := some (layer.acknowledgment.getD .empty).filled
    audit := some (layer.audit.getD .empty) }

end ConfigLayer

/-- All client settings. -/
def HttpSettings.layer (settings : HttpSettings) : HttpLayer :=
  ⟨some settings.connectTimeout, some settings.requestTimeout, some settings.userAgent⟩

/-- All acknowledgment settings. -/
def AckSettings.layer (settings : AckSettings) : AckLayer :=
  ⟨some settings.toContentLocation, some settings.preferDirectPath, some settings.http.layer⟩

/-- All audit settings. -/
def AuditSettings.layer (settings : AuditSettings) : AuditLayer :=
  ⟨some settings.enabled, some settings.redactSender⟩

/-- All settings of a configuration. -/
def Config.layer (config : Config) : ConfigLayer :=
  ⟨some config.defaultSubscription, some config.maxConcurrentRuns,
    some config.acknowledgment.layer, some config.audit.layer⟩

/-- A setting is left out of some fields, or given by one of them, which is the only one of its name. -/
inductive GivesField
    {V α : Type}
    (Gives : V → α → Prop)
    (fields : List (String × V))
    (name : String) :
    Option α → Prop where
  | leftOut (absent : name ∉ fields.map Prod.fst) : GivesField Gives fields name none
  | given
      {value : V}
      {setting : α}
      (there : (name, value) ∈ fields)
      (once : (fields.map Prod.fst).count name = 1)
      (gives : Gives value setting) :
      GivesField Gives fields name (some setting)

namespace Dialect

variable {V α : Type}

/-- The value is a 64 bit number without a sign. -/
def GivesWord64
    (dialect : Dialect V)
    (value : V)
    (number : UInt64) :
    Prop :=
  dialect.integer? ⟨false, 64⟩ value = some number.toNat

/-- The value is the number of a subscription. -/
def GivesSubscription
    (dialect : Dialect V)
    (value : V)
    (subscription : Subscription) :
    Prop :=
  dialect.integer? ⟨true, 32⟩ value = some subscription.number.toInt

/-- The value is a truth value. -/
def GivesTruth
    (dialect : Dialect V)
    (value : V)
    (truth : Bool) :
    Prop :=
  dialect.truth? value = some truth

/-- The value is a text. -/
def GivesText
    (dialect : Dialect V)
    (value : V)
    (text : String) :
    Prop :=
  dialect.text? value = some text

/-- The value says that there is no setting, or gives the setting that there is. -/
inductive GivesOptional
    (dialect : Dialect V)
    (Gives : V → α → Prop)
    (value : V) :
    Option α → Prop where
  | absent (nothing : dialect.present? value = none) : GivesOptional dialect Gives value none
  | present
      {inner : V}
      {setting : α}
      (there : dialect.present? value = some inner)
      (gives : Gives inner setting) :
      GivesOptional dialect Gives value (some setting)

/-- The value is a record that gives some client settings. -/
inductive GivesHttp
    (dialect : Dialect V)
    (value : V)
    (layer : HttpLayer) :
    Prop where
  | record
      {fields : List (String × V)}
      (named :
        dialect.fields? "HttpTimeouts"
          ["connect_timeout_secs", "request_timeout_secs", "user_agent"] value = some fields)
      (connectTimeout :
        GivesField dialect.GivesWord64 fields "connect_timeout_secs" layer.connectTimeout)
      (requestTimeout :
        GivesField dialect.GivesWord64 fields "request_timeout_secs" layer.requestTimeout)
      (userAgent : GivesField dialect.GivesText fields "user_agent" layer.userAgent)

/-- The value is a record that gives some acknowledgment settings. -/
inductive GivesAck
    (dialect : Dialect V)
    (value : V)
    (layer : AckLayer) :
    Prop where
  | record
      {fields : List (String × V)}
      (named :
        dialect.fields? "AckConfig"
          ["notify_wap_mmsc", "prefer_direct_path", "http"] value = some fields)
      (toContentLocation :
        GivesField dialect.GivesTruth fields "notify_wap_mmsc" layer.toContentLocation)
      (preferDirectPath :
        GivesField dialect.GivesTruth fields "prefer_direct_path" layer.preferDirectPath)
      (http : GivesField dialect.GivesHttp fields "http" layer.http)

/-- The value is a record that gives some audit settings. -/
inductive GivesAudit
    (dialect : Dialect V)
    (value : V)
    (layer : AuditLayer) :
    Prop where
  | record
      {fields : List (String × V)}
      (named :
        dialect.fields? "AuditConfig" ["enabled", "redact_sender"] value = some fields)
      (enabled : GivesField dialect.GivesTruth fields "enabled" layer.enabled)
      (redactSender : GivesField dialect.GivesTruth fields "redact_sender" layer.redactSender)

/-- The value is a record that gives some settings of a configuration. -/
inductive GivesConfig
    (dialect : Dialect V)
    (value : V)
    (layer : ConfigLayer) :
    Prop where
  | record
      {fields : List (String × V)}
      (named :
        dialect.fields? "Mmsrx"
          ["default_subscription", "max_concurrent_workflows", "acknowledgment", "audit"] value =
            some fields)
      (defaultSubscription :
        GivesField dialect.GivesSubscription fields "default_subscription"
          layer.defaultSubscription)
      (maxConcurrentRuns :
        GivesField (dialect.GivesOptional dialect.GivesWord64) fields
          "max_concurrent_workflows" layer.maxConcurrentRuns)
      (acknowledgment :
        GivesField dialect.GivesAck fields "acknowledgment" layer.acknowledgment)
      (audit : GivesField dialect.GivesAudit fields "audit" layer.audit)

end Dialect

end MmsInbox
