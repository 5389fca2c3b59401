import MmsInbox.Proofs.Config.Layers
import MmsInbox.Ron.Value

namespace MmsInbox

/-!
# Settings that are written and read

A document need not give all settings. Those that it gives count, and all others have their standard value,
at every level; so a record of settings may as well be left out as given empty
(`Config.laid_over_standard`). A configuration that is written as a document gives all of its settings and is
read from it again (`Config.ofDocument?_document`). Therefore every configuration there is can be given to
the engine, the extreme ones as well.
-/

namespace Document

theorem gives_word64 (number : UInt64) : dialect.GivesWord64 (.integer number.toNat) number := rfl

theorem gives_truth (value : Bool) : dialect.GivesTruth (.truth value) value := rfl

theorem gives_text (value : String) : dialect.GivesText (.text value) value := rfl

/-- A bound is written as a number, and its absence as `null`. -/
theorem gives_bound (bound : Option UInt64) :
    dialect.GivesOptional dialect.GivesWord64
      (match bound with
        | some bound => .integer bound.toNat
        | none => .null)
      bound := by
  cases bound with
  | none => exact .absent rfl
  | some bound => exact .present rfl (gives_word64 bound)

end Document

theorem Subscription.gives_document (subscription : Subscription) :
    Document.dialect.GivesSubscription subscription.document subscription :=
  rfl

theorem HttpSettings.gives_document (settings : HttpSettings) :
    Document.dialect.GivesHttp settings.document settings.layer :=
  .record rfl
    (.given (by simp) rfl (Document.gives_word64 _))
    (.given (by simp) rfl (Document.gives_word64 _))
    (.given (by simp) rfl (Document.gives_text _))

theorem AckSettings.gives_document (settings : AckSettings) :
    Document.dialect.GivesAck settings.document settings.layer :=
  .record rfl
    (.given (by simp) rfl (Document.gives_truth _))
    (.given (by simp) rfl (Document.gives_truth _))
    (.given (by simp) rfl settings.http.gives_document)

theorem AuditSettings.gives_document (settings : AuditSettings) :
    Document.dialect.GivesAudit settings.document settings.layer :=
  .record rfl
    (.given (by simp) rfl (Document.gives_truth _))
    (.given (by simp) rfl (Document.gives_truth _))

/-- A configuration that is written gives all of its settings. -/
theorem Config.gives_document (config : Config) :
    Document.dialect.GivesConfig config.document config.layer :=
  .record rfl
    (.given (by simp) rfl config.defaultSubscription.gives_document)
    (.given (List.mem_cons_of_mem _ List.mem_cons_self) rfl (Document.gives_bound _))
    (.given (by simp) rfl config.acknowledgment.gives_document)
    (.given (by simp) rfl config.audit.gives_document)

/-- A configuration that is written is read again. -/
theorem Config.ofDocument?_document (config : Config) :
    Config.ofDocument? config.document = some config := by
  rw [ofDocument?, Config.read_of_gives config.gives_document]
  rfl

namespace Config

/-- What is read from a value that gives the settings of a layer. -/
structure LaidOver
    {V : Type}
    (dialect : Dialect V)
    (value : V)
    (layer : ConfigLayer) :
    Prop where
  /-- What is given counts, and all else has its standard value. -/
  read_eq : Config.read dialect value = some (layer.onto .standard)
  /-- A value in which other records of settings are left out, where this one has empty ones, or the other way
  round, is read alike. -/
  read_eq_of_filled
    {other : V}
    {otherLayer : ConfigLayer}
    (gives : dialect.GivesConfig other otherLayer)
    (alike : otherLayer.filled = layer.filled) :
    Config.read dialect other = Config.read dialect value

/-- Whatever settings a value gives, they are laid over the standard ones, and a configuration that is
written as a document is read from it again. -/
theorem laid_over_standard
    {V : Type}
    {dialect : Dialect V}
    {value : V}
    {layer : ConfigLayer}
    (gives : dialect.GivesConfig value layer) :
    LaidOver dialect value layer ∧
      ∀ config : Config, Config.ofDocument? config.document = some config := by
  have reads := read_of_gives gives
  refine ⟨⟨reads, fun {other otherLayer} givesOther alike => ?_⟩, ofDocument?_document⟩
  calc Config.read dialect other
      = some (otherLayer.onto .standard) := read_of_gives givesOther
    _ = some (layer.onto .standard) := by
        rw [← otherLayer.filled_onto, alike, layer.filled_onto]
    _ = Config.read dialect value := reads.symm

/-- A layer of a few settings, at three levels. -/
def fewSettings : ConfigLayer where
  defaultSubscription := none
  maxConcurrentRuns := some (some 8)
  acknowledgment := some ⟨none, none, some ⟨none, some 5, none⟩⟩
  audit := some ⟨none, some true⟩

/-- A document that gives them, with the audit first and fields besides that are no settings. -/
def fewSettingsDocument : Document :=
  .record
    [("audit", .record [("colour", .text "red"), ("redact_sender", .truth true)]),
      ("comment", .list [.null, .fraction]),
      ("acknowledgment", .record [("http", .record [("request_timeout_secs", .integer 5)])]),
      ("max_concurrent_workflows", .integer 8),
      ("comment", .null)]

/-- A value of RON that gives them too, with some names and kinds written out. -/
def fewSettingsRon : Ron.Value :=
  .record (some "Mmsrx")
    [("max_concurrent_workflows", .present (.integer 8 (some ⟨false, 64⟩))),
      ("acknowledgment",
        .record none [("http", .record none [("request_timeout_secs", .integer 5 none)])]),
      ("audit",
        .record (some "AuditConfig")
          [("redact_sender", .truth true), ("colour", .word "Red")])]

theorem gives_fewSettingsDocument :
    Document.dialect.GivesConfig fewSettingsDocument fewSettings :=
  .record rfl
    (.leftOut (by decide))
    (.given (.tail _ (.tail _ (.tail _ (.head _)))) rfl (.present rfl rfl))
    (.given (.tail _ (.tail _ (.head _))) rfl
      (.record rfl
        (.leftOut (by decide))
        (.leftOut (by decide))
        (.given (.head _) rfl
          (.record rfl
            (.leftOut (by decide))
            (.given (.head _) rfl rfl)
            (.leftOut (by decide))))))
    (.given (.head _) rfl
      (.record rfl (.leftOut (by decide)) (.given (.tail _ (.head _)) rfl rfl)))

theorem gives_fewSettingsRon :
    Ron.Value.dialect.GivesConfig fewSettingsRon fewSettings :=
  .record rfl
    (.leftOut (by decide))
    (.given (.head _) rfl (.present rfl rfl))
    (.given (.tail _ (.head _)) rfl
      (.record rfl
        (.leftOut (by decide))
        (.leftOut (by decide))
        (.given (.head _) rfl
          (.record rfl
            (.leftOut (by decide))
            (.given (.head _) rfl rfl)
            (.leftOut (by decide))))))
    (.given (.tail _ (.tail _ (.head _))) rfl
      (.record rfl (.leftOut (by decide)) (.given (.head _) rfl rfl)))

/-- The few settings are laid over the standard ones in both notations. -/
theorem laid_over_standard_fewSettings :
    Document.dialect.GivesConfig fewSettingsDocument fewSettings ∧
      Ron.Value.dialect.GivesConfig fewSettingsRon fewSettings ∧
      LaidOver Document.dialect fewSettingsDocument fewSettings ∧
      LaidOver Ron.Value.dialect fewSettingsRon fewSettings ∧
      Config.read Ron.Value.dialect fewSettingsRon =
        some ⟨⟨1⟩, some 8, ⟨false, false, ⟨30, 5, "mmsrx/0.0.1"⟩⟩, ⟨true, true⟩⟩ := by
  have overDocument := (laid_over_standard gives_fewSettingsDocument).1
  have overRon := (laid_over_standard gives_fewSettingsRon).1
  exact ⟨gives_fewSettingsDocument, gives_fewSettingsRon, overDocument, overRon, overRon.read_eq⟩

end Config

end MmsInbox
