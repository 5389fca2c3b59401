import MmsInbox.Program.Mirror

namespace MmsInbox

/-!
# Auditing

Whatever a program hands to the audit is published under the settings of the audit, or nothing is. What is
published in the course of a program can be read off its history (`History.published`,
`Program.run_audited`); the settings make no other difference, as the same happens as where nobody audits.
-/

/-- What is handed to the audit. -/
def Action.audited? : Action → Option AuditEvent
  | .readFile _ => none
  | .removeFile _ => none
  | .finishDownload _ => none
  | .audit event => some event
  | .note _ => none

/-- What is handed to the audit. -/
def Event.audited? (event : Event) : Option AuditEvent :=
  event.action?.bind Action.audited?

namespace AuditSettings

variable {settings : AuditSettings}

/-- An event as it is published under these settings. -/
def shown
    (settings : AuditSettings)
    (event : AuditEvent) :
    AuditEvent :=
  if settings.redactSender then event.redacted else event

theorem record?_of_enabled (enabled : settings.enabled = true) :
    settings.record? = some ∘ settings.shown := by
  funext event
  simp [record?, shown, enabled]

theorem record?_of_disabled
    (disabled : settings.enabled = false)
    (event : AuditEvent) :
    settings.record? event = none := by
  simp [record?, disabled]

end AuditSettings

namespace History

variable {settings : AuditSettings}

/-- All that was handed to the audit, in order. -/
def audits (history : History) : List AuditEvent :=
  history.filterMap Event.audited?

/-- What was published of it under the settings of the audit. -/
def published
    (settings : AuditSettings)
    (history : History) :
    List AuditEvent :=
  history.audits.filterMap settings.record?

@[simp] theorem audits_nil : audits [] = [] := rfl

@[simp] theorem audits_answered
    (call : Call)
    (answer : call.Answer)
    (later : History) :
    audits (.answered call answer :: later) = later.audits := rfl

@[simp] theorem audits_acted
    (action : Action)
    (answer : action.Answer)
    (later : History) :
    audits (.acted action answer :: later) = action.audited?.toList ++ later.audits := by
  cases action <;> rfl

@[simp] theorem audits_append (first second : History) :
    audits (first ++ second) = first.audits ++ second.audits :=
  List.filterMap_append

/-- What each event publishes is published in turn. -/
theorem published_concat
    (history : History)
    (event : Event) :
    published settings (history ++ [event]) =
      history.published settings ++ (event.audited?.bind settings.record?).toList := by
  cases handed : event.audited? with
  | none => simp [published, audits, handed]
  | some told => cases kept : settings.record? told <;> simp [published, audits, handed, kept]

/-- An audit that is switched on publishes all that it is handed. -/
theorem published_of_enabled
    (enabled : settings.enabled = true)
    (history : History) :
    history.published settings = history.audits.map settings.shown := by
  rw [published, AuditSettings.record?_of_enabled enabled, List.filterMap_eq_map]

/-- An audit that is switched off publishes nothing. -/
theorem published_of_disabled
    (disabled : settings.enabled = false)
    (history : History) :
    history.published settings = [] :=
  List.filterMap_eq_nil_iff.mpr fun event _ => AuditSettings.record?_of_disabled disabled event

end History

namespace Environment

variable {σ : Type}

/-- The environment without an audit: what is handed to the audit is ignored. -/
def unaudited (environment : Environment σ) : Environment σ where
  answer := environment.answer
  perform
    | .audit _, state => ((), state)
    | action, state => environment.perform action state

/-- The environment with an audit that publishes what it is handed under these settings. -/
def audited
    (environment : Environment σ)
    (settings : AuditSettings) :
    Environment (σ × List AuditEvent) where
  answer call world :=
    let (answer, later) := environment.answer call world.1
    (answer, later, world.2)
  perform action world :=
    let (answer, later) := environment.unaudited.perform action world.1
    (answer, later, world.2 ++ (action.audited?.bind settings.record?).toList)

/-- What is written down is not for the audit. -/
theorem note_audited
    (environment : Environment σ)
    (settings : AuditSettings)
    (notice : Journal.Notice)
    (world : σ × List AuditEvent) :
    (environment.audited settings).note notice world =
      (environment.unaudited.note notice world.1, world.2) := by
  simp [note, audited, Action.audited?]

/-- A state with a record, beside what was published of the record. -/
def besidePublished
    (settings : AuditSettings)
    (world : σ × History) :
    (σ × List AuditEvent) × History :=
  ((world.1, world.2.published settings), world.2)

/-- With an audit an environment does what it does without one, and publishes what its record says. -/
theorem mirrors_audited
    (environment : Environment σ)
    (settings : AuditSettings) :
    environment.unaudited.recorded.Mirrors (besidePublished settings)
      (environment.audited settings).recorded where
  answered call world := by
    rcases asked : environment.answer call world.1 with ⟨panic | answer, later⟩
    all_goals
      simp [recorded, audited, unaudited, besidePublished, asked, History.published_concat,
        Event.audited?, Event.action?]
  performed action world := by
    simp [recorded, audited, besidePublished, History.published_concat, Event.audited?,
      Event.action?]

end Environment

namespace Program

variable {σ α : Type}

/-- What a program comes to with an audit: the result, the state and the history that it has without one,
and what is published of the history. -/
theorem run_audited
    (environment : Environment σ)
    (settings : AuditSettings)
    (program : Program α)
    (start : σ) :
    program.run (environment.audited settings) (start, []) =
        ((program.run environment.unaudited start).1,
          (program.run environment.unaudited start).2,
          (program.history environment.unaudited start).published settings) ∧
      program.history (environment.audited settings) (start, []) =
        program.history environment.unaudited start := by
  have mirrored := run_of_mirrors (environment.mirrors_audited settings) program (start, [])
  have begins : Environment.besidePublished settings (start, []) = ((start, []), []) := rfl
  rw [begins, run_recorded, run_recorded] at mirrored
  simp only [Environment.besidePublished, List.nil_append, Prod.mk.injEq] at mirrored
  obtain ⟨sameResult, sameWorld, sameHistory⟩ := mirrored
  exact ⟨Prod.ext sameResult sameWorld, sameHistory⟩

end Program

end MmsInbox
