import MmsInbox.Program.Mirror

namespace MmsInbox

/-!
# Journals

A program writes notices into the journal, the audit publishes there what it is handed, and a lane that turns
tasks away says so there. So what comes into the journal in the course of a program can be read off its
history (`History.journal`, `Program.run_journaled`). Whoever configures the audit again in the meantime
changes nothing, since the settings that were given first stay in force.
-/

/-- What comes into the journal by an event: what is noted, and what is published under the settings of
the audit. -/
def Event.notice? (settings : AuditSettings) : Event → Option Journal.Notice
  | .acted (.note notice) _ => some notice
  | .acted (.audit told) _ => (settings.record? told).map .audited
  | _ => none

namespace Event

/-- All that comes into the journal by an event, if the lane turns away these of the tasks that are submitted
to it: its warnings, or what the event itself says. -/
def notices
    (settings : AuditSettings)
    (refused : List AckTask → List AckTask) :
    Event → List Journal.Notice
  | .answered (.submit tasks) _ => (refused tasks).map .laneClosed
  | event => (event.notice? settings).toList

end Event

/-- All that comes into the journal in the course of a history. -/
def History.journal
    (settings : AuditSettings)
    (refused : List AckTask → List AckTask)
    (history : History) :
    List Journal.Notice :=
  history.flatMap (Event.notices settings refused)

namespace AuditTrail

/-- Once there are settings in force, giving others changes nothing. -/
theorem configure_of_configured
    (settings : AuditSettings)
    (later : List AuditSettings) :
    later.foldl configure ⟨some settings⟩ = ⟨some settings⟩ := by
  induction later with
  | nil => rfl
  | cons given rest inductionHypothesis => exact inductionHypothesis

end AuditTrail

/-- A state with the audit of the process and its journal. -/
structure Journaled (σ : Type) where
  state : σ
  audit : AuditTrail
  journal : List Journal.Notice

namespace Environment

variable {σ : Type}

/-- The environment with a journal. Before each event the audit may be given settings by others, and those in
force decide on what is published. -/
def journaled
    (environment : Environment σ)
    (given : σ → List AuditSettings)
    (refused : List AckTask → List AckTask) :
    Environment (Journaled σ) where
  answer call world :=
    let audit := (given world.state).foldl AuditTrail.configure world.audit
    match environment.answer call world.state with
    | (.ok answer, later) =>
        (.ok answer,
          ⟨later, audit,
            world.journal ++ Event.notices audit.settings refused (.answered call answer)⟩)
    | (.error panic, later) => (.error panic, ⟨later, audit, world.journal⟩)
  perform action world :=
    let audit := (given world.state).foldl AuditTrail.configure world.audit
    let (answer, later) := environment.perform action world.state
    (answer,
      ⟨later, audit,
        world.journal ++ Event.notices audit.settings refused (.acted action answer)⟩)

/-- A state with a record, beside a journal that says what came into it in the course of the record. -/
def besideJournal
    (settings : AuditSettings)
    (refused : List AckTask → List AckTask)
    (written : List Journal.Notice)
    (world : σ × History) :
    Journaled σ × History :=
  (⟨world.1, ⟨some settings⟩, written ++ world.2.journal settings refused⟩, world.2)

/-- As soon as settings are in force, an environment with a journal does what it does without one, and writes
what its record says. -/
theorem mirrors_journaled
    (environment : Environment σ)
    (given : σ → List AuditSettings)
    (refused : List AckTask → List AckTask)
    (settings : AuditSettings)
    (written : List Journal.Notice) :
    environment.recorded.Mirrors (besideJournal settings refused written)
      (environment.journaled given refused).recorded where
  answered call world := by
    rcases asked : environment.answer call world.1 with ⟨panic | answer, later⟩
    all_goals
      simp [recorded, journaled, besideJournal, asked, History.journal, Event.notices,
        Event.notice?, AuditTrail.configure_of_configured, AuditTrail.settings]
  performed action world := by
    simp [recorded, journaled, besideJournal, History.journal,
      AuditTrail.configure_of_configured, AuditTrail.settings]

end Environment

namespace Program

variable {σ α : Type}

/-- The journal grows in a run by what the history says under the settings that were given first, and the run
is what it is without a journal. -/
theorem run_journaled
    (environment : Environment σ)
    (given : σ → List AuditSettings)
    (refused : List AckTask → List AckTask)
    (settings : AuditSettings)
    (written : List Journal.Notice)
    (program : Program α)
    (start : σ) :
    program.run (environment.journaled given refused) ⟨start, ⟨some settings⟩, written⟩ =
      ((program.run environment start).1,
        ⟨(program.run environment start).2, ⟨some settings⟩,
          written ++ (program.history environment start).journal settings refused⟩) := by
  have mirrored :=
    run_of_mirrors (environment.mirrors_journaled given refused settings written) program
      (start, [])
  have begins :
      Environment.besideJournal settings refused written (start, []) =
        (⟨start, ⟨some settings⟩, written⟩, []) := by
    simp [Environment.besideJournal, History.journal]
  rw [begins, run_recorded, run_recorded] at mirrored
  simp only [Environment.besideJournal, List.nil_append, Prod.mk.injEq] at mirrored
  exact Prod.ext mirrored.1 mirrored.2.1

end Program

end MmsInbox
