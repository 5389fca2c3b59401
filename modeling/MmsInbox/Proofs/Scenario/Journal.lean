import MmsInbox.Program.Journaling
import MmsInbox.Program.Passage
import MmsInbox.Scenario.World

namespace MmsInbox

/-!
# The journal of a scenario

In a scenario the audit writes into the journal of the party that it listens to. So the journal of a party
grows by what the party notes and by what is published of what it hands to the audit, in the order in which
it does so, and by nothing else (`Scenario.World.notices_of_run`). The settings of the audit stay as they
are.
-/

namespace Scenario.World

variable
  {world later : World}
  {party : Party}

/-- What a party has asked and written. -/
def recordOf
    (world : World)
    (party : Party) :
    Record :=
  match party with
  | .lane => world.laneRecord
  | .others => world.record

@[simp] theorem recordOf_recordBy
    (change : Record → Record) :
    (world.recordBy party change).recordOf party = change (world.recordOf party) := by
  cases party <;> rfl

@[simp] theorem audit_recordBy
    (change : Record → Record) :
    (world.recordBy party change).audit = world.audit := by
  cases party <;> rfl

/-- A world in which a party has written the same, and with the same settings of the audit. -/
structure SamePages
    (party : Party)
    (world later : World) :
    Prop where
  notices : (later.recordOf party).notices = (world.recordOf party).notices
  audit : later.audit = world.audit

namespace SamePages

theorem refl (party : Party) (world : World) : SamePages party world world :=
  ⟨rfl, rfl⟩

theorem of_eq
    (record : later.record = world.record)
    (laneRecord : later.laneRecord = world.laneRecord)
    (audit : later.audit = world.audit) :
    SamePages party world later := by
  refine ⟨?_, audit⟩
  cases party with
  | lane => exact congrArg Record.notices laneRecord
  | others => exact congrArg Record.notices record

end SamePages

/-- Whoever answers writes nothing. -/
theorem samePages_scriptedAnswer
    (party : Party)
    (world : World)
    (call : Call) :
    SamePages party world (world.scriptedAnswer call).2 := by
  cases call with
  | persist message =>
      simp only [scriptedAnswer, persist]
      split
      · exact .refl party world
      · split <;> exact .of_eq rfl rfl rfl
  | deletePending location =>
      simp only [scriptedAnswer, deletePending]
      split
      · exact .refl party world
      · exact .of_eq rfl rfl rfl
  | updateRetrieveStatus location status =>
      simp only [scriptedAnswer, updateRetrieveStatus]
      split
      · exact .refl party world
      · exact .of_eq rfl rfl rfl
  | awaitResponse => exact .of_eq rfl rfl rfl
  | _ => exact .refl party world

/-- A question writes nothing into the journal, whatever is answered. -/
theorem samePages_answer
    (party : Party)
    (world : World)
    (call : Call) :
    SamePages party world (world.answer party call).2 := by
  unfold answer
  split
  · exact .refl party world
  · split
    · exact samePages_scriptedAnswer party world call
    · dsimp only
      split
      · exact ⟨by simp, by simp⟩
      · obtain ⟨notices, audit⟩ :=
          samePages_scriptedAnswer party
            (world.recordBy party fun record => { record with calls := record.calls ++ [call] }) call
        exact ⟨by simpa using notices, by simpa using audit⟩

/-- One event writes into the journal of its party what it says. -/
theorem notices_of_yields
    {event : Event}
    (yields : (environment party).Yields event world later) :
    (later.recordOf party).notices =
        (world.recordOf party).notices ++ (event.notice? world.audit.settings).toList ∧
      later.audit = world.audit := by
  cases event with
  | answered call answer =>
      have same := samePages_answer party world call
      rw [show (world.answer party call).2 = later from (Prod.mk.inj yields).2] at same
      exact ⟨by simp [same.notices, Event.notice?], same.audit⟩
  | panicked call panic =>
      have same := samePages_answer party world call
      rw [show (world.answer party call).2 = later from (Prod.mk.inj yields).2] at same
      exact ⟨by simp [same.notices, Event.notice?], same.audit⟩
  | acted action answer =>
      obtain ⟨_, rfl⟩ := Prod.mk.inj yields
      cases action with
      | audit told =>
          simp only [publish, Event.notice?]
          cases world.audit.settings.record? told <;> simp [note]
      | note notice => simp [note, Event.notice?]
      | readFile path => simp [Event.notice?]
      | removeFile path =>
          cases party <;> exact ⟨by simp [Event.notice?, recordOf], rfl⟩
      | finishDownload location =>
          cases party <;> exact ⟨by simp [Event.notice?, recordOf], rfl⟩

/-- A history writes into the journal of its party what its events say, in turn. -/
theorem notices_of_passes
    {history : History}
    (passes : history.Passes (environment party).Yields world later) :
    (later.recordOf party).notices =
        (world.recordOf party).notices ++
          history.filterMap (Event.notice? world.audit.settings) ∧
      later.audit = world.audit := by
  induction history generalizing world with
  | nil => simp [History.passes_nil.mp passes]
  | cons event rest inductionHypothesis =>
      obtain ⟨between, yields, onward⟩ := passes
      obtain ⟨now, same⟩ := notices_of_yields yields
      obtain ⟨afterwards, sameToo⟩ := inductionHypothesis onward
      refine ⟨?_, sameToo.trans same⟩
      rw [afterwards, now, same, List.append_assoc]
      cases written : event.notice? world.audit.settings <;> simp [written]

/-- The journal of a party grows by what the party notes in the course of a program, and by what is
published of what it hands to the audit. -/
theorem notices_of_run
    {α : Type}
    (party : Party)
    (program : Program α)
    (world : World) :
    ((program.run (environment party) world).2.recordOf party).notices =
        (world.recordOf party).notices ++
          (program.history (environment party) world).filterMap
            (Event.notice? world.audit.settings) ∧
      (program.run (environment party) world).2.audit = world.audit :=
  notices_of_passes (Program.passes_run (environment party) program world)

end Scenario.World

end MmsInbox
