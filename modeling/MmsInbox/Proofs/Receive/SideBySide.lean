import Mathlib
import MmsInbox.Proofs.Inbox.Commuting
import MmsInbox.Proofs.Receive.Rows

namespace MmsInbox.Receive

/-!
# Runs side by side

All that a run does concerns its own download. So two runs for downloads that have nothing to do with
each other may go on side by side, one question or action of either at a time: whatever the order, each
does what it does alone, and the inbox is left the same (`process_sideBySide`).
-/

open Program

/-- Two runs go on side by side from an inbox, as a schedule says. The message of each is stored under an
identifier of its own. -/
def runSideBySide
    (otherwise : (call : Call) → call.Answer)
    (standard : Subscription)
    (download other : Download)
    (fresh otherFresh : MessageId)
    (inbox : Inbox)
    (schedule : List Side) :
    Option (Duo Inbox Outcome Outcome) :=
  (Duo.start (process standard download) (process standard other) inbox).run?
    (Inbox.environment otherwise fresh) (Inbox.environment otherwise otherFresh) schedule

/-- A run has ended as it ends when it has the inbox to itself: with the same outcome, and after the same
questions, callbacks and acknowledgments among them, with the same answers. -/
structure EndedAsAlone
    (environment : Environment Inbox)
    (standard : Subscription)
    (download : Download)
    (inbox : Inbox)
    (strand : Strand Outcome) :
    Prop where
  outcome :
    ∃ outcome,
      ((process standard download).run environment inbox).1 = .ok outcome ∧
        strand.rest = .done outcome
  record : strand.record = (process standard download).history environment inbox

/-- A run that has ended with its own result has ended as when it is alone. -/
theorem endedAsAlone
    (otherwise : (call : Call) → call.Answer)
    (fresh : MessageId)
    (standard : Subscription)
    (download : Download)
    (inbox : Inbox) :
    EndedAsAlone (Inbox.environment otherwise fresh) standard download inbox
      ⟨ended ((process standard download).run (Inbox.environment otherwise fresh) inbox).1,
        (process standard download).history (Inbox.environment otherwise fresh) inbox⟩ := by
  have calm := Inbox.calm_history otherwise fresh (process standard download) inbox
  obtain ⟨outcome, value, _⟩ := runs_of_calm calm
  refine ⟨⟨outcome, value, ?_⟩, rfl⟩
  rw [value]
  rfl

/-- Two runs for downloads that have nothing to do with each other may be interleaved in any way. The
schedules that bring both to their end are those that give each as many steps as it takes alone, and
after all of them each run has ended as it ends alone, and the inbox is the same. -/
theorem process_sideBySide
    (otherwise : (call : Call) → call.Answer)
    (standard : Subscription)
    {download other : Download}
    {fresh otherFresh : MessageId}
    {inbox : Inbox}
    (locations : download.location ≠ other.location)
    (identifiers : fresh ≠ otherFresh)
    (apart : inbox.Apart download other)
    (schedule : List Side) :
    let environment := Inbox.environment otherwise fresh
    let otherEnvironment := Inbox.environment otherwise otherFresh
    ((∃ duo,
        runSideBySide otherwise standard download other fresh otherFresh inbox schedule = some duo ∧
          duo.hasEnded = true) ↔
      schedule.count .first = ((process standard download).history environment inbox).length ∧
        schedule.count .second =
          ((process standard other).history otherEnvironment inbox).length) ∧
    ∀ duo,
      runSideBySide otherwise standard download other fresh otherFresh inbox schedule = some duo →
      duo.hasEnded = true →
        EndedAsAlone environment standard download inbox duo.first ∧
        EndedAsAlone otherEnvironment standard other inbox duo.second ∧
        duo.state =
          ((process standard other).run otherEnvironment
            ((process standard download).run environment inbox).2).2 := by
  intro environment otherEnvironment
  have independent := Inbox.independent otherwise locations identifiers
  have keeps := process_keepsTo standard download
  have otherKeeps := process_keepsTo standard other
  constructor
  · exact Duo.ends_iff independent keeps otherKeeps apart
  · intro duo ran finished
    obtain rfl := Duo.eq_completed_of_run? independent keeps otherKeeps apart ran finished
    exact ⟨endedAsAlone _ _ _ _ _, endedAsAlone _ _ _ _ _, rfl⟩

/-- One of two finished downloads that arrive together. -/
def earlierGreeting : Download :=
  { filedGreeting with path := "7" }

/-- The other one, of which the fetch was stale. -/
def laterGreeting : Download :=
  { filedGreeting with
    path := "8"
    location := "http://relay.example/8"
    notificationUri := some "content://mms/8"
    status := some ⟨404⟩ }

/-- An inbox with two greetings to take in and the notifications of them. -/
def sharedInbox : Inbox where
  directory := ⟨[(["7"], .file [1, 2]), (["8"], .file [3])]⟩
  messages := .empty none
  notifications :=
    (NotificationStore.empty.insert
      ⟨"content://mms/7", .notification, ⟨"N7", earlierGreeting.location, none, none⟩, none⟩).insert
      ⟨"content://mms/8", .notification, ⟨"N8", laterGreeting.location, none, none⟩, none⟩
  downloads := .empty

theorem apart_sharedInbox : sharedInbox.Apart earlierGreeting laterGreeting where
  paths := by
    have earlierFile : sharedInbox.directory.file "7" = .ok (["7"], [1, 2]) := by cbv
    have laterFile : sharedInbox.directory.file "8" = .ok (["8"], [3]) := by cbv
    exact File.Directory.apart_of_files earlierFile laterFile (by decide)
  unbounded := rfl
  spared given named row held := by
    obtain rfl : "content://mms/7" = given := Option.some.inj named
    have there :
        sharedInbox.notifications.get? "content://mms/7" =
          some (.mk "content://mms/7" .notification ⟨"N7", earlierGreeting.location, none, none⟩ none) := by
      decide
    obtain rfl := Option.some.inj (there.symm.trans held)
    decide
  otherSpared given named row held := by
    obtain rfl : "content://mms/8" = given := Option.some.inj named
    have there :
        sharedInbox.notifications.get? "content://mms/8" =
          some (.mk "content://mms/8" .notification ⟨"N8", laterGreeting.location, none, none⟩ none) := by
      decide
    obtain rfl := Option.some.inj (there.symm.trans held)
    decide

/-- Two greetings, of which the second goes first. -/
theorem process_sideBySide_sharedInbox :
    earlierGreeting.location ≠ laterGreeting.location ∧
    MessageId.ofNat 7 ≠ MessageId.ofNat 8 ∧
    sharedInbox.Apart earlierGreeting laterGreeting ∧
    let environment := Inbox.environment greetingAnswers (.ofNat 7)
    let otherEnvironment := Inbox.environment greetingAnswers (.ofNat 8)
    let schedule :=
      List.replicate
          ((process .standard laterGreeting).history otherEnvironment sharedInbox).length .second ++
        List.replicate
          ((process .standard earlierGreeting).history environment sharedInbox).length .first
    ∃ duo,
      runSideBySide greetingAnswers .standard earlierGreeting laterGreeting (.ofNat 7) (.ofNat 8)
          sharedInbox schedule = some duo ∧
      duo.hasEnded = true ∧
      EndedAsAlone environment .standard earlierGreeting sharedInbox duo.first ∧
      EndedAsAlone otherEnvironment .standard laterGreeting sharedInbox duo.second ∧
      duo.state =
        ((process .standard laterGreeting).run otherEnvironment
          ((process .standard earlierGreeting).run environment sharedInbox).2).2 := by
  have locations : earlierGreeting.location ≠ laterGreeting.location := by decide
  have identifiers : MessageId.ofNat 7 ≠ MessageId.ofNat 8 := by decide
  refine ⟨locations, identifiers, apart_sharedInbox, ?_⟩
  intro environment otherEnvironment schedule
  obtain ⟨ends, alike⟩ :=
    process_sideBySide greetingAnswers .standard locations identifiers apart_sharedInbox schedule
  have steps :
      schedule.count .first =
          ((process .standard earlierGreeting).history environment sharedInbox).length ∧
        schedule.count .second =
          ((process .standard laterGreeting).history otherEnvironment sharedInbox).length := by
    simp [schedule, List.count_append, List.count_replicate]
  obtain ⟨duo, ran, finished⟩ := ends.mpr steps
  exact ⟨duo, ran, finished, alike duo ran finished⟩

end MmsInbox.Receive
