import MmsInbox.Inbox
import MmsInbox.Program.Interleaving
import MmsInbox.Proofs.File.Removal
import MmsInbox.Proofs.Receive.Concerns
import MmsInbox.Proofs.Store.Notifications

namespace MmsInbox

/-!
# Changes that commute

What a run does with an inbox concerns one download: its file, its location, and the notification that it
names (`Event.Concerns`). If two downloads have nothing to do with each other in an inbox
(`Inbox.Apart`), a change for the one shows in nothing that the other is told, and changes for both may
be made in either order. So what happens in two runs for them is independent (`Inbox.independent`).
-/

/-- The change is for nothing but a download, whose message is stored under the given identifier. -/
def Change.Concerns
    (download : Download)
    (fresh : MessageId) :
    Change → Prop
  | .nothing => True
  | .removeFile path => path = download.path
  | .keep id _ => id = fresh
  | .deletePending location => location = download.location
  | .updateRetrieveStatus location _ => location = download.location
  | .finishDownload location => location = download.location

/-- What an event changes; a message is stored under the given identifier. -/
def Event.change (fresh : MessageId) : Event → Change
  | .answered call _ => call.change fresh
  | .panicked _ _ => .nothing
  | .acted action _ => action.change

/-- What concerns a download makes changes for it alone. -/
theorem Event.Concerns.change
    {download : Download}
    {event : Event}
    (concerns : event.Concerns download)
    (fresh : MessageId) :
    (event.change fresh).Concerns download fresh := by
  cases event with
  | answered call answer =>
      cases call with
      | persist record => rfl
      | deletePending location => exact concerns
      | updateRetrieveStatus location status => exact concerns
      | _ => trivial
  | panicked call panic => trivial
  | acted action answer =>
      cases action with
      | removeFile path => exact concerns
      | finishDownload location => exact concerns
      | _ => trivial

namespace MessageStore

/-- A store without bounds has room. -/
theorem persist_of_unbounded
    {store : MessageStore}
    (unbounded : store.capacity = none)
    (fresh : MessageId)
    (record : MessageRecord) :
    store.persist fresh record = .ok { store with messages := store.messages.insert fresh record } := by
  simp [persist, exhausted?, unbounded]

/-- Messages may be stored under two identifiers in either order. -/
theorem insert_comm
    (store : MessageStore)
    {id other : MessageId}
    (different : id ≠ other)
    (record otherRecord : MessageRecord) :
    (store.messages.insert id record).insert other otherRecord =
      (store.messages.insert other otherRecord).insert id record := by
  refine Std.ExtTreeMap.ext_getElem? fun found => ?_
  simp only [Std.ExtTreeMap.getElem?_insert, Std.compare_eq_iff_eq]
  by_cases here : id = found
  · have elsewhere : other ≠ found := fun same => different (here.trans same.symm)
    simp [here, elsewhere]
  · simp [here]

end MessageStore

namespace Downloads

/-- When a location began does not depend on another one being done. -/
theorem finish_finish_fst
    (downloads : Downloads)
    {location other : String}
    (different : location ≠ other) :
    ((downloads.finish other).2.finish location).1 = (downloads.finish location).1 := by
  simp [finish, Std.ExtTreeMap.getElem?_erase, Ne.symm different]

/-- Locations may be done in either order. -/
theorem finish_comm
    (downloads : Downloads)
    (location other : String) :
    ((downloads.finish location).2.finish other).2 =
      ((downloads.finish other).2.finish location).2 := by
  refine congrArg Downloads.mk (Std.ExtTreeMap.ext_getElem? fun found => ?_)
  simp only [finish, Std.ExtTreeMap.getElem?_erase]
  by_cases gone : compare location found = .eq
  · simp [gone]
  · simp [gone]

end Downloads

/-- Keeping a message in a store without bounds. -/
theorem Change.messages_keep
    {store : MessageStore}
    (unbounded : store.capacity = none)
    (id : MessageId)
    (record : MessageRecord) :
    (Change.keep id record).messages store =
      { store with messages := store.messages.insert id record } := by
  simp only [messages, MessageStore.persist_of_unbounded unbounded]

namespace Inbox

/-- Two downloads have nothing to do with each other in an inbox. Neither path leads to the file of the
other or through it, there is room for every message, and neither names a pending row of the other's
location. -/
structure Apart
    (inbox : Inbox)
    (download other : Download) :
    Prop where
  paths : inbox.directory.Apart download.path other.path
  unbounded : inbox.messages.capacity = none
  spared : inbox.notifications.Spares download.notificationUri other.location
  otherSpared : inbox.notifications.Spares other.notificationUri download.location

section Changes

variable
  {inbox : Inbox}
  {download other : Download}
  {fresh otherFresh : MessageId}
  {change otherChange : Change}

theorem Apart.symm (apart : inbox.Apart download other) : inbox.Apart other download :=
  ⟨apart.paths.symm, apart.unbounded, apart.otherSpared, apart.spared⟩

/-- Downloads that have nothing to do with each other have nothing to do with each other after any
change. -/
theorem Apart.make
    (apart : inbox.Apart download other)
    (change : Change) :
    (inbox.make change).Apart download other := by
  obtain ⟨paths, unbounded, spared, otherSpared⟩ := apart
  cases change with
  | removeFile path => exact ⟨paths.remove path, unbounded, spared, otherSpared⟩
  | keep id record =>
      refine ⟨paths, ?_, spared, otherSpared⟩
      simpa only [Inbox.make, Change.messages_keep unbounded] using unbounded
  | deletePending location =>
      exact ⟨paths, unbounded, NotificationStore.spares_deletePending spared location,
        NotificationStore.spares_deletePending otherSpared location⟩
  | updateRetrieveStatus location status =>
      exact ⟨paths, unbounded, NotificationStore.spares_updateRetrieveStatus spared location status,
        NotificationStore.spares_updateRetrieveStatus otherSpared location status⟩
  | nothing => exact ⟨paths, unbounded, spared, otherSpared⟩
  | finishDownload location => exact ⟨paths, unbounded, spared, otherSpared⟩

/-- A change for another download does not show in what is found at the notification of a download. -/
theorem Apart.load_make
    (apart : inbox.Apart download other)
    (concerns : change.Concerns other otherFresh)
    {uri : String}
    (named : download.notificationUri = some uri) :
    (inbox.make change).notifications.load uri = inbox.notifications.load uri := by
  cases change with
  | deletePending location =>
      obtain rfl : location = other.location := concerns
      exact NotificationStore.load_deletePending (named ▸ apart.spared)
  | updateRetrieveStatus location status =>
      exact NotificationStore.load_updateRetrieveStatus _ _ _ _
  | _ => rfl

/-- A change for another location does not show in which rows are pending. -/
theorem pendingUris_make
    (inbox : Inbox)
    (locations : download.location ≠ other.location)
    (concerns : change.Concerns other otherFresh) :
    (inbox.make change).notifications.pendingUris download.location =
      inbox.notifications.pendingUris download.location := by
  cases change with
  | deletePending location =>
      obtain rfl : location = other.location := concerns
      exact NotificationStore.pendingUris_deletePending _ locations
  | updateRetrieveStatus location status =>
      obtain rfl : location = other.location := concerns
      exact NotificationStore.pendingUris_updateRetrieveStatus _ locations status
  | _ => rfl

/-- A change for another download does not show in what a download leads to. -/
theorem Apart.file_make
    (apart : inbox.Apart download other)
    (concerns : change.Concerns other otherFresh) :
    (inbox.make change).directory.file download.path = inbox.directory.file download.path := by
  cases change with
  | removeFile path =>
      obtain rfl : path = other.path := concerns
      exact apart.paths.avoids.file_remove
  | _ => rfl

/-- A change for another download does not show in an answer about a download. -/
theorem Apart.reply_make
    (apart : inbox.Apart download other)
    (locations : download.location ≠ other.location)
    (otherwise : (call : Call) → call.Answer)
    (concerns : change.Concerns other otherFresh)
    {call : Call}
    (asks : call.Concerns download) :
    (inbox.make change).reply otherwise fresh call = inbox.reply otherwise fresh call := by
  cases call with
  | persist record =>
      simp only [reply, MessageStore.persist_of_unbounded apart.unbounded,
        MessageStore.persist_of_unbounded (apart.make change).unbounded]
      rfl
  | load uri => exact apart.load_make concerns asks
  | deletePending location =>
      obtain rfl : location = download.location := asks
      simp only [reply, NotificationStore.deletePending_count,
        pendingUris_make inbox locations concerns]
  | updateRetrieveStatus location status =>
      obtain rfl : location = download.location := asks
      simp only [reply, NotificationStore.updateRetrieveStatus,
        pendingUris_make inbox locations concerns]
  | _ => rfl

/-- A change for another download does not show in what an action for a download yields. -/
theorem Apart.result_make
    (apart : inbox.Apart download other)
    (locations : download.location ≠ other.location)
    (concerns : change.Concerns other otherFresh)
    {action : Action}
    (acts : action.Concerns download) :
    (inbox.make change).result action = inbox.result action := by
  cases action with
  | readFile path =>
      obtain rfl : path = download.path := acts
      exact congrArg (Except.map Prod.snd) (apart.file_make concerns)
  | removeFile path =>
      obtain rfl : path = download.path := acts
      exact File.Directory.remove_fst_congr (apart.file_make concerns)
  | finishDownload location =>
      obtain rfl : location = download.location := acts
      cases change with
      | finishDownload location =>
          obtain rfl : location = other.location := concerns
          exact Downloads.finish_finish_fst _ locations
      | _ => rfl
  | audit event => rfl
  | note notice => rfl

/-- Changes for two downloads may be made in either order. -/
theorem Apart.make_comm
    (apart : inbox.Apart download other)
    (locations : download.location ≠ other.location)
    (identifiers : fresh ≠ otherFresh)
    (concerns : change.Concerns download fresh)
    (otherConcerns : otherChange.Concerns other otherFresh) :
    (inbox.make change).make otherChange = (inbox.make otherChange).make change := by
  -- Two changes can only meet in the same part of the inbox.
  have files :
      otherChange.files (change.files inbox.directory) =
        change.files (otherChange.files inbox.directory) := by
    cases change with
    | removeFile path =>
        cases otherChange with
        | removeFile otherPath =>
            obtain rfl : path = download.path := concerns
            obtain rfl : otherPath = other.path := otherConcerns
            exact apart.paths.remove_comm
        | _ => rfl
    | _ => rfl
  have messages :
      otherChange.messages (change.messages inbox.messages) =
        change.messages (otherChange.messages inbox.messages) := by
    cases change with
    | keep id record =>
        cases otherChange with
        | keep otherId otherRecord =>
            obtain rfl : id = fresh := concerns
            obtain rfl : otherId = otherFresh := otherConcerns
            simp only [Change.messages_keep, apart.unbounded, MessageStore.insert_comm _ identifiers]
        | _ => rfl
    | _ => rfl
  have notifications :
      otherChange.notifications (change.notifications inbox.notifications) =
        change.notifications (otherChange.notifications inbox.notifications) := by
    cases change with
    | deletePending location =>
        cases otherChange with
        | deletePending otherLocation => exact NotificationStore.deletePending_comm _ _ _
        | updateRetrieveStatus otherLocation status =>
            exact NotificationStore.deletePending_updateRetrieveStatus _ _ _ _
        | _ => rfl
    | updateRetrieveStatus location status =>
        cases otherChange with
        | deletePending otherLocation =>
            exact (NotificationStore.deletePending_updateRetrieveStatus _ _ _ _).symm
        | updateRetrieveStatus otherLocation otherStatus =>
            obtain rfl : location = download.location := concerns
            obtain rfl : otherLocation = other.location := otherConcerns
            exact NotificationStore.updateRetrieveStatus_comm _ locations _ _
        | _ => rfl
    | _ => rfl
  have downloads :
      otherChange.downloads (change.downloads inbox.downloads) =
        change.downloads (otherChange.downloads inbox.downloads) := by
    cases change with
    | finishDownload location =>
        cases otherChange with
        | finishDownload otherLocation => exact Downloads.finish_comm _ _ _
        | _ => rfl
    | _ => rfl
  simp only [Inbox.make, files, messages, notifications, downloads]

end Changes

/-- What happens is what an inbox replies to a question, or what an action in it yields. -/
def Gives
    (inbox : Inbox)
    (otherwise : (call : Call) → call.Answer)
    (fresh : MessageId) :
    Event → Prop
  | .answered call answer => answer = inbox.reply otherwise fresh call
  | .panicked _ _ => False
  | .acted action answer => answer = inbox.result action

/-- In an inbox there happens what it gives, and that changes it as it says. -/
theorem yields_iff
    {otherwise : (call : Call) → call.Answer}
    {fresh : MessageId}
    {event : Event}
    {inbox later : Inbox} :
    (environment otherwise fresh).Yields event inbox later ↔
      inbox.Gives otherwise fresh event ∧ later = inbox.make (event.change fresh) := by
  cases event with
  | answered call answer => exact answer_eq_ok_iff
  | panicked call panic =>
      constructor
      · intro yields
        cases yields
      · rintro ⟨impossible, _⟩
        exact impossible.elim
  | acted action answer =>
      simp only [Environment.Yields, environment, Prod.mk.injEq]
      exact and_congr eq_comm eq_comm

section Independence

variable
  {inbox : Inbox}
  {download other : Download}
  {otherwise : (call : Call) → call.Answer}
  {fresh otherFresh : MessageId}

/-- An inbox gives the same about a download after a change for another one. -/
theorem Apart.gives_make
    (apart : inbox.Apart download other)
    (locations : download.location ≠ other.location)
    {event : Event}
    (happens : event.Concerns download)
    {change : Change}
    (concerns : change.Concerns other otherFresh) :
    (inbox.make change).Gives otherwise fresh event ↔ inbox.Gives otherwise fresh event := by
  cases event with
  | answered call answer =>
      simp only [Gives, apart.reply_make locations otherwise concerns happens]
  | panicked call panic => exact Iff.rfl
  | acted action answer => simp only [Gives, apart.result_make locations concerns happens]

/-- What concerns one of two downloads that have nothing to do with each other is independent of what
concerns the other one. -/
theorem independent
    (otherwise : (call : Call) → call.Answer)
    (locations : download.location ≠ other.location)
    (identifiers : fresh ≠ otherFresh) :
    (environment otherwise fresh).Independent (environment otherwise otherFresh)
      (Event.Concerns download) (Event.Concerns other) (Inbox.Apart · download other) where
  ownKept _ yields apart := by
    obtain ⟨_, rfl⟩ := yields_iff.mp yields
    exact apart.make _
  foreignKept _ yields apart := by
    obtain ⟨_, rfl⟩ := yields_iff.mp yields
    exact apart.make _
  meet {event otherEvent inbox between beside} happens otherHappens apart yields otherYields := by
    obtain ⟨given, rfl⟩ := yields_iff.mp yields
    obtain ⟨otherGiven, rfl⟩ := yields_iff.mp otherYields
    have concerns := happens.change fresh
    have otherConcerns := otherHappens.change otherFresh
    refine ⟨(inbox.make (event.change fresh)).make (otherEvent.change otherFresh), ?_, ?_⟩
    · have still := (apart.symm.gives_make (Ne.symm locations) otherHappens concerns).mpr otherGiven
      exact yields_iff.mpr ⟨still, rfl⟩
    · have still := (apart.gives_make locations happens otherConcerns).mpr given
      have swapped := apart.make_comm locations identifiers concerns otherConcerns
      exact yields_iff.mpr ⟨still, swapped⟩

end Independence

end Inbox

end MmsInbox
