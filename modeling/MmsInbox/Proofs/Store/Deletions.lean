import MmsInbox.Proofs.Store.Operations
import MmsInbox.Store.Deletions

namespace MmsInbox

/-!
# What deletions remove that go on side by side

A deletion removes what it finds at the URIs that it has collected. What it has collected was pending for its
location, and marking does not change that; but a row may be inserted in the place of another before the
deletion comes to it. So whatever is removed is pending for the location of the deletion, unless it was
inserted at its URI, or came after such a row, since the URI was collected (`Deletions.removes_pending`). The
exception is real (`Deletions.not_forall_removed_pending`).

A deletion that nobody interferes with is the deletion of the store (`Deletions.run?_alone`).
-/

open NotificationStore

namespace NotificationRow

/-- The row is the other one, up to the status that is recorded. -/
def Continues (row other : NotificationRow) : Prop :=
  row = { other with retrieveStatus := row.retrieveStatus }

variable {row other : NotificationRow}

theorem Continues.refl (row : NotificationRow) : row.Continues row :=
  rfl

/-- A row that goes on as another one is pending where that one is. -/
theorem Continues.isPendingFor_eq
    (continues : row.Continues other)
    (location : String) :
    row.isPendingFor location = other.isPendingFor location := by
  rw [continues]
  rfl

theorem Continues.markedFor
    (continues : row.Continues other)
    (location : String)
    (status : UInt8) :
    (row.markedFor location status).Continues other := by
  unfold NotificationRow.markedFor
  split
  · rw [continues]
    rfl
  · exact continues

end NotificationRow

@[simp] theorem NotificationStore.get?_markAt
    (store : NotificationStore)
    (uri location : String)
    (status : UInt8)
    (other : String) :
    (store.markAt uri location status).get? other =
      if uri = other then (store.get? other).map (·.markedFor location status)
      else store.get? other := by
  simp only [markAt, get?, Std.ExtTreeMap.getElem?_modify, Std.compare_eq_iff_eq]
  split
  · rename_i here
    subst here
    rfl
  · rfl

/-- Those of some URIs at which a row is pending for a location. -/
def NotificationStore.pendingAmong
    (store : NotificationStore)
    (location : String)
    (uris : List String) :
    List String :=
  uris.filter fun uri => (store.get? uri).any (·.isPendingFor location)

/-- Rows may be looked at one by one in order to find those that are to be deleted. -/
theorem NotificationStore.eraseAll_pendingAmong
    (store : NotificationStore)
    (location : String) :
    store.eraseAll (store.pendingAmong location store.rows.keys) =
      store.deletePending location := by
  have collects (uri : String) :
      uri ∈ store.pendingAmong location store.rows.keys ↔ uri ∈ store.pendingUris location := by
    rw [pendingAmong, List.mem_filter, mem_keys_iff, mem_pendingUris]
    cases store.get? uri with
    | none => simp
    | some row => simp
  have remains :
      (store.eraseAll (store.pendingAmong location store.rows.keys)).2 =
        (store.deletePending location).2 := by
    refine ext fun uri => ?_
    rw [deletePending, get?_eraseAll, get?_eraseAll]
    simp only [collects]
  have counts := store.eraseAll_size (store.pendingAmong location store.rows.keys)
  have countsToo := store.deletePending_size location
  rw [remains] at counts
  exact Prod.ext (by omega) remains

namespace Deletions

variable {deletions next : Deletions}

/-- All that can happen to a store, and what it makes of the store, the deletions and the log. -/
inductive Steps (deletions : Deletions) : Move → Deletions → Prop where
  | inserted (row : NotificationRow) :
      Steps deletions (.insert row)
        ⟨deletions.store.insert row, deletions.calls, deletions.log ++ [.inserted row]⟩
  | marked (uri location : String) (status : UInt8) :
      Steps deletions (.mark uri location status)
        ⟨deletions.store.markAt uri location status, deletions.calls, deletions.log⟩
  | begun (location : String) :
      Steps deletions (.begin location)
        ⟨deletions.store, deletions.calls ++ [⟨location, deletions.store.rows.keys, [], 0⟩],
          deletions.log⟩
  | noticed
      {number : Nat}
      {call : Deletion}
      (uri : String)
      (there : deletions.calls[number]? = some call) :
      Steps deletions (.notice number uri)
        ⟨deletions.store,
          deletions.calls.set number { call with unseen := call.unseen ++ [uri] },
          deletions.log⟩
  | passed
      {number place : Nat}
      {call : Deletion}
      {uri : String}
      (there : deletions.calls[number]? = some call)
      (unseen : call.unseen[place]? = some uri)
      (spared :
        ∀ row, deletions.store.get? uri = some row → row.isPendingFor call.location = false) :
      Steps deletions (.look number place)
        ⟨deletions.store,
          deletions.calls.set number { call with unseen := call.unseen.eraseIdx place },
          deletions.log⟩
  | collected
      {number place : Nat}
      {call : Deletion}
      {uri : String}
      {row : NotificationRow}
      (there : deletions.calls[number]? = some call)
      (unseen : call.unseen[place]? = some uri)
      (held : deletions.store.get? uri = some row)
      (pending : row.isPendingFor call.location = true) :
      Steps deletions (.look number place)
        ⟨deletions.store,
          deletions.calls.set number
            { call with
              unseen := call.unseen.eraseIdx place
              collected := call.collected ++ [uri] },
          deletions.log ++ [.collected number call.location uri row]⟩
  | missed
      {number : Nat}
      {call : Deletion}
      {uri : String}
      {later : List String}
      (there : deletions.calls[number]? = some call)
      (looked : call.unseen = [])
      (collected : call.collected = uri :: later)
      (vacant : deletions.store.get? uri = none) :
      Steps deletions (.remove number)
        ⟨deletions.store, deletions.calls.set number { call with collected := later },
          deletions.log⟩
  | removed
      {number : Nat}
      {call : Deletion}
      {uri : String}
      {later : List String}
      {row : NotificationRow}
      (there : deletions.calls[number]? = some call)
      (looked : call.unseen = [])
      (collected : call.collected = uri :: later)
      (held : deletions.store.get? uri = some row) :
      Steps deletions (.remove number)
        ⟨deletions.store.erase uri,
          deletions.calls.set number
            { call with collected := later, removed := call.removed + 1 },
          deletions.log ++ [.removed number call.location uri row]⟩

theorem steps_of_step?
    {move : Move}
    (stepped : deletions.step? move = some next) :
    deletions.Steps move next := by
  cases move with
  | insert row =>
      obtain rfl := Option.some.inj stepped
      exact .inserted row
  | mark uri location status =>
      obtain rfl := Option.some.inj stepped
      exact .marked uri location status
  | begin location =>
      obtain rfl := Option.some.inj stepped
      exact .begun location
  | notice number uri =>
      obtain ⟨call, there, rfl⟩ := Option.map_eq_some_iff.mp stepped
      exact .noticed uri there
  | look number place =>
      obtain ⟨call, there, looked⟩ := Option.bind_eq_some_iff.mp stepped
      obtain ⟨uri, unseen, rfl⟩ := Option.map_eq_some_iff.mp looked
      cases found : (deletions.store.get? uri).filter (·.isPendingFor call.location) with
      | none =>
          refine .passed there unseen fun row held => ?_
          simpa [held, Option.filter] using found
      | some row =>
          obtain ⟨held, pending⟩ := Option.filter_eq_some_iff.mp found
          exact .collected there unseen held pending
  | remove number =>
      obtain ⟨call, there, removed⟩ := Option.bind_eq_some_iff.mp stepped
      split at removed
      case h_2 => cases removed
      case h_1 uri later looked collected =>
        split at removed
        case h_1 vacant =>
          obtain rfl := Option.some.inj removed
          exact .missed there looked collected vacant
        case h_2 row held =>
          obtain rfl := Option.some.inj removed
          exact .removed there looked collected held

section Alone

variable
  (store : NotificationStore)
  (location : String)

/-- Moves may be made in two parts. -/
theorem run?_append
    (first second : List Move)
    (deletions : Deletions) :
    run? (first ++ second) deletions = (run? first deletions).bind (run? second) := by
  induction first generalizing deletions with
  | nil => rfl
  | cons move later inductionHypothesis =>
      rw [List.cons_append, run?, run?, Option.bind_assoc]
      exact congrArg _ (funext inductionHypothesis)

/-- A deletion that looks at all rows without interruption collects the URIs of those that are pending. -/
theorem run?_looks
    (unseen collected : List String)
    (log : List Access) :
    ∃ longer,
      run? (List.replicate unseen.length (.look 0 0))
          ⟨store, [⟨location, unseen, collected, 0⟩], log⟩ =
        some
          ⟨store,
            [⟨location, [], collected ++ store.pendingAmong location unseen, 0⟩], longer⟩ := by
  induction unseen generalizing collected log with
  | nil => exact ⟨log, by simp [run?, pendingAmong]⟩
  | cons uri later inductionHypothesis =>
      cases found : (store.get? uri).filter (·.isPendingFor location) with
      | none =>
          have spared : (store.get? uri).any (·.isPendingFor location) = false := by
            cases held : store.get? uri with
            | none => rfl
            | some row => simpa [held, Option.filter] using found
          obtain ⟨longer, ran⟩ := inductionHypothesis collected log
          refine ⟨longer, ?_⟩
          simpa [run?, step?, look?, found, spared, pendingAmong, List.replicate_succ] using ran
      | some row =>
          obtain ⟨held, pending⟩ := Option.filter_eq_some_iff.mp found
          have taken : (store.get? uri).any (·.isPendingFor location) = true := by
            rw [held, Option.any_some, pending]
          obtain ⟨longer, ran⟩ :=
            inductionHypothesis (collected ++ [uri]) (log ++ [.collected 0 location uri row])
          refine ⟨longer, ?_⟩
          simpa [run?, step?, look?, found, taken, pendingAmong, List.replicate_succ] using ran

/-- A deletion that removes rows without interruption counts those that are there. -/
theorem run?_removals
    (collected : List String)
    (removed : Nat)
    (log : List Access) :
    ∃ longer,
      run? (List.replicate collected.length (.remove 0))
          ⟨store, [⟨location, [], collected, removed⟩], log⟩ =
        some
          ⟨(store.eraseAll collected).2,
            [⟨location, [], [], removed + (store.eraseAll collected).1⟩], longer⟩ := by
  induction collected generalizing store removed log with
  | nil => exact ⟨log, rfl⟩
  | cons uri later inductionHypothesis =>
      cases held : store.get? uri with
      | none =>
          obtain ⟨longer, ran⟩ := inductionHypothesis store removed log
          refine ⟨longer, ?_⟩
          simpa [run?, step?, remove?, held, List.replicate_succ, eraseAll, erase_of_vacant held]
            using ran
      | some row =>
          obtain ⟨longer, ran⟩ :=
            inductionHypothesis (store.erase uri) (removed + 1)
              (log ++ [.removed 0 location uri row])
          refine ⟨longer, ?_⟩
          simpa [run?, step?, remove?, held, List.replicate_succ, eraseAll, Nat.add_assoc,
            Nat.add_comm 1] using ran

/-- A deletion that nobody interferes with does and counts what the deletion of the store does. -/
theorem run?_alone :
    ∃ looks removals log,
      run? (.begin location :: (List.replicate looks (.look 0 0) ++
          List.replicate removals (.remove 0))) (new store) =
        some ⟨(store.deletePending location).2,
          [⟨location, [], [], (store.deletePending location).1⟩], log⟩ := by
  obtain ⟨between, looked⟩ := run?_looks store location store.rows.keys [] []
  obtain ⟨log, removed⟩ :=
    run?_removals store location (store.pendingAmong location store.rows.keys) 0 between
  refine ⟨store.rows.keys.length, (store.pendingAmong location store.rows.keys).length, log, ?_⟩
  rw [run?, step?, Option.bind_some, run?_append]
  change (run? _ ⟨store, [⟨location, store.rows.keys, [], 0⟩], []⟩).bind _ = _
  rw [looked, Option.bind_some, List.nil_append, removed, eraseAll_pendingAmong, Nat.zero_add]

end Alone

/-- The row at a URI was collected by a deletion, as it was pending for its location. If a row is there now, it
is the one that was collected or one that was inserted there since, up to the status that is recorded. -/
def Traced
    (log : List Access)
    (number : Nat)
    (location uri : String)
    (held : Option NotificationRow) :
    Prop :=
  ∃ before found since,
    log = before ++ .collected number location uri found :: since ∧
      found.isPendingFor location = true ∧
      ∀ row ∈ held,
        row.Continues found ∨
          ∃ other, .inserted other ∈ since ∧ other.uri = uri ∧ row.Continues other

/-- Whatever comes next, a row at a URI can be traced back if it goes on as the one before or has just been
inserted. -/
theorem Traced.advance
    {log more : List Access}
    {number : Nat}
    {location uri : String}
    {held later : Option NotificationRow}
    (traced : Traced log number location uri held)
    (goesOn :
      ∀ row ∈ later,
        (∃ before ∈ held, ∀ other, before.Continues other → row.Continues other) ∨
          .inserted row ∈ more ∧ row.uri = uri) :
    Traced (log ++ more) number location uri later := by
  obtain ⟨before, found, since, rfl, pending, sofar⟩ := traced
  refine ⟨before, found, since ++ more, by simp, pending, fun row there => ?_⟩
  rcases goesOn row there with ⟨last, wasThere, same⟩ | ⟨inserted, here⟩
  · rcases sofar last wasThere with original | ⟨other, inserted, here, replaced⟩
    · exact .inl (same found original)
    · exact .inr ⟨other, List.mem_append_left _ inserted, here, same other replaced⟩
  · exact .inr ⟨row, List.mem_append_right _ inserted, here, .refl row⟩

/-- Whatever else happens, a row that is still there can be traced back as before. -/
theorem Traced.append
    {log : List Access}
    {number : Nat}
    {location uri : String}
    {held : Option NotificationRow}
    (traced : Traced log number location uri held)
    (more : List Access) :
    Traced (log ++ more) number location uri held :=
  traced.advance fun row there => .inl ⟨row, there, fun _ => id⟩

/-- The same is true if a row is removed, there or elsewhere. -/
theorem Traced.erase
    {log : List Access}
    {number : Nat}
    {location uri : String}
    {store : NotificationStore}
    (traced : Traced log number location uri (store.get? uri))
    (removed : String)
    (more : List Access) :
    Traced (log ++ more) number location uri ((store.erase removed).get? uri) := by
  refine traced.advance fun row there => .inl ⟨row, ?_, fun _ => id⟩
  rw [get?_erase] at there
  split at there
  · cases there
  · exact there

/-- A row that is collected can be traced back to that. -/
theorem Traced.collected
    (log : List Access)
    (number : Nat)
    {location : String}
    (uri : String)
    {row : NotificationRow}
    (pending : row.isPendingFor location = true) :
    Traced (log ++ [.collected number location uri row]) number location uri (some row) := by
  refine ⟨log, row, [], rfl, pending, fun held same => .inl ?_⟩
  obtain rfl := Option.some.inj same
  exact .refl row

/-- Every removal in a log can be traced back. -/
def Accounted (log : List Access) : Prop :=
  ∀ earlier later number location uri row,
    log = earlier ++ .removed number location uri row :: later →
      Traced earlier number location uri (some row)

/-- A log with one access more accounts for its removals if it did before, and for the last one. -/
theorem Accounted.concat
    {log : List Access}
    {access : Access}
    (accounted : Accounted log)
    (last :
      ∀ number location uri row,
        access = .removed number location uri row →
          Traced log number location uri (some row)) :
    Accounted (log ++ [access]) := by
  intro earlier later number location uri row split
  rcases List.eq_nil_or_concat later with rfl | ⟨later, final, rfl⟩
  · obtain ⟨rfl, same⟩ := List.append_inj' split rfl
    exact last number location uri row (List.singleton_inj.mp same)
  · rw [List.concat_eq_append, ← List.cons_append, ← List.append_assoc] at split
    obtain ⟨same, _⟩ := List.append_inj' split rfl
    exact accounted earlier later number location uri row same

/-- What holds of deletions at all times. -/
structure Sound (deletions : Deletions) : Prop where
  /-- What a deletion has yet to remove can be traced back. -/
  awaited :
    ∀ number call,
      deletions.calls[number]? = some call →
        ∀ uri ∈ call.collected,
          Traced deletions.log number call.location uri (deletions.store.get? uri)
  accounted : Accounted deletions.log

namespace Sound

theorem new (store : NotificationStore) : (Deletions.new store).Sound where
  awaited _ _ there := by cases there
  accounted _ _ _ _ _ _ split := by simp [Deletions.new] at split

/-- What is awaited by a deletion that takes the place of another has to be traced back for that one only. -/
theorem awaited_set
    {number : Nat}
    {call : Deletion}
    {store : NotificationStore}
    {log : List Access}
    (others :
      ∀ other before,
        deletions.calls[other]? = some before →
          ∀ uri ∈ before.collected, Traced log other before.location uri (store.get? uri))
    (own : ∀ uri ∈ call.collected, Traced log number call.location uri (store.get? uri)) :
    ∀ other after,
      (deletions.calls.set number call)[other]? = some after →
        ∀ uri ∈ after.collected, Traced log other after.location uri (store.get? uri) := by
  intro other after there
  rw [List.getElem?_set] at there
  split at there
  · rename_i same
    subst same
    split at there
    · obtain rfl := Option.some.inj there
      exact own
    · cases there
  · exact others other after there

/-- Whatever happens to a store, what deletions remove can be traced back. -/
theorem step
    {move : Move}
    (sound : deletions.Sound)
    (steps : deletions.Steps move next) :
    next.Sound := by
  cases steps with
  | inserted row =>
      refine ⟨fun number call there uri member => ?_, sound.accounted.concat nofun⟩
      refine (sound.awaited number call there uri member).advance fun held found => ?_
      rw [get?_insert] at found
      split at found
      · rename_i here
        obtain rfl := Option.some.inj found
        exact .inr ⟨List.mem_singleton_self _, here⟩
      · exact .inl ⟨held, found, fun _ => id⟩
  | marked uri location status =>
      refine ⟨fun number call there other member => ?_, sound.accounted⟩
      have traced := sound.awaited number call there other member
      rw [← List.append_nil deletions.log]
      refine traced.advance fun held found => .inl ?_
      rw [get?_markAt] at found
      split at found
      · obtain ⟨before, there, rfl⟩ := Option.map_eq_some_iff.mp found
        exact ⟨before, there, fun _ continues => continues.markedFor location status⟩
      · exact ⟨held, found, fun _ => id⟩
  | begun location =>
      refine ⟨fun number call there => ?_, sound.accounted⟩
      rw [List.getElem?_append] at there
      split at there
      · exact sound.awaited number call there
      · obtain rfl := List.mem_singleton.mp (List.mem_of_getElem? there)
        exact fun _ nothing => absurd nothing List.not_mem_nil
  | noticed uri there =>
      have own := sound.awaited _ _ there
      exact ⟨awaited_set sound.awaited own, sound.accounted⟩
  | passed there unseen spared =>
      have own := sound.awaited _ _ there
      exact ⟨awaited_set sound.awaited own, sound.accounted⟩
  | @collected number place call uri row there unseen held pending =>
      refine ⟨awaited_set ?_ ?_, sound.accounted.concat nofun⟩
      · exact fun other before foundToo uri member =>
          (sound.awaited other before foundToo uri member).append _
      · intro other member
        rcases List.mem_append.mp member with before | now
        · exact (sound.awaited number call there other before).append _
        · obtain rfl := List.mem_singleton.mp now
          change Traced _ number call.location other (deletions.store.get? other)
          rw [held]
          exact .collected deletions.log number other pending
  | missed there looked collected vacant =>
      refine ⟨awaited_set sound.awaited fun other member => ?_, sound.accounted⟩
      exact sound.awaited _ _ there other (collected ▸ List.mem_cons_of_mem _ member)
  | @removed number call uri later row there looked collected held =>
      refine ⟨awaited_set ?_ ?_, sound.accounted.concat ?_⟩
      · exact fun other before foundToo uri member =>
          (sound.awaited other before foundToo uri member).erase _ _
      · exact fun other member =>
          (sound.awaited number call there other (collected ▸ List.mem_cons_of_mem _ member)).erase _ _
      · intro _ _ _ _ same
        cases same
        rw [← held]
        exact sound.awaited number call there uri (collected ▸ List.mem_cons_self)

theorem run
    {moves : List Move}
    (sound : deletions.Sound)
    (ran : run? moves deletions = some next) :
    next.Sound := by
  induction moves generalizing deletions with
  | nil =>
      obtain rfl := Option.some.inj ran
      exact sound
  | cons move later inductionHypothesis =>
      obtain ⟨between, stepped, ranOn⟩ := Option.bind_eq_some_iff.mp ran
      exact inductionHypothesis (sound.step (steps_of_step? stepped)) ranOn

end Sound

/-- What is inserted according to the log was inserted before, or is inserted by one of the moves. -/
theorem inserted_of_run?
    {moves : List Move}
    {row : NotificationRow}
    (ran : run? moves deletions = some next)
    (inserted : .inserted row ∈ next.log) :
    .inserted row ∈ deletions.log ∨ .insert row ∈ moves := by
  induction moves generalizing deletions with
  | nil =>
      obtain rfl := Option.some.inj ran
      exact .inl inserted
  | cons move later inductionHypothesis =>
      obtain ⟨between, stepped, ranOn⟩ := Option.bind_eq_some_iff.mp ran
      rcases inductionHypothesis ranOn with before | after
      · cases steps_of_step? stepped with
        | inserted other =>
            rcases List.mem_append.mp before with earlier | now
            · exact .inl earlier
            · cases List.mem_singleton.mp now
              exact .inr List.mem_cons_self
        | marked uri location status => exact .inl before
        | begun location => exact .inl before
        | noticed uri there => exact .inl before
        | passed there unseen spared => exact .inl before
        | collected there unseen held pending => exact .inl (by simpa using before)
        | missed there looked collected vacant => exact .inl before
        | removed there looked collected held => exact .inl (by simpa using before)
      · exact .inr (List.mem_cons_of_mem _ after)

/-- How careful deletions are about what they remove. -/
structure Careful
    (moves : List Move)
    (deletions : Deletions) :
    Prop where
  /-- What is removed was collected, or has been inserted at the same URI since something was collected
  there. -/
  accounted : Accounted deletions.log
  /-- If nothing else is inserted at a URI than rows that are pending for a location, then what is removed
  there for this location is pending for it. -/
  pending :
    ∀ number location uri row,
      .removed number location uri row ∈ deletions.log →
        (∀ other,
          .insert other ∈ moves → other.uri = uri → other.isPendingFor location = true) →
          row.isPendingFor location = true

/-- However deletions, insertions and markings go on side by side, a deletion removes rows that are pending
for its location, except for a row that was inserted in the place of one that it has collected. -/
theorem removes_pending
    (start : NotificationStore)
    {moves : List Move}
    (ran : run? moves (new start) = some deletions) :
    deletions.Careful moves := by
  have accounted := ((Sound.new start).run ran).accounted
  refine ⟨accounted, fun number location uri row removed undisturbed => ?_⟩
  obtain ⟨earlier, later, split⟩ := List.append_of_mem removed
  obtain ⟨before, found, since, shown, pending, sofar⟩ :=
    accounted earlier later number location uri row split
  rcases sofar row rfl with original | ⟨other, inserted, here, replaced⟩
  · rw [original.isPendingFor_eq, pending]
  · have logged : .inserted other ∈ deletions.log := by
      rw [split, shown]
      simp [inserted]
    rcases inserted_of_run? ran logged with nothing | given
    · cases nothing
    · rw [replaced.isPendingFor_eq, undisturbed other given here]

/-- The notification at a URI for a location. -/
def announcementAt (uri location : String) : NotificationRow :=
  ⟨uri, .notification, ⟨"T1", location, none, none⟩, none⟩

/-- A retrieved message takes the place of a notification after a deletion has collected its URI, and then the
deletion goes on. In the meantime a deletion for another location is complete. -/
def overtaken : List Move :=
  [.begin "http://a/1", .begin "http://a/2", .look 0 0, .look 0 0, .look 1 1, .look 1 0, .remove 1,
    .mark "content://mms/1" "http://a/1" 0x80,
    .insert { announcementAt "content://mms/1" "http://a/1" with kind := .retrieval },
    .remove 0]

/-- Notifications for two locations. -/
def twoAnnounced : NotificationStore :=
  (empty.insert (announcementAt "content://mms/1" "http://a/1")).insert
    (announcementAt "content://mms/2" "http://a/2")

/-- The notification for the one location is removed as it was, and a retrieved message in the place of the
other notification. -/
theorem removes_pending_overtaken :
    ∃ deletions,
      run? overtaken (new twoAnnounced) = some deletions ∧
        (deletions.log.filterMap fun
          | .removed number location uri row => some (number, location, uri, row.kind)
          | _ => none) =
          [(1, "http://a/2", "content://mms/2", .notification),
            (0, "http://a/1", "content://mms/1", .retrieval)] ∧
        deletions.Careful overtaken := by
  have final :
      ((run? overtaken (new twoAnnounced)).map fun deletions =>
        deletions.log.filterMap fun
          | .removed number location uri row => some (number, location, uri, row.kind)
          | _ => none) =
        some
          [(1, "http://a/2", "content://mms/2", .notification),
            (0, "http://a/1", "content://mms/1", .retrieval)] := by
    decide +kernel
  obtain ⟨deletions, ran, removed⟩ := Option.map_eq_some_iff.mp final
  exact ⟨deletions, ran, removed, removes_pending twoAnnounced ran⟩

/-- Not everything that a deletion removes is pending for its location. -/
theorem not_forall_removed_pending :
    ¬ ∀ (start : NotificationStore) (moves : List Move) (deletions : Deletions),
      run? moves (new start) = some deletions →
        ∀ number location uri row,
          .removed number location uri row ∈ deletions.log →
            row.isPendingFor location = true := by
  intro pending
  have final :
      ((run? overtaken (new twoAnnounced)).map fun deletions => deletions.log.getLast?) =
        some (some (.removed 0 "http://a/1" "content://mms/1"
          { announcementAt "content://mms/1" "http://a/1" with kind := .retrieval })) := by
    decide +kernel
  obtain ⟨deletions, ran, last⟩ := Option.map_eq_some_iff.mp final
  have removed := List.mem_of_getLast? last
  exact absurd (pending twoAnnounced overtaken deletions ran _ _ _ _ removed) (by decide)

end Deletions

end MmsInbox
