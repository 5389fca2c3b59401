import Mathlib.Data.List.Induction
import MmsInbox.Proofs.Store.Notifications

namespace MmsInbox

/-!
# Sequences of operations on a notification store

What a store holds after a sequence of operations can be read off the sequence. A row at a URI was inserted
under that URI, was not replaced and not deleted since, and differs from what was inserted at most in the
retrieve status (`NotificationStore.get?_after_iff`). On the way each operation answers for the rows that are
there, and operations for different locations may change places (`NotificationStore.operates_exactly`).
-/

namespace NotificationStore

/-- A call that a notification store serves. -/
inductive Operation where
  | insert (row : NotificationRow)
  | load (uri : String)
  | deletePending (location : String)
  | updateRetrieveStatus (location : String) (status : UInt8)
  deriving Repr, DecidableEq

/-- What a call returns. -/
inductive Answer where
  | inserted
  | loaded (result : Except StoreError Notification)
  | counted (rows : Nat)

/-- Serve a call. -/
def apply
    (store : NotificationStore) :
    Operation → Answer × NotificationStore
  | .insert row => (.inserted, store.insert row)
  | .load uri => (.loaded (store.load uri), store)
  | .deletePending location =>
      ((store.deletePending location).map .counted id)
  | .updateRetrieveStatus location status =>
      ((store.updateRetrieveStatus location status).map .counted id)

/-- The store after a sequence of calls that began with an empty one. -/
def after (operations : List Operation) : NotificationStore :=
  operations.foldl (fun store operation => (store.apply operation).2) empty

@[simp] theorem after_nil : after [] = empty :=
  rfl

@[simp] theorem after_concat
    (operations : List Operation)
    (operation : Operation) :
    after (operations ++ [operation]) = ((after operations).apply operation).2 :=
  List.foldl_append ..

namespace Operation

/-- The location that an operation is for, if it is for the pending rows of one. -/
def location? : Operation → Option String
  | .insert _ => none
  | .load _ => none
  | .deletePending location => some location
  | .updateRetrieveStatus location _ => some location

/-- What an operation leaves of a row that is stored: nothing if the row is replaced or deleted. -/
def leaves
    (operation : Operation)
    (row : NotificationRow) :
    Option NotificationRow :=
  match operation with
  | .insert other => if other.uri = row.uri then none else some row
  | .load _ => some row
  | .deletePending location => if row.isPendingFor location then none else some row
  | .updateRetrieveStatus location status => some (row.markedFor location status)

end Operation

/-- What a sequence of operations leaves of a row. -/
def remains
    (operations : List Operation)
    (row : NotificationRow) :
    Option NotificationRow :=
  operations.foldlM (fun row operation => operation.leaves row) row

@[simp] theorem remains_nil (row : NotificationRow) : remains [] row = some row :=
  rfl

@[simp] theorem remains_concat
    (operations : List Operation)
    (operation : Operation)
    (row : NotificationRow) :
    remains (operations ++ [operation]) row = (remains operations row).bind operation.leaves := by
  simp [remains, List.foldlM_append]

/-- An operation changes nothing about a row but its retrieve status. -/
theorem eq_of_leaves
    {operation : Operation}
    {row left : NotificationRow}
    (remaining : operation.leaves row = some left) :
    left = { row with retrieveStatus := left.retrieveStatus } := by
  cases operation with
  | insert other =>
      obtain ⟨_, rfl⟩ : other.uri ≠ row.uri ∧ row = left := by
        simpa [Operation.leaves] using remaining
      rfl
  | load uri =>
      obtain rfl : row = left := by simpa [Operation.leaves] using remaining
      rfl
  | deletePending location =>
      obtain ⟨_, rfl⟩ : row.isPendingFor location = false ∧ row = left := by
        simpa [Operation.leaves] using remaining
      rfl
  | updateRetrieveStatus location status =>
      obtain rfl : row.markedFor location status = left := by
        simpa [Operation.leaves] using remaining
      unfold NotificationRow.markedFor
      split <;> rfl

/-- What is left of a row differs from it in the retrieve status at most. -/
theorem eq_of_remains
    {operations : List Operation}
    {row left : NotificationRow}
    (remaining : remains operations row = some left) :
    left = { row with retrieveStatus := left.retrieveStatus } := by
  induction operations using List.reverseRecOn generalizing left with
  | nil =>
      obtain rfl : row = left := by simpa using remaining
      rfl
  | append_singleton operations operation inductionHypothesis =>
      rw [remains_concat, Option.bind_eq_some_iff] at remaining
      obtain ⟨before, earlier, last⟩ := remaining
      have kept := inductionHypothesis earlier
      rw [eq_of_leaves last, kept]

/-- A row of which something is left was not replaced. -/
theorem not_replaced_of_remains
    {operations : List Operation}
    {row left other : NotificationRow}
    (remaining : remains operations row = some left)
    (inserted : .insert other ∈ operations) :
    other.uri ≠ row.uri := by
  induction operations using List.reverseRecOn generalizing left with
  | nil => cases inserted
  | append_singleton operations operation inductionHypothesis =>
      rw [remains_concat, Option.bind_eq_some_iff] at remaining
      obtain ⟨before, earlier, last⟩ := remaining
      rcases List.mem_append.mp inserted with already | now
      · exact inductionHypothesis earlier already
      · obtain rfl := List.mem_singleton.mp now
        have sameUri : before.uri = row.uri := by rw [eq_of_remains earlier]
        have spared : other.uri ≠ before.uri := by
          intro same
          simp [Operation.leaves, same] at last
        rwa [sameUri] at spared

/-- Every row is stored under its own URI. -/
def Keyed (store : NotificationStore) : Prop :=
  ∀ uri row, store.get? uri = some row → row.uri = uri

@[simp] theorem get?_empty (uri : String) : empty.get? uri = none :=
  Std.ExtTreeMap.getElem?_empty

@[simp] theorem get?_insert
    (store : NotificationStore)
    (row : NotificationRow)
    (uri : String) :
    (store.insert row).get? uri = if row.uri = uri then some row else store.get? uri := by
  simp [insert, get?, Std.ExtTreeMap.getElem?_insert]

/-- What is at a URI after an operation was inserted by it or is what it has left. -/
theorem get?_apply_iff
    {store : NotificationStore}
    (keyed : store.Keyed)
    {operation : Operation}
    {uri : String}
    {row : NotificationRow} :
    (store.apply operation).2.get? uri = some row ↔
      (operation = .insert row ∧ row.uri = uri) ∨
        ∃ held, store.get? uri = some held ∧ operation.leaves held = some row := by
  cases operation with
  | insert inserted =>
      by_cases here : inserted.uri = uri
      · have replaced : ∀ held, store.get? uri = some held → held.uri = inserted.uri :=
          fun held there => (keyed uri held there).trans here.symm
        simp only [apply, get?_insert, here, Option.some.injEq, if_true, Operation.insert.injEq]
        refine ⟨fun same => .inl ⟨same, same ▸ here⟩, ?_⟩
        rintro (⟨same, _⟩ | ⟨held, there, left⟩)
        · exact same
        · simp [Operation.leaves, keyed uri held there, here] at left
      · have elsewhere : ∀ held, store.get? uri = some held → inserted.uri ≠ held.uri :=
          fun held there same => here (same.trans (keyed uri held there))
        simp only [apply, get?_insert, here, if_false, Operation.insert.injEq]
        constructor
        · intro held
          exact .inr ⟨row, held, by simp [Operation.leaves, elsewhere row held]⟩
        · rintro (⟨rfl, there⟩ | ⟨held, there, left⟩)
          · exact absurd there here
          · obtain rfl : held = row := by
              simpa [Operation.leaves, elsewhere held there] using left
            exact there
  | load location => simp [apply, Operation.leaves]
  | deletePending location =>
      simp [apply, Operation.leaves, get?_deletePending, Option.filter_eq_some_iff, and_comm]
  | updateRetrieveStatus location status =>
      simp [apply, Operation.leaves, get?_updateRetrieveStatus]

/-- Operations keep rows under their own URIs. -/
theorem Keyed.apply
    {store : NotificationStore}
    (keyed : store.Keyed)
    (operation : Operation) :
    (store.apply operation).2.Keyed := by
  intro uri row stored
  obtain ⟨_, there⟩ | ⟨held, there, left⟩ := (get?_apply_iff keyed).mp stored
  · exact there
  · rw [eq_of_leaves left]
    exact keyed uri held there

theorem keyed_after (operations : List Operation) : (after operations).Keyed := by
  induction operations using List.reverseRecOn with
  | nil =>
      intro uri row stored
      cases (get?_empty uri).symm.trans stored
  | append_singleton operations operation inductionHypothesis =>
      rw [after_concat]
      exact inductionHypothesis.apply operation

/-- What is at a URI after a sequence of operations is what the later ones left of a row that one of them
inserted there. -/
theorem get?_after_iff
    {operations : List Operation}
    {uri : String}
    {row : NotificationRow} :
    (after operations).get? uri = some row ↔
      ∃ earlier inserted later,
        operations = earlier ++ .insert inserted :: later ∧
          inserted.uri = uri ∧
          remains later inserted = some row := by
  induction operations using List.reverseRecOn generalizing row with
  | nil => simp
  | append_singleton operations operation inductionHypothesis =>
      rw [after_concat, get?_apply_iff (keyed_after operations)]
      constructor
      · rintro (⟨rfl, there⟩ | ⟨held, stored, left⟩)
        · exact ⟨operations, row, [], rfl, there, rfl⟩
        · obtain ⟨earlier, inserted, later, rfl, there, remaining⟩ := inductionHypothesis.mp stored
          exact ⟨earlier, inserted, later ++ [operation], by simp, there, by simp [remaining, left]⟩
      · rintro ⟨earlier, inserted, later, split, there, remaining⟩
        -- the insertion is the last operation, or it is one of those before
        rcases List.eq_nil_or_concat later with rfl | ⟨later, last, rfl⟩
        · obtain ⟨rfl, rfl⟩ : operations = earlier ∧ operation = .insert inserted := by
            simpa using List.append_inj' split rfl
          obtain rfl : inserted = row := by simpa using remaining
          exact .inl ⟨rfl, there⟩
        · have lastOfBoth :
              operations ++ [operation] = (earlier ++ .insert inserted :: later) ++ [last] := by
            simpa using split
          obtain ⟨rfl, rfl⟩ :
              operations = earlier ++ .insert inserted :: later ∧ operation = last := by
            simpa using List.append_inj' lastOfBoth rfl
          obtain ⟨held, before, left⟩ : ∃ held, remains later inserted = some held ∧
              operation.leaves held = some row := by
            simpa [Option.bind_eq_some_iff] using remaining
          exact .inr ⟨held, inductionHypothesis.mpr ⟨earlier, inserted, later, rfl, there, before⟩,
            left⟩

/-- The rows that are pending for a location, in the order of their URIs. -/
def pendingRows
    (store : NotificationStore)
    (location : String) :
    List NotificationRow :=
  (store.rows.toList.map Prod.snd).filter (·.isPendingFor location)

/-- There are as many pending rows as URIs of pending rows. -/
theorem length_pendingRows
    (store : NotificationStore)
    (location : String) :
    (store.pendingRows location).length = (store.pendingUris location).length := by
  rw [pendingUris, ← Std.ExtTreeMap.map_fst_toList_eq_keys, Std.ExtTreeMap.toList_filter,
    List.length_map, pendingRows, List.filter_map, List.length_map]
  rfl

theorem Keyed.uris
    {store : NotificationStore}
    (keyed : store.Keyed) :
    store.rows.toList.map (·.2.uri) = store.rows.keys := by
  rw [← Std.ExtTreeMap.map_fst_toList_eq_keys]
  refine List.map_congr_left fun entry stored => ?_
  exact keyed entry.1 entry.2 (Std.ExtTreeMap.mem_toList_iff_getElem?_eq_some.mp stored)

/-- A store holds, each under its own URI, the rows that operations inserted and did not replace or delete. -/
structure Maps
    (store : NotificationStore)
    (operations : List Operation) :
    Prop where
  own : store.Keyed
  distinct : (store.rows.toList.map (·.2.uri)).Nodup
  /-- A row that is there was the last to be inserted at its URI and differs in its status at most. -/
  latest :
    ∀ uri row,
      store.get? uri = some row →
        ∃ earlier inserted later,
          operations = earlier ++ .insert inserted :: later ∧
            inserted.uri = uri ∧
            (∀ other, .insert other ∈ later → other.uri ≠ uri) ∧
            row = { inserted with retrieveStatus := row.retrieveStatus }
  /-- A row is there exactly if the operations after its insertion have left it so. -/
  stored :
    ∀ uri row,
      store.get? uri = some row ↔
        ∃ earlier inserted later,
          operations = earlier ++ .insert inserted :: later ∧
            inserted.uri = uri ∧
            remains later inserted = some row

theorem maps_after (operations : List Operation) : (after operations).Maps operations where
  own := keyed_after operations
  distinct := by
    rw [(keyed_after operations).uris]
    exact Std.ExtTreeMap.nodup_keys
  latest uri row held := by
    obtain ⟨earlier, inserted, later, split, there, remaining⟩ := get?_after_iff.mp held
    refine ⟨earlier, inserted, later, split, there, fun other again => ?_,
      eq_of_remains remaining⟩
    exact there ▸ not_replaced_of_remains remaining again
  stored _ _ := get?_after_iff

/-- A deletion removes the notifications of a location, counts them, and touches nothing else. -/
structure Deletes
    (store : NotificationStore)
    (location : String) :
    Prop where
  spared :
    ∀ uri row,
      (store.deletePending location).2.get? uri = some row ↔
        store.get? uri = some row ∧
          ¬(row.kind = .notification ∧ row.notification.location = location)
  counted : (store.deletePending location).1 = (store.pendingRows location).length
  again :
    (store.deletePending location).2.deletePending location =
      (0, (store.deletePending location).2)

theorem deletes
    (store : NotificationStore)
    (location : String) :
    store.Deletes location where
  spared uri row := by
    rw [get?_deletePending, Option.filter_eq_some_iff, ← NotificationRow.isPendingFor_iff]
    simp
  counted := by rw [deletePending_count, length_pendingRows]
  again := by
    have unchanged := deletePending_deletePending store location
    have accounted := deletePending_size (store.deletePending location).2 location
    rw [unchanged] at accounted
    exact Prod.ext (by simpa using accounted) unchanged

/-- A marking sets the status of the notifications of a location, counts them, and touches nothing else. -/
structure Marks
    (store : NotificationStore)
    (location : String)
    (status : UInt8) :
    Prop where
  marked :
    ∀ uri,
      (store.updateRetrieveStatus location status).2.get? uri =
        (store.get? uri).map fun row =>
          if row.kind = .notification ∧ row.notification.location = location then
            { row with retrieveStatus := some status }
          else row
  counted : (store.updateRetrieveStatus location status).1 = (store.pendingRows location).length

theorem marks
    (store : NotificationStore)
    (location : String)
    (status : UInt8) :
    store.Marks location status where
  marked uri := by
    simp only [get?_updateRetrieveStatus, NotificationRow.markedFor,
      NotificationRow.isPendingFor_iff]
  counted := (length_pendingRows store location).symm

/-- A look-up returns the notification at a URI, or says why there is none, and changes nothing. -/
structure Loads
    (store : NotificationStore)
    (uri : String) :
    Prop where
  found :
    ∀ notification,
      store.load uri = .ok notification ↔
        ∃ row, store.get? uri = some row ∧ row.kind = .notification ∧
          row.notification = notification
  vacant : store.get? uri = none → store.load uri = .error (.notificationNotFound uri)
  otherKind :
    ∀ row,
      store.get? uri = some row → row.kind ≠ .notification →
        store.load uri = .error (.wrongKind uri row.kind.name)
  unchanged : store.apply (.load uri) = (.loaded (store.load uri), store)

theorem loads
    (store : NotificationStore)
    (uri : String) :
    store.Loads uri where
  found _ := load_eq_ok_iff
  vacant nothing := by simp [load, nothing]
  otherKind row held other := by simp [load, held, other]
  unchanged := rfl

/-- Two operations may change places: they leave the same behind and return the same in either order. -/
structure Commutes
    (store : NotificationStore)
    (first second : Operation) :
    Prop where
  state :
    ((store.apply first).2.apply second).2 = ((store.apply second).2.apply first).2
  firstAnswer : ((store.apply second).2.apply first).1 = (store.apply first).1
  secondAnswer : ((store.apply first).2.apply second).1 = (store.apply second).1

/-- An operation for a location answers with the number of rows that are pending there. -/
theorem answer_of_location?
    {operation : Operation}
    {location : String}
    (here : operation.location? = some location)
    (store : NotificationStore) :
    (store.apply operation).1 = .counted (store.pendingUris location).length := by
  cases operation with
  | insert row => cases here
  | load uri => cases here
  | deletePending there =>
      obtain rfl := Option.some.inj here
      exact congrArg Answer.counted (store.deletePending_count there)
  | updateRetrieveStatus there status =>
      obtain rfl := Option.some.inj here
      rfl

/-- An operation for one location does not change which rows are pending for another. -/
theorem pendingUris_apply
    {operation : Operation}
    {location other : String}
    (here : operation.location? = some location)
    (different : location ≠ other)
    (store : NotificationStore) :
    (store.apply operation).2.pendingUris other = store.pendingUris other := by
  cases operation with
  | insert row => cases here
  | load uri => cases here
  | deletePending there =>
      obtain rfl := Option.some.inj here
      exact store.pendingUris_deletePending different.symm
  | updateRetrieveStatus there status =>
      obtain rfl := Option.some.inj here
      exact store.pendingUris_updateRetrieveStatus different.symm status

/-- Operations for different locations leave the same behind in either order. -/
theorem state_of_different
    {first second : Operation}
    {location other : String}
    (firstHere : first.location? = some location)
    (secondThere : second.location? = some other)
    (different : location ≠ other)
    (store : NotificationStore) :
    ((store.apply first).2.apply second).2 = ((store.apply second).2.apply first).2 := by
  cases first with
  | insert row => cases firstHere
  | load uri => cases firstHere
  | deletePending here =>
      cases second with
      | insert row => cases secondThere
      | load uri => cases secondThere
      | deletePending there => exact store.deletePending_comm here there
      | updateRetrieveStatus there status =>
          exact store.deletePending_updateRetrieveStatus status here there
  | updateRetrieveStatus here status =>
      cases second with
      | insert row => cases secondThere
      | load uri => cases secondThere
      | deletePending there =>
          exact (store.deletePending_updateRetrieveStatus status there here).symm
      | updateRetrieveStatus there otherStatus =>
          obtain rfl := Option.some.inj firstHere
          obtain rfl := Option.some.inj secondThere
          exact store.updateRetrieveStatus_comm different status otherStatus

/-- Operations for different locations may change places. -/
theorem commutes_of_different
    {first second : Operation}
    {location other : String}
    (firstHere : first.location? = some location)
    (secondThere : second.location? = some other)
    (different : location ≠ other)
    (store : NotificationStore) :
    store.Commutes first second where
  state := state_of_different firstHere secondThere different store
  firstAnswer := by
    rw [answer_of_location? firstHere, answer_of_location? firstHere,
      pendingUris_apply secondThere different.symm]
  secondAnswer := by
    rw [answer_of_location? secondThere, answer_of_location? secondThere,
      pendingUris_apply firstHere different]

/-- After every sequence of operations a store maps URIs to the rows last inserted there. Deleting and
marking the notifications of a location reach exactly these rows, a look-up finds exactly the notifications,
and operations for different locations may change places. -/
theorem operates_exactly (operations : List Operation) :
    (after operations).Maps operations ∧
      (∀ location, (after operations).Deletes location) ∧
      (∀ location status, (after operations).Marks location status) ∧
      (∀ uri, (after operations).Loads uri) ∧
      ∀ first second location other,
        first.location? = some location → second.location? = some other → location ≠ other →
          (after operations).Commutes first second :=
  ⟨maps_after operations,
    (after operations).deletes,
    (after operations).marks,
    (after operations).loads,
    fun _ _ _ _ firstHere secondThere different =>
      commutes_of_different firstHere secondThere different (after operations)⟩

/-- Two notifications of one location and one of another, of which a row of another kind takes the place. -/
def replacing : List Operation :=
  let row (uri location : String) (kind : MessageType) : Operation :=
    .insert ⟨uri, kind, ⟨"T1", location, none, none⟩, none⟩
  [row "content://mms/1" "http://mmsc/m/1" .notification,
    row "content://mms/2" "http://mmsc/m/1" .notification,
    row "content://mms/3" "http://mmsc/m/2" .notification,
    row "content://mms/3" "http://mmsc/m/1" .retrieval]

/-- Deleting for one location and marking for another, with two rows to be deleted. -/
theorem operates_exactly_replacing :
    ((after replacing).deletePending "http://mmsc/m/1").1 = 2 ∧
      (after replacing).Commutes
        (.deletePending "http://mmsc/m/1")
        (.updateRetrieveStatus "http://mmsc/m/2" 0xE0) :=
  ⟨by decide +kernel,
    (operates_exactly replacing).2.2.2.2 _ _ _ _ rfl rfl (by decide)⟩

end NotificationStore

end MmsInbox
