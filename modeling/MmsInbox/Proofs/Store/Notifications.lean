import MmsInbox.Store.Notifications

namespace MmsInbox

/-!
# What operations make of the rows

A notification store is what it holds at each URI (`NotificationStore.ext`), and each operation has one
equation that says what it leaves there. Deleting or marking the pending rows of a location touches these
rows and no others, so operations for different locations do not disturb each other.
-/

namespace NotificationRow

/-- A row is pending for a location if it is a notification for content there. -/
theorem isPendingFor_iff
    {row : NotificationRow}
    {location : String} :
    row.isPendingFor location = true ↔
      row.kind = .notification ∧ row.notification.location = location := by
  simp [isPendingFor]

/-- A row is pending for one location at most. -/
theorem isPendingFor_other
    {row : NotificationRow}
    {location other : String}
    (different : location ≠ other)
    (pending : row.isPendingFor location = true) :
    row.isPendingFor other = false := by
  obtain ⟨_, there⟩ := isPendingFor_iff.mp pending
  simp [isPendingFor, there, different]

/-- The row with a retrieve status recorded, if it is pending for a location. -/
def markedFor
    (row : NotificationRow)
    (location : String)
    (status : UInt8) :
    NotificationRow :=
  if row.isPendingFor location then { row with retrieveStatus := some status } else row

/-- A recorded status does not matter to what a row is pending for. -/
@[simp] theorem isPendingFor_markedFor
    (row : NotificationRow)
    (location other : String)
    (status : UInt8) :
    (row.markedFor location status).isPendingFor other = row.isPendingFor other := by
  unfold markedFor
  split <;> rfl

@[simp] theorem kind_markedFor
    (row : NotificationRow)
    (location : String)
    (status : UInt8) :
    (row.markedFor location status).kind = row.kind := by
  unfold markedFor
  split <;> rfl

@[simp] theorem notification_markedFor
    (row : NotificationRow)
    (location : String)
    (status : UInt8) :
    (row.markedFor location status).notification = row.notification := by
  unfold markedFor
  split <;> rfl

/-- A row that is not pending for a location is not marked for it. -/
theorem markedFor_of_not_pending
    {row : NotificationRow}
    {location : String}
    (elsewhere : row.isPendingFor location = false)
    (status : UInt8) :
    row.markedFor location status = row := by
  simp [markedFor, elsewhere]

/-- A row is marked for one of two locations at most. -/
theorem markedFor_comm
    (row : NotificationRow)
    {location other : String}
    (different : location ≠ other)
    (status otherStatus : UInt8) :
    (row.markedFor location status).markedFor other otherStatus =
      (row.markedFor other otherStatus).markedFor location status := by
  by_cases pending : row.isPendingFor location = true
  · have elsewhere : row.isPendingFor other = false := isPendingFor_other different pending
    rw [markedFor_of_not_pending elsewhere, markedFor_of_not_pending (by simpa using elsewhere)]
  · have elsewhere : row.isPendingFor location = false := by simpa using pending
    rw [markedFor_of_not_pending elsewhere status,
      markedFor_of_not_pending (by simpa using elsewhere) status]

end NotificationRow

namespace NotificationStore

/-- Stores that hold the same at every URI are the same. -/
theorem ext
    {store other : NotificationStore}
    (same : ∀ uri, store.get? uri = other.get? uri) :
    store = other := by
  cases store
  cases other
  exact congrArg NotificationStore.mk (Std.ExtTreeMap.ext_getElem? same)

@[simp] theorem get?_erase
    (store : NotificationStore)
    (uri other : String) :
    (store.erase uri).get? other = if uri = other then none else store.get? other := by
  simp [erase, get?, Std.ExtTreeMap.getElem?_erase]

theorem get?_eraseAll
    (store : NotificationStore)
    (uris : List String)
    (other : String) :
    (store.eraseAll uris).2.get? other =
      if other ∈ uris then none else store.get? other := by
  induction uris generalizing store with
  | nil => rfl
  | cons uri rest inductionHypothesis =>
      have removed := inductionHypothesis (store.erase uri)
      simp only [eraseAll, removed, get?_erase, List.mem_cons]
      by_cases head : uri = other
      · simp [head]
      · simp [head, Ne.symm head]

/-- The URIs that are collected are those of the pending rows. -/
theorem mem_pendingUris
    {store : NotificationStore}
    {location uri : String} :
    uri ∈ store.pendingUris location ↔
      ∃ row, store.get? uri = some row ∧ row.isPendingFor location = true := by
  rw [pendingUris, Std.ExtTreeMap.mem_keys, Std.ExtTreeMap.mem_iff_isSome_getElem?,
    Std.ExtTreeMap.getElem?_filter', Option.isSome_iff_exists]
  simp only [Option.filter_eq_some_iff]
  rfl

/-- Of all rows, only those that are pending for the location are deleted. -/
theorem get?_deletePending
    (store : NotificationStore)
    (location uri : String) :
    (store.deletePending location).2.get? uri =
      (store.get? uri).filter fun row => !row.isPendingFor location := by
  rw [deletePending, get?_eraseAll]
  cases held : store.get? uri with
  | none => simp
  | some row =>
      by_cases pending : row.isPendingFor location = true
      · have collected : uri ∈ store.pendingUris location :=
          mem_pendingUris.mpr ⟨row, held, pending⟩
        simp [collected, Option.filter, pending]
      · have spared : uri ∉ store.pendingUris location := by
          intro collected
          obtain ⟨found, there, isPending⟩ := mem_pendingUris.mp collected
          obtain rfl := Option.some.inj (held.symm.trans there)
          exact pending isPending
        simp [spared, Option.filter, pending]

/-- Of all rows, only those that are pending for the location are marked. -/
theorem get?_updateRetrieveStatus
    (store : NotificationStore)
    (location : String)
    (status : UInt8)
    (uri : String) :
    (store.updateRetrieveStatus location status).2.get? uri =
      (store.get? uri).map (·.markedFor location status) := by
  simp only [updateRetrieveStatus, get?, Std.ExtTreeMap.getElem?_map]
  rfl

/-- As many rows are removed as were there, if no URI is given twice. -/
theorem eraseAll_count
    (store : NotificationStore)
    {uris : List String}
    (distinct : uris.Nodup)
    (held : ∀ uri ∈ uris, (store.get? uri).isSome = true) :
    (store.eraseAll uris).1 = uris.length := by
  induction uris generalizing store with
  | nil => rfl
  | cons uri rest inductionHypothesis =>
      obtain ⟨fresh, restDistinct⟩ := List.nodup_cons.mp distinct
      have restHeld : ∀ other ∈ rest, ((store.erase uri).get? other).isSome = true := by
        intro other member
        have different : uri ≠ other := fun same => fresh (same ▸ member)
        simpa [different] using held other (List.mem_cons_of_mem _ member)
      have removed := inductionHypothesis (store.erase uri) restDistinct restHeld
      simp [eraseAll, removed, held uri List.mem_cons_self]

/-- The count of a deletion is the number of pending rows. -/
theorem deletePending_count
    (store : NotificationStore)
    (location : String) :
    (store.deletePending location).1 = (store.pendingUris location).length := by
  refine eraseAll_count store Std.ExtTreeMap.nodup_keys fun uri member => ?_
  obtain ⟨row, held, _⟩ := mem_pendingUris.mp member
  simp [held]

theorem size_erase_of_held
    {store : NotificationStore}
    {uri : String}
    (held : (store.get? uri).isSome = true) :
    (store.erase uri).size + 1 = store.size := by
  have member : uri ∈ store.rows := Std.ExtTreeMap.mem_iff_isSome_getElem?.mpr held
  have counted : uri ∈ store.rows.keys := Std.ExtTreeMap.mem_keys.mpr member
  have positive := List.length_pos_of_mem counted
  rw [Std.ExtTreeMap.length_keys] at positive
  simp only [size, erase, Std.ExtTreeMap.size_erase, Std.ExtTreeMap.contains_iff_mem.mpr member,
    if_true]
  omega

theorem erase_of_vacant
    {store : NotificationStore}
    {uri : String}
    (vacant : store.get? uri = none) :
    store.erase uri = store := by
  refine ext fun other => ?_
  rw [get?_erase]
  split
  · rename_i same
    exact same ▸ vacant.symm
  · rfl

/-- What is counted on a removal is missing afterwards. -/
theorem eraseAll_size
    (store : NotificationStore)
    (uris : List String) :
    (store.eraseAll uris).1 + (store.eraseAll uris).2.size = store.size := by
  induction uris generalizing store with
  | nil => exact Nat.zero_add _
  | cons uri rest inductionHypothesis =>
      have removed := inductionHypothesis (store.erase uri)
      cases held : store.get? uri with
      | none =>
          rw [erase_of_vacant held] at removed
          simpa [eraseAll, held, erase_of_vacant held] using removed
      | some row =>
          have fewer : (store.erase uri).size + 1 = store.size :=
            size_erase_of_held (by rw [held]; rfl)
          simp only [eraseAll, held, Option.isSome_some, if_true]
          omega

/-- What a deletion counts is missing afterwards. -/
theorem deletePending_size
    (store : NotificationStore)
    (location : String) :
    (store.deletePending location).1 + (store.deletePending location).2.size = store.size :=
  eraseAll_size store _

@[simp] theorem updateRetrieveStatus_size
    (store : NotificationStore)
    (location : String)
    (status : UInt8) :
    (store.updateRetrieveStatus location status).2.size = store.size :=
  Std.ExtTreeMap.size_map

/-- The URIs of the rows that a store has and another one has not. -/
def missing (store other : NotificationStore) : List String :=
  store.rows.keys.filter fun uri => (other.get? uri).isNone

theorem mem_keys_iff
    {store : NotificationStore}
    {uri : String} :
    uri ∈ store.rows.keys ↔ (store.get? uri).isSome = true := by
  rw [Std.ExtTreeMap.mem_keys, Std.ExtTreeMap.mem_iff_isSome_getElem?]
  rfl

/-- Where no rows are added, those that are missing account for the difference in size. -/
theorem length_missing
    {store other : NotificationStore}
    (noneAdded : ∀ uri, store.get? uri = none → other.get? uri = none) :
    (store.missing other).length + other.size = store.size := by
  have sameKeys :
      (store.rows.keys.filter fun uri => (other.get? uri).isSome).Perm other.rows.keys := by
    refine (List.perm_ext_iff_of_nodup (Std.ExtTreeMap.nodup_keys.filter _)
      Std.ExtTreeMap.nodup_keys).mpr fun uri => ?_
    rw [List.mem_filter, mem_keys_iff, mem_keys_iff]
    refine ⟨And.right, fun there => ⟨?_, there⟩⟩
    cases held : store.get? uri with
    | some row => rfl
    | none => rw [noneAdded uri held] at there; cases there
  have parts := List.length_eq_countP_add_countP (fun uri => (other.get? uri).isSome)
    (l := store.rows.keys)
  simp only [List.countP_eq_length_filter, sameKeys.length_eq, Std.ExtTreeMap.length_keys,
    Bool.not_eq_true, Option.isSome_eq_false_iff, Bool.decide_eq_true] at parts
  rw [missing, size, size]
  omega

/-- Stores with the same pending rows have the same URIs of pending rows. -/
theorem pendingUris_congr
    {store other : NotificationStore}
    {location : String}
    (same :
      ∀ uri,
        (store.get? uri).filter (·.isPendingFor location) =
          (other.get? uri).filter (·.isPendingFor location)) :
    store.pendingUris location = other.pendingUris location := by
  have sameRows :
      (store.rows.filter fun _ row => row.isPendingFor location) =
        other.rows.filter fun _ row => row.isPendingFor location := by
    refine Std.ExtTreeMap.ext_getElem? fun uri => ?_
    rw [Std.ExtTreeMap.getElem?_filter', Std.ExtTreeMap.getElem?_filter']
    exact same uri
  rw [pendingUris, pendingUris, sameRows]

/-- A deletion leaves nothing that a second one could delete. -/
theorem deletePending_deletePending
    (store : NotificationStore)
    (location : String) :
    ((store.deletePending location).2.deletePending location).2 =
      (store.deletePending location).2 := by
  refine ext fun uri => ?_
  simp only [get?_deletePending, Option.filter_filter, Bool.and_self]

/-- A deletion leaves nothing of a marking. -/
theorem deletePending_markings
    (store : NotificationStore)
    (location : String)
    (status : UInt8) :
    ((store.updateRetrieveStatus location status).2.deletePending location).2 =
      (store.deletePending location).2 := by
  refine ext fun uri => ?_
  simp only [get?_deletePending, get?_updateRetrieveStatus]
  cases store.get? uri with
  | none => rfl
  | some row =>
      by_cases pending : row.isPendingFor location = true
      · simp [Option.filter, pending]
      · simp [Option.filter, pending, NotificationRow.markedFor]

section OtherLocation

variable
  (store : NotificationStore)
  {location other : String}
  (different : location ≠ other)
  (status otherStatus : UInt8)

include different

/-- Deleting for another location does not change which rows are pending. -/
theorem pendingUris_deletePending :
    (store.deletePending other).2.pendingUris location = store.pendingUris location := by
  refine pendingUris_congr fun uri => ?_
  rw [get?_deletePending]
  cases store.get? uri with
  | none => rfl
  | some row =>
      by_cases pending : row.isPendingFor location = true
      · simp [Option.filter, pending, NotificationRow.isPendingFor_other different pending]
      · by_cases gone : row.isPendingFor other = true <;> simp [Option.filter, pending, gone]

/-- Marking for another location does not change which rows are pending. -/
theorem pendingUris_updateRetrieveStatus :
    (store.updateRetrieveStatus other otherStatus).2.pendingUris location =
      store.pendingUris location := by
  refine pendingUris_congr fun uri => ?_
  rw [get?_updateRetrieveStatus]
  cases store.get? uri with
  | none => rfl
  | some row =>
      by_cases pending : row.isPendingFor location = true
      · have elsewhere := NotificationRow.isPendingFor_other different pending
        simp [NotificationRow.markedFor_of_not_pending elsewhere]
      · simp [Option.filter, pending]

omit different in
/-- Deletions may be made in either order. -/
theorem deletePending_comm (location other : String) :
    ((store.deletePending location).2.deletePending other).2 =
      ((store.deletePending other).2.deletePending location).2 := by
  refine ext fun uri => ?_
  simp only [get?_deletePending, Option.filter_filter, Bool.and_comm]

omit different in
/-- A deletion and a marking may be made in either order. -/
theorem deletePending_updateRetrieveStatus (location other : String) :
    ((store.deletePending location).2.updateRetrieveStatus other status).2 =
      ((store.updateRetrieveStatus other status).2.deletePending location).2 := by
  refine ext fun uri => ?_
  simp only [get?_deletePending, get?_updateRetrieveStatus]
  cases store.get? uri with
  | none => rfl
  | some row => by_cases gone : row.isPendingFor location = true <;> simp [Option.filter, gone]

/-- Markings for different locations may be made in either order. -/
theorem updateRetrieveStatus_comm :
    ((store.updateRetrieveStatus location status).2.updateRetrieveStatus other otherStatus).2 =
      ((store.updateRetrieveStatus other otherStatus).2.updateRetrieveStatus location status).2 := by
  refine ext fun uri => ?_
  simp only [get?_updateRetrieveStatus, Option.map_map]
  exact congrArg (Option.map · (store.get? uri)) (funext fun row =>
    row.markedFor_comm different status otherStatus)

end OtherLocation

/-- What a look-up finds depends on the row at the URI alone, and not on its retrieve status. -/
theorem load_congr
    {store other : NotificationStore}
    {uri : String}
    (same :
      (store.get? uri).map (fun row => (row.kind, row.notification)) =
        (other.get? uri).map fun row => (row.kind, row.notification)) :
    store.load uri = other.load uri := by
  unfold load
  cases held : store.get? uri with
  | none =>
      cases found : other.get? uri with
      | none => rfl
      | some row => simp [held, found] at same
  | some row =>
      cases found : other.get? uri with
      | none => simp [held, found] at same
      | some there =>
          obtain ⟨sameKind, sameNotification⟩ :
              row.kind = there.kind ∧ row.notification = there.notification := by
            simpa [held, found] using same
          simp only [sameKind, sameNotification]

/-- The notification at a URI, if one is given, is not a pending row of a location. -/
def Spares
    (store : NotificationStore)
    (uri : Option String)
    (location : String) :
    Prop :=
  ∀ given ∈ uri, ∀ row, store.get? given = some row →
    ¬(row.kind = .notification ∧ row.notification.location = location)

theorem spares_deletePending
    {store : NotificationStore}
    {uri : Option String}
    {location : String}
    (spares : store.Spares uri location)
    (deleted : String) :
    (store.deletePending deleted).2.Spares uri location := by
  intro given named row held
  rw [get?_deletePending, Option.filter_eq_some_iff] at held
  exact spares given named row held.1

theorem spares_updateRetrieveStatus
    {store : NotificationStore}
    {uri : Option String}
    {location : String}
    (spares : store.Spares uri location)
    (marked : String)
    (status : UInt8) :
    (store.updateRetrieveStatus marked status).2.Spares uri location := by
  intro given named row held
  rw [get?_updateRetrieveStatus, Option.map_eq_some_iff] at held
  obtain ⟨before, there, rfl⟩ := held
  rw [NotificationRow.kind_markedFor, NotificationRow.notification_markedFor]
  exact spares given named before there

/-- Deleting the pending rows of a location does not change what is found at a spared URI. -/
theorem load_deletePending
    {store : NotificationStore}
    {uri location : String}
    (spares : store.Spares (some uri) location) :
    (store.deletePending location).2.load uri = store.load uri := by
  refine load_congr ?_
  rw [get?_deletePending]
  cases held : store.get? uri with
  | none => rfl
  | some row =>
      have other : row.isPendingFor location = false := by
        rw [← Bool.not_eq_true, NotificationRow.isPendingFor_iff]
        exact spares uri rfl row held
      simp [Option.filter, other]

/-- Marking rows does not change what is found. -/
theorem load_updateRetrieveStatus
    (store : NotificationStore)
    (location uri : String)
    (status : UInt8) :
    (store.updateRetrieveStatus location status).2.load uri = store.load uri := by
  refine load_congr ?_
  rw [get?_updateRetrieveStatus, Option.map_map]
  exact congrArg (Option.map · (store.get? uri)) (funext fun row => by simp)

/-- A look-up finds a notification exactly if a row of that kind is there. -/
theorem load_eq_ok_iff
    {store : NotificationStore}
    {uri : String}
    {notification : Notification} :
    store.load uri = .ok notification ↔
      ∃ row, store.get? uri = some row ∧ row.kind = .notification ∧
        row.notification = notification := by
  unfold load
  cases held : store.get? uri with
  | none => simp
  | some row => by_cases kind : row.kind = .notification <;> simp [kind]

end NotificationStore

end MmsInbox
