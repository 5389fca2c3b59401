import Mathlib.Data.List.Induction
import Mathlib.Data.List.Nodup
import Mathlib.Data.List.Perm.Basic
import MmsInbox.Store.Deliveries

namespace MmsInbox

/-!
# Nothing is lost or overwritten in a message store

As long as no identifier is given twice, a message store holds what it has accepted and nothing else
(`MessageStore.Holds`): each message is found under its identifier, and the list of all messages names it
once. A store accepts messages until it has reached its capacity, and a message it refuses leaves no trace.
That is so however the callers of the store take turns, and for a monitored store that fails on demand
(`MessageStore.keeps_everything`).
-/

namespace MessageStore

variable {store fuller : MessageStore}

/-- A store keeps a message if it has room for one more. -/
theorem persist_eq_ok_iff
    {fresh : MessageId}
    {record : MessageRecord} :
    store.persist fresh record = .ok fuller ↔
      (∀ limit, store.capacity = some limit → store.size < limit) ∧
        fuller = { store with messages := store.messages.insert fresh record } := by
  cases bounded : store.capacity with
  | none => simp [persist, exhausted?, bounded, eq_comm]
  | some limit =>
      by_cases full : limit ≤ store.size
      · simp [persist, exhausted?, bounded, Option.filter, full, Nat.not_lt.mpr full]
      · simp [persist, exhausted?, bounded, Option.filter, full, Nat.lt_of_not_le full, eq_comm]

/-- A store refuses a message if it has reached its capacity, and says so. -/
theorem persist_eq_error_iff
    {fresh : MessageId}
    {record : MessageRecord}
    {error : StoreError} :
    store.persist fresh record = .error error ↔
      ∃ limit, store.capacity = some limit ∧ limit ≤ store.size ∧
        error = .capacityExceeded store.size limit := by
  cases bounded : store.capacity with
  | none => simp [persist, exhausted?, bounded]
  | some limit =>
      by_cases full : limit ≤ store.size
      · simp [persist, exhausted?, bounded, Option.filter, full, eq_comm]
      · simp [persist, exhausted?, bounded, Option.filter, full]

/-- The list of all messages is in the order of their identifiers. -/
theorem toList_ordered (store : MessageStore) :
    store.toList.Pairwise fun first second => first.1.value < second.1.value := by
  refine Std.ExtTreeMap.ordered_keys_toList.imp fun {first second} before => ?_
  have values : compare first.1.value.val second.1.value.val = .lt := before
  exact Nat.compare_eq_lt.mp values

/-- The list of all messages names what is found under the identifiers. -/
theorem mem_toList_iff
    {id : MessageId}
    {record : MessageRecord} :
    (id, record) ∈ store.toList ↔ store.get? id = some record :=
  Std.ExtTreeMap.mem_toList_iff_getElem?_eq_some

/-- A store holds exactly the given messages, each under an identifier of its own. -/
structure Holds
    (store : MessageStore)
    (entries : List (MessageId × MessageRecord)) :
    Prop where
  found : ∀ id record, store.get? id = some record ↔ (id, record) ∈ entries
  distinct : (entries.map Prod.fst).Nodup

namespace Holds

variable {entries : List (MessageId × MessageRecord)}

theorem empty (capacity : Option Nat) : (MessageStore.empty capacity).Holds [] where
  found id record := by simp [MessageStore.empty, get?]
  distinct := List.nodup_nil

theorem clear (store : MessageStore) : store.clear.Holds [] where
  found id record := by simp [MessageStore.clear, get?]
  distinct := List.nodup_nil

/-- The list of all messages names each message that is held once. -/
theorem listed (holds : store.Holds entries) : store.toList.Perm entries := by
  have once : store.toList.Nodup :=
    store.toList_ordered.imp fun {first second} before same => by
      subst same
      exact Nat.lt_irrefl _ before
  refine (List.perm_ext_iff_of_nodup once (List.Nodup.of_map _ holds.distinct)).mpr ?_
  rintro ⟨id, record⟩
  rw [mem_toList_iff, holds.found]

theorem counted (holds : store.Holds entries) : store.size = entries.length := by
  rw [← holds.listed.length_eq]
  exact Std.ExtTreeMap.length_toList.symm

/-- A message that is kept under a fresh identifier is held besides all others. -/
theorem persist
    (holds : store.Holds entries)
    {fresh : MessageId}
    {record : MessageRecord}
    (unused : fresh ∉ entries.map Prod.fst)
    (kept : store.persist fresh record = .ok fuller) :
    fuller.Holds (entries ++ [(fresh, record)]) where
  found id other := by
    obtain ⟨_, rfl⟩ := persist_eq_ok_iff.mp kept
    simp only [get?, Std.ExtTreeMap.getElem?_insert, Std.compare_eq_iff_eq, List.mem_append,
      List.mem_singleton, Prod.mk.injEq]
    by_cases here : fresh = id
    · have notBefore : (id, other) ∉ entries :=
        fun before => unused (here ▸ List.mem_map_of_mem before)
      simp [here, notBefore, eq_comm]
    · rw [if_neg here]
      simpa [Ne.symm here, get?] using holds.found id other
  distinct := by
    rw [List.map_append, List.nodup_append]
    refine ⟨holds.distinct, by simp, fun id before other last => ?_⟩
    obtain rfl : other = fresh := by simpa using last
    exact fun same => unused (same ▸ before)

end Holds

end MessageStore

namespace Deliveries

/-- The deliveries that begin in a sequence of moves. -/
def begun (moves : List Move) : List Delivery :=
  moves.filterMap Move.begun?

variable {deliveries next : Deliveries} {capacity : Option Nat} {earlier : List Delivery}

/-- The store holds what its callers believe to be stored and is within its capacity. Whatever has begun is
under way or over. -/
structure Sound
    (deliveries : Deliveries)
    (capacity : Option Nat)
    (earlier : List Delivery) :
    Prop where
  holds : deliveries.store.Holds deliveries.stored
  limited : deliveries.store.capacity = capacity
  within : ∀ limit, capacity = some limit → deliveries.store.size ≤ limit
  accounted : (deliveries.underWay ++ deliveries.finished.map Delivered.delivery).Perm earlier
  named :
    ∀ delivered ∈ deliveries.finished, ∀ id,
      delivered.result = .ok id → id = delivered.delivery.id

namespace Sound

theorem new (capacity : Option Nat) : (Deliveries.new capacity).Sound capacity [] where
  holds := .empty capacity
  limited := rfl
  within limit _ := by simp [Deliveries.new, MessageStore.empty, MessageStore.size]
  accounted := .nil
  named _ nothing := by cases nothing

/-- What is stored has an identifier of a delivery that is over. -/
theorem mem_ids
    (sound : deliveries.Sound capacity earlier)
    {id : MessageId}
    (member : id ∈ deliveries.stored.map Prod.fst) :
    id ∈ deliveries.finished.map (·.delivery.id) := by
  obtain ⟨⟨_, record⟩, stored, rfl⟩ := List.mem_map.mp member
  obtain ⟨delivered, finished, entry⟩ := List.mem_filterMap.mp stored
  refine List.mem_map.mpr ⟨delivered, finished, ?_⟩
  unfold Delivered.entry? at entry
  split at entry
  · rename_i id result
    have sameId : id = _ := congrArg Prod.fst (Option.some.inj entry)
    exact (sound.named delivered finished id result).symm.trans sameId
  · cases entry

/-- A delivery under way has an identifier under which nothing is stored. -/
theorem unused
    (sound : deliveries.Sound capacity earlier)
    (distinct : (earlier.map Delivery.id).Nodup)
    {delivery : Delivery}
    (waiting : delivery ∈ deliveries.underWay) :
    delivery.id ∉ deliveries.stored.map Prod.fst := by
  intro stored
  have apart := (sound.accounted.map Delivery.id).nodup_iff.mpr distinct
  rw [List.map_append, List.map_map, List.nodup_append] at apart
  exact apart.2.2 _ (List.mem_map_of_mem waiting) _ (sound.mem_ids stored) rfl

end Sound

/-- What a turn comes to: in a full store the message is refused, and otherwise it is kept. -/
theorem turn_cases
    (deliveries : Deliveries)
    (delivery : Delivery) :
    (∃ limit, deliveries.store.capacity = some limit ∧ limit ≤ deliveries.store.size ∧
      deliveries.turn delivery =
        { deliveries with
          finished := deliveries.finished ++
            [⟨delivery, .error (.capacityExceeded deliveries.store.size limit)⟩] }) ∨
    (∃ fuller, deliveries.store.persist delivery.id delivery.record = .ok fuller ∧
      deliveries.turn delivery =
        { deliveries with
          store := fuller
          finished := deliveries.finished ++ [⟨delivery, .ok delivery.id⟩] }) := by
  cases result : deliveries.store.persist delivery.id delivery.record with
  | error error =>
      obtain ⟨limit, bounded, full, rfl⟩ := MessageStore.persist_eq_error_iff.mp result
      exact .inl ⟨limit, bounded, full, by simp [turn, result]⟩
  | ok fuller => exact .inr ⟨fuller, rfl, by simp [turn, result]⟩

namespace Sound

/-- Whatever the answer, a delivery that has its turn goes from those under way to those that are over. -/
theorem accounted_turn
    (sound : deliveries.Sound capacity earlier)
    {number : Nat}
    {delivery : Delivery}
    (waiting : deliveries.underWay[number]? = some delivery)
    (result : Except StoreError MessageId) :
    (deliveries.underWay.eraseIdx number ++
      (deliveries.finished ++ [Delivered.mk delivery result]).map Delivered.delivery).Perm
        earlier := by
  obtain ⟨inside, rfl⟩ := List.getElem?_eq_some_iff.mp waiting
  rw [List.map_append, ← List.append_assoc]
  refine (List.perm_append_singleton _ _).trans ?_
  exact ((List.getElem_cons_eraseIdx_perm inside).append_right _).trans sound.accounted

theorem named_turn
    (sound : deliveries.Sound capacity earlier)
    {delivery : Delivery}
    {result : Except StoreError MessageId}
    (named : ∀ id, result = .ok id → id = delivery.id) :
    ∀ delivered ∈ deliveries.finished ++ [Delivered.mk delivery result], ∀ id,
      delivered.result = .ok id → id = delivered.delivery.id := by
  intro delivered finished id answered
  rcases List.mem_append.mp finished with before | last
  · exact sound.named delivered before id answered
  · obtain rfl := List.mem_singleton.mp last
    exact named id answered

/-- A message that is refused leaves the store as it was. -/
theorem refuse
    (sound : deliveries.Sound capacity earlier)
    {number : Nat}
    {delivery : Delivery}
    (waiting : deliveries.underWay[number]? = some delivery)
    (error : StoreError) :
    Sound
      ⟨deliveries.store, deliveries.underWay.eraseIdx number,
        deliveries.finished ++ [⟨delivery, .error error⟩]⟩
      capacity earlier where
  holds := by simpa [stored, List.filterMap_cons, Delivered.entry?] using sound.holds
  limited := sound.limited
  within := sound.within
  accounted := sound.accounted_turn waiting _
  named := sound.named_turn nofun

/-- A message that is kept under a fresh identifier takes the place that was left for it. -/
theorem keep
    (sound : deliveries.Sound capacity earlier)
    (distinct : (earlier.map Delivery.id).Nodup)
    {number : Nat}
    {delivery : Delivery}
    (waiting : deliveries.underWay[number]? = some delivery)
    {fuller : MessageStore}
    (kept : deliveries.store.persist delivery.id delivery.record = .ok fuller) :
    Sound
      ⟨fuller, deliveries.underWay.eraseIdx number,
        deliveries.finished ++ [⟨delivery, .ok delivery.id⟩]⟩
      capacity earlier := by
  have unused := sound.unused distinct (List.mem_of_getElem? waiting)
  have holds := sound.holds.persist unused kept
  refine ⟨?_, ?_, ?_, sound.accounted_turn waiting _, sound.named_turn ?_⟩
  · simpa [stored, List.filterMap_cons, Delivered.entry?] using holds
  · obtain ⟨_, rfl⟩ := MessageStore.persist_eq_ok_iff.mp kept
    exact sound.limited
  · intro limit bounded
    have room := (MessageStore.persist_eq_ok_iff.mp kept).1 limit (sound.limited.trans bounded)
    have grown : fuller.size = deliveries.store.size + 1 := by
      rw [holds.counted, sound.holds.counted, List.length_append, List.length_singleton]
    exact grown ▸ room
  · exact fun id same => (Except.ok.inj same).symm

/-- A turn keeps the store sound. -/
theorem turn
    (sound : deliveries.Sound capacity earlier)
    (distinct : (earlier.map Delivery.id).Nodup)
    {number : Nat}
    {delivery : Delivery}
    (waiting : deliveries.underWay[number]? = some delivery) :
    Sound
      { deliveries.turn delivery with underWay := deliveries.underWay.eraseIdx number }
      capacity earlier := by
  obtain ⟨limit, _, _, result⟩ | ⟨fuller, kept, result⟩ := deliveries.turn_cases delivery
  · rw [result]
    exact sound.refuse waiting _
  · rw [result]
    exact sound.keep distinct waiting kept

end Sound

/-- Whatever happens among the callers keeps the store sound. -/
theorem Sound.step
    (sound : deliveries.Sound capacity earlier)
    {move : Move}
    (distinct : ((earlier ++ begun [move]).map Delivery.id).Nodup)
    (stepped : deliveries.step? move = some next) :
    next.Sound capacity (earlier ++ begun [move]) := by
  cases move with
  | begin delivery =>
      obtain rfl := Option.some.inj stepped
      refine ⟨sound.holds, sound.limited, sound.within, ?_, sound.named⟩
      have oneMore := sound.accounted.append_right [delivery]
      refine List.Perm.trans ?_ oneMore
      rw [List.append_assoc, List.append_assoc]
      exact List.perm_append_comm.append_left _
  | turn number =>
      obtain ⟨delivery, waiting, rfl⟩ := Option.map_eq_some_iff.mp stepped
      simp only [begun, List.filterMap_cons, Move.begun?, List.filterMap_nil,
        List.append_nil] at distinct ⊢
      exact sound.turn distinct waiting

/-- The store is sound after every run of its callers. -/
theorem Sound.run
    (sound : deliveries.Sound capacity earlier)
    {moves : List Move}
    (distinct : ((earlier ++ begun moves).map Delivery.id).Nodup)
    (reached : run? moves deliveries = some next) :
    next.Sound capacity (earlier ++ begun moves) := by
  induction moves generalizing deliveries earlier with
  | nil =>
      obtain rfl := Option.some.inj reached
      simpa [begun] using sound
  | cons move later inductionHypothesis =>
      obtain ⟨between, stepped, rest⟩ := Option.bind_eq_some_iff.mp reached
      have split : begun (move :: later) = begun [move] ++ begun later :=
        List.filterMap_append (l := [move])
      rw [split, ← List.append_assoc] at distinct ⊢
      have sofar : ((earlier ++ begun [move]).map Delivery.id).Nodup := by
        rw [List.map_append] at distinct
        exact distinct.of_append_left
      exact inductionHypothesis (sound.step sofar stepped) distinct rest

/-- A store among its callers loses and overwrites nothing. -/
structure Keeps
    (deliveries : Deliveries)
    (capacity : Option Nat) :
    Prop where
  /-- There is one message for each delivery that succeeded. -/
  counted : deliveries.store.size = deliveries.stored.length
  bounded : ∀ limit, capacity = some limit → deliveries.store.size ≤ limit
  /-- A store that has reached its capacity says so and does not change. -/
  refuses :
    ∀ delivery,
      capacity = some deliveries.store.size →
        deliveries.turn delivery =
          { deliveries with
            finished := deliveries.finished ++
              [⟨delivery,
                .error (.capacityExceeded deliveries.store.size deliveries.store.size)⟩] }
  accepts :
    ∀ delivery,
      capacity ≠ some deliveries.store.size →
        (deliveries.turn delivery).finished = deliveries.finished ++ [⟨delivery, .ok delivery.id⟩]
  found :
    ∀ delivery id,
      ⟨delivery, .ok id⟩ ∈ deliveries.finished →
        deliveries.store.get? id = some delivery.record
  listed : deliveries.store.toList.Perm deliveries.stored
  ordered :
    deliveries.store.toList.Pairwise fun first second => first.1.value < second.1.value

theorem Sound.keeps (sound : deliveries.Sound capacity earlier) : deliveries.Keeps capacity where
  counted := sound.holds.counted
  bounded := sound.within
  refuses delivery reached := by
    obtain ⟨limit, bounded, _, result⟩ | ⟨fuller, kept, _⟩ := deliveries.turn_cases delivery
    · obtain rfl : deliveries.store.size = limit :=
        Option.some.inj (reached.symm.trans (sound.limited.symm.trans bounded))
      exact result
    · have room := (MessageStore.persist_eq_ok_iff.mp kept).1 _ (sound.limited.trans reached)
      exact absurd room (Nat.lt_irrefl _)
  accepts delivery notReached := by
    obtain ⟨limit, bounded, full, _⟩ | ⟨fuller, _, result⟩ := deliveries.turn_cases delivery
    · have limited : capacity = some limit := sound.limited.symm.trans bounded
      have reached := Nat.le_antisymm full (sound.within limit limited)
      exact absurd (reached ▸ limited) notReached
    · rw [result]
  found delivery id finished := by
    rw [sound.holds.found]
    exact List.mem_filterMap.mpr ⟨_, finished, rfl⟩
  listed := sound.holds.listed
  ordered := deliveries.store.toList_ordered

end Deliveries

namespace MonitoredStore

namespace Observed

variable {observed : Observed} {earlier : List Operation}

/-- The identifiers that messages are given in a sequence of operations. -/
def ids (operations : List Operation) : List MessageId :=
  operations.filterMap Operation.id?

theorem ids_concat
    (operations : List Operation)
    (operation : Operation) :
    ids (operations ++ [operation]) = ids operations ++ operation.id?.toList := by
  cases operation <;> simp [ids, Operation.id?]

/-- The store has counted the attempts and holds what its callers believe to be stored. -/
structure Sound
    (observed : Observed)
    (earlier : List Operation) :
    Prop where
  holds : observed.store.inner.Holds observed.stored
  unlimited : observed.store.inner.capacity = none
  attempts : observed.store.attempts = (ids earlier).length
  given : ∀ id ∈ observed.stored.map Prod.fst, id ∈ ids earlier

/-- A store that was told to fail counts an attempt and stores nothing. -/
theorem persist_of_failing
    {store : MonitoredStore}
    (failing : store.failing = true)
    (fresh : MessageId)
    (record : MessageRecord) :
    store.persist fresh record =
      (.error injectedFailure, { store with attempts := store.attempts + 1 }) := by
  simp [persist, failing]

/-- Otherwise the store keeps the message. -/
theorem persist_of_not_failing
    {store : MonitoredStore}
    (failing : store.failing = false)
    (unlimited : store.inner.capacity = none)
    (fresh : MessageId)
    (record : MessageRecord) :
    ∃ fuller,
      store.inner.persist fresh record = .ok fuller ∧
        store.persist fresh record =
          (.ok (), { store with inner := fuller, attempts := store.attempts + 1 }) := by
  obtain ⟨fuller, kept⟩ : ∃ fuller, store.inner.persist fresh record = .ok fuller :=
    ⟨_, MessageStore.persist_eq_ok_iff.mpr ⟨by simp [unlimited], rfl⟩⟩
  exact ⟨fuller, kept, by simp [persist, failing, kept]⟩

namespace Sound

/-- What is given an identifier that has not been given before is not stored yet. -/
theorem unused
    (sound : observed.Sound earlier)
    {fresh : MessageId}
    (distinct : (ids earlier ++ [fresh]).Nodup) :
    fresh ∉ observed.stored.map Prod.fst := by
  intro stored
  exact (List.nodup_append.mp distinct).2.2 fresh (sound.given fresh stored) fresh (by simp) rfl

/-- An attempt is counted, and what is stored in it comes on top of the rest. -/
theorem persist
    (sound : observed.Sound earlier)
    {fresh : MessageId}
    {record : MessageRecord}
    (distinct : (ids earlier ++ [fresh]).Nodup) :
    (observed.serve (.persist fresh record)).Sound (earlier ++ [.persist fresh record]) := by
  have attempts : observed.store.attempts + 1 = (ids (earlier ++ [.persist fresh record])).length := by
    rw [ids_concat, List.length_append, sound.attempts]
    rfl
  have given : ∀ id ∈ observed.stored.map Prod.fst,
      id ∈ ids (earlier ++ [.persist fresh record]) := fun id stored =>
    ids_concat .. ▸ List.mem_append_left _ (sound.given id stored)
  cases failing : observed.store.failing with
  | true =>
      simp only [Observed.serve, persist_of_failing failing fresh record]
      exact ⟨sound.holds, sound.unlimited, attempts, given⟩
  | false =>
      obtain ⟨fuller, kept, result⟩ := persist_of_not_failing failing sound.unlimited fresh record
      simp only [Observed.serve, result]
      refine ⟨sound.holds.persist (sound.unused distinct) kept, ?_, attempts, fun id stored => ?_⟩
      · obtain ⟨_, rfl⟩ := MessageStore.persist_eq_ok_iff.mp kept
        exact sound.unlimited
      · rcases List.mem_append.mp (List.map_append ▸ stored) with before | last
        · exact given id before
        · exact ids_concat .. ▸ List.mem_append_right _ last

/-- Serving a call keeps the store sound. -/
theorem serve
    (sound : observed.Sound earlier)
    {operation : Operation}
    (distinct : (ids (earlier ++ [operation])).Nodup) :
    (observed.serve operation).Sound (earlier ++ [operation]) := by
  rw [ids_concat] at distinct
  cases operation with
  | persist fresh record => exact sound.persist distinct
  | failPersist failing =>
      have same : ids (earlier ++ [.failPersist failing]) = ids earlier := by
        simp [ids_concat, Operation.id?]
      exact ⟨sound.holds, sound.unlimited, same ▸ sound.attempts, same ▸ sound.given⟩
  | clear =>
      have same : ids (earlier ++ [.clear]) = ids earlier := by simp [ids_concat, Operation.id?]
      exact ⟨.clear _, sound.unlimited, same ▸ sound.attempts, fun id nothing => by cases nothing⟩

/-- The store is sound after every sequence of calls. -/
theorem after
    {operations : List Operation}
    (distinct : (ids operations).Nodup) :
    (Observed.after operations).Sound operations := by
  induction operations using List.reverseRecOn with
  | nil => exact ⟨.empty none, rfl, rfl, fun id nothing => by cases nothing⟩
  | append_singleton operations operation inductionHypothesis =>
      have sofar : (ids operations).Nodup := (ids_concat .. ▸ distinct).of_append_left
      have last :
          Observed.after (operations ++ [operation]) = (Observed.after operations).serve operation :=
        List.foldl_append
      exact last ▸ (inductionHypothesis sofar).serve distinct

end Sound

/-- A monitored store counts every attempt and loses and overwrites nothing until it is cleared. -/
structure Keeps
    (observed : Observed)
    (operations : List Operation) :
    Prop where
  /-- There is one identifier for each attempt. -/
  attempts : observed.store.attempts = (ids operations).length
  injected :
    observed.store.failing = true →
      ∀ fresh record,
        observed.store.persist fresh record =
          (.error injectedFailure, { observed.store with attempts := observed.store.attempts + 1 })
  accepts :
    observed.store.failing = false →
      ∀ fresh record, (observed.store.persist fresh record).1 = .ok ()
  messages : observed.store.messages.Perm (observed.stored.map (·.2))
  listed : observed.store.inner.toList.Perm observed.stored
  ordered :
    observed.store.inner.toList.Pairwise fun first second => first.1.value < second.1.value

theorem Sound.keeps (sound : observed.Sound earlier) : observed.Keeps earlier where
  attempts := sound.attempts
  injected := persist_of_failing
  accepts failing fresh record := by
    obtain ⟨_, _, result⟩ := persist_of_not_failing failing sound.unlimited fresh record
    rw [result]
  messages := sound.holds.listed.map _
  listed := sound.holds.listed
  ordered := observed.store.inner.toList_ordered

end Observed

end MonitoredStore

namespace MessageStore

/-- As long as no identifier is given twice, nothing is lost or overwritten: in no store, with or without
capacity, however its callers take turns, and in no monitored store, whatever its calls. -/
theorem keeps_everything :
    (∀ capacity moves deliveries,
      Deliveries.run? moves (.new capacity) = some deliveries →
        ((Deliveries.begun moves).map Delivery.id).Nodup →
          deliveries.Keeps capacity) ∧
      ∀ operations : List MonitoredStore.Operation,
        (MonitoredStore.Observed.ids operations).Nodup →
          (MonitoredStore.Observed.after operations).Keeps operations :=
  ⟨fun capacity _ _ reached distinct =>
      ((Deliveries.Sound.new capacity).run distinct reached).keeps,
    fun _ distinct => (MonitoredStore.Observed.Sound.after distinct).keeps⟩

/-- A message with no text, fetched from a location. -/
def blankFrom (location : String) : MessageRecord :=
  ⟨[], ⟨none, none, none, none, []⟩, location, none, .standard⟩

/-- Two callers of a store for one message: the one who comes second to have an identifier has its turn
first. -/
def crowded : List Deliveries.Move :=
  [.begin ⟨.ofNat 1, blankFrom "http://mmsc/m/1"⟩,
    .begin ⟨.ofNat 2, blankFrom "http://mmsc/m/2"⟩,
    .turn 1,
    .turn 0]

/-- A monitored store that fails once and is cleared between two messages. -/
def watched : List MonitoredStore.Operation :=
  [.persist (.ofNat 1) (blankFrom "http://mmsc/m/1"),
    .clear,
    .failPersist true,
    .persist (.ofNat 2) (blankFrom "http://mmsc/m/2"),
    .failPersist false,
    .persist (.ofNat 3) (blankFrom "http://mmsc/m/3")]

theorem keeps_everything_crowded :
    ∃ deliveries,
      Deliveries.run? crowded (.new (some 1)) = some deliveries ∧
        deliveries.Keeps (some 1) ∧
        (MonitoredStore.Observed.after watched).Keeps watched ∧
        (MonitoredStore.Observed.after watched).store.attempts = 3 ∧
        (MonitoredStore.Observed.after watched).store.messages = [blankFrom "http://mmsc/m/3"] :=
  ⟨_, rfl, keeps_everything.1 (some 1) crowded _ rfl (by decide),
    keeps_everything.2 watched (by decide), by decide +kernel, by decide +kernel⟩

end MessageStore

end MmsInbox
