import MmsInbox.Proofs.MessageId.Parts
import MmsInbox.Proofs.Store.Messages
import MmsInbox.Store.Writings

namespace MmsInbox

/-!
# Whether messages are listed in the order of their writing

The list of all messages is in the order of their identifiers. An identifier begins with the millisecond of
the writing, and goes on with random bits. As long as the clock does not go back the list is therefore in
the order of the milliseconds, but within a millisecond it is as chance has it
(`MessageStore.chronicle`, `MessageStore.not_forall_listed_as_written`).
-/

namespace Writing

/-- An identifier tells the moment of the writing. -/
theorem timestamp_id (writing : Writing) : writing.id.timestamp = writing.moment := by
  rw [id, MessageId.timestamp_ofParts, Nat.mod_eq_of_lt writing.moment.isLt]

theorem random_id (writing : Writing) : writing.id.random = writing.random := by
  rw [id, MessageId.random_ofParts, Nat.mod_eq_of_lt writing.random.isLt]

/-- Identifiers are in order by the moment first and by the random bits within a moment. -/
theorem id_lt_iff {first second : Writing} :
    first.id.value < second.id.value ↔
      first.moment < second.moment ∨
        first.moment = second.moment ∧ first.random < second.random := by
  rw [MessageId.value_lt_iff, timestamp_id, timestamp_id, random_id, random_id, Fin.lt_def,
    Fin.lt_def, Fin.ext_iff]

end Writing

namespace MessageStore

variable
  {store : MessageStore}
  {entries : List (MessageId × MessageRecord)}
  {writings : List Writing}

/-- What is written into a store is held besides all it has held. -/
theorem Holds.persistAll
    {fuller : MessageStore}
    (holds : store.Holds entries)
    (distinct : (entries.map Prod.fst ++ writings.map Writing.id).Nodup)
    (written : store.persistAll writings = .ok fuller) :
    fuller.Holds (entries ++ writings.map Writing.entry) := by
  induction writings generalizing store entries with
  | nil =>
      obtain rfl := Except.ok.inj written
      simpa using holds
  | cons writing later inductionHypothesis =>
      rw [MessageStore.persistAll] at written
      cases kept : store.persist writing.id writing.record with
      | error error =>
          rw [kept] at written
          cases written
      | ok between =>
          rw [kept] at written
          have unused : writing.id ∉ entries.map Prod.fst := by
            intro used
            exact (List.nodup_append.mp distinct).2.2 _ used _ List.mem_cons_self rfl
          have holdsMore := holds.persist unused kept
          have distinctLater :
              ((entries ++ [writing.entry]).map Prod.fst ++ later.map Writing.id).Nodup := by
            simpa [Writing.entry] using distinct
          simpa [Writing.entry] using inductionHypothesis holdsMore distinctLater written

/-- A list in the order of its identifiers that names the same entries is the list of all messages. -/
theorem toList_eq_iff (listed : store.toList.Perm entries) :
    store.toList = entries ↔
      entries.Pairwise fun first second => first.1.value < second.1.value := by
  constructor
  · intro same
    exact same ▸ store.toList_ordered
  · intro ordered
    refine listed.eq_of_pairwise ?_ store.toList_ordered ordered
    intro first second _ _ before after
    exact absurd before (Nat.lt_asymm after)

/-- How the messages that were written are listed. -/
structure Chronicle
    (store : MessageStore)
    (writings : List Writing) :
    Prop where
  listed : store.toList.Perm (writings.map Writing.entry)
  /-- The list goes by the milliseconds of the writings. -/
  byTime : store.toList.map (·.1.timestamp) = writings.map (·.moment.val)
  /-- It goes by the writings themselves if the random bits happen to grow within each millisecond, and
  otherwise it does not. -/
  asWritten_iff :
    store.toList = writings.map Writing.entry ↔
      writings.Pairwise fun first second =>
        first.moment = second.moment → first.random < second.random
  /-- So it does if no two messages are written within one millisecond. -/
  asWritten
    (ticking : writings.Pairwise fun first second => first.moment < second.moment) :
    store.toList = writings.map Writing.entry

/-- As long as the clock does not go back, messages are listed by the milliseconds in which they were
written, and by their random bits within a millisecond. -/
theorem chronicle
    {capacity : Option Nat}
    (steady : writings.Pairwise fun first second => first.moment ≤ second.moment)
    (distinct : (writings.map Writing.id).Nodup)
    (written : (empty capacity).persistAll writings = .ok store) :
    store.Chronicle writings := by
  have holds : store.Holds (writings.map Writing.entry) :=
    (Holds.empty capacity).persistAll distinct written
  have listed := holds.listed
  have ordered_iff :
      store.toList = writings.map Writing.entry ↔
        writings.Pairwise fun first second => first.id.value < second.id.value := by
    rw [toList_eq_iff listed, List.pairwise_map]
    rfl
  constructor
  case listed => exact listed
  case byTime =>
    have times :
        (writings.map Writing.entry).map (fun entry => entry.1.timestamp) =
          writings.map (·.moment.val) := by
      simp only [List.map_map, Function.comp_def, Writing.entry, Writing.timestamp_id]
    have same := listed.map fun entry : MessageId × MessageRecord => entry.1.timestamp
    rw [times] at same
    refine same.eq_of_pairwise (fun _ _ _ _ => Nat.le_antisymm) ?_ (List.pairwise_map.mpr steady)
    exact List.pairwise_map.mpr (store.toList_ordered.imp MessageId.timestamp_le_of_lt)
  case asWritten_iff =>
    rw [ordered_iff]
    constructor
    · refine List.Pairwise.imp fun before together => ?_
      rcases Writing.id_lt_iff.mp before with earlier | ⟨_, smaller⟩
      · exact absurd together (Fin.ne_of_lt earlier)
      · exact smaller
    · intro growing
      refine (List.pairwise_and_iff.mpr ⟨steady, growing⟩).imp fun ⟨notLater, grows⟩ => ?_
      rcases Fin.lt_or_eq_of_le notLater with earlier | together
      · exact Writing.id_lt_iff.mpr (.inl earlier)
      · exact Writing.id_lt_iff.mpr (.inr ⟨together, grows together⟩)
  case asWritten =>
    intro ticking
    exact ordered_iff.mpr (ticking.imp fun earlier => Writing.id_lt_iff.mpr (.inl earlier))

/-- Three messages, two of them within one millisecond. -/
def twoAtOnce : List Writing :=
  [⟨1000, 2, blankFrom "http://mmsc/m/1"⟩, ⟨1000, 1, blankFrom "http://mmsc/m/2"⟩,
    ⟨2000, 0, blankFrom "http://mmsc/m/3"⟩]

/-- The message that was written first is listed second. -/
theorem chronicle_twoAtOnce :
    twoAtOnce.Pairwise (fun first second => first.moment ≤ second.moment) ∧
      (twoAtOnce.map Writing.id).Nodup ∧
      ∃ store,
        (empty (some 3)).persistAll twoAtOnce = .ok store ∧
          store.toList.map (·.2.location) =
            ["http://mmsc/m/2", "http://mmsc/m/1", "http://mmsc/m/3"] ∧
          store.Chronicle twoAtOnce := by
  have steady : twoAtOnce.Pairwise fun first second => first.moment ≤ second.moment := by decide
  have distinct : (twoAtOnce.map Writing.id).Nodup := by decide
  have written : ∃ store, (empty (some 3)).persistAll twoAtOnce = .ok store := ⟨_, rfl⟩
  obtain ⟨store, written⟩ := written
  have chronicled := chronicle steady distinct written
  have locations :
      ((empty (some 3)).persistAll twoAtOnce).toOption.map (·.toList.map (·.2.location)) =
        some ["http://mmsc/m/2", "http://mmsc/m/1", "http://mmsc/m/3"] := by
    decide +kernel
  rw [written] at locations
  exact ⟨steady, distinct, store, written, Option.some.inj locations, chronicled⟩

/-- Messages are not always listed in the order in which they were written, however the random bits of their
identifiers differ. -/
theorem not_forall_listed_as_written :
    ¬ ∀ (capacity : Option Nat) (writings : List Writing) (store : MessageStore),
      (writings.Pairwise fun first second => first.moment ≤ second.moment) →
        (writings.map Writing.random).Nodup →
          (empty capacity).persistAll writings = .ok store →
            store.toList = writings.map Writing.entry := by
  intro inOrder
  have listed := inOrder none twoAtOnce _ (by decide) (by decide) rfl
  rw [toList_eq_iff (listed ▸ .refl _)] at listed
  exact absurd listed (by decide)

end MessageStore

end MmsInbox
