import Mathlib.Algebra.Ring.Nat
import Mathlib.Data.List.Perm.Basic
import MmsInbox.Proofs.Store.Deletions

namespace MmsInbox

/-!
# What deletions count that go on side by side

Several deletions may collect the same URIs, and whichever of them comes first removes the row and counts it.
As long as no row is inserted, a row that a deletion would have to remove stays within its reach: the
deletion has yet to look at its URI or has collected it (`Deletion.Reaches`). Therefore, once all deletions
have returned, the rows that were pending for the location of one of them are gone and no others are, and
their counts add up to the number of these rows (`Deletions.counts_each_once`).
-/

open NotificationStore

/-- A row that goes on as one that goes on as a third goes on as the third. -/
theorem NotificationRow.Continues.trans
    {first second third : NotificationRow}
    (later : first.Continues second)
    (earlier : second.Continues third) :
    first.Continues third := by
  rw [NotificationRow.Continues] at later earlier ⊢
  rw [later, earlier]

namespace NotificationStore

/-- All rows of a store were there in another one, if with other statuses. -/
def Within (store other : NotificationStore) : Prop :=
  ∀ uri row, store.get? uri = some row → ∃ before, other.get? uri = some before ∧ row.Continues before

variable {first second third : NotificationStore}

theorem Within.refl (store : NotificationStore) : store.Within store :=
  fun _ row held => ⟨row, held, .refl row⟩

theorem Within.trans
    (later : first.Within second)
    (earlier : second.Within third) :
    first.Within third := by
  intro uri row held
  obtain ⟨between, there, continues⟩ := later uri row held
  obtain ⟨before, original, continued⟩ := earlier uri between there
  exact ⟨before, original, continues.trans continued⟩

theorem erase_within
    (store : NotificationStore)
    (uri : String) :
    (store.erase uri).Within store := by
  intro other row held
  rw [get?_erase] at held
  split at held
  · cases held
  · exact Within.refl store other row held

theorem markAt_within
    (store : NotificationStore)
    (uri location : String)
    (status : UInt8) :
    (store.markAt uri location status).Within store := by
  intro other row held
  rw [get?_markAt] at held
  split at held
  · obtain ⟨before, there, rfl⟩ := Option.map_eq_some_iff.mp held
    exact ⟨before, there, (NotificationRow.Continues.refl before).markedFor location status⟩
  · exact Within.refl store other row held

/-- The URIs of the rows that are pending for one of some locations. -/
def pendingForAny
    (store : NotificationStore)
    (locations : List String) :
    List String :=
  store.rows.keys.filter fun uri => (store.get? uri).any fun row => locations.any row.isPendingFor

theorem mem_pendingForAny
    {store : NotificationStore}
    {locations : List String}
    {uri : String} :
    uri ∈ store.pendingForAny locations ↔
      ∃ row, store.get? uri = some row ∧
        ∃ location ∈ locations, row.isPendingFor location = true := by
  rw [pendingForAny, List.mem_filter, mem_keys_iff]
  cases store.get? uri with
  | none => simp
  | some row => simp

end NotificationStore

/-- A row that is pending for one of some locations is so for one of more locations. -/
theorem NotificationStore.pendingForAny_subset
    (store : NotificationStore)
    {locations more : List String}
    (within : locations ⊆ more) :
    store.pendingForAny locations ⊆ store.pendingForAny more := by
  intro uri member
  obtain ⟨row, held, location, known, pending⟩ := mem_pendingForAny.mp member
  exact mem_pendingForAny.mpr ⟨row, held, location, within known, pending⟩

namespace Access

/-- Which deletion has removed a row and at which URI, if one was removed. -/
def removal? : Access → Option (Nat × String)
  | .removed number _ uri _ => some (number, uri)
  | _ => none

end Access

namespace Deletion

variable
  {call : Deletion}
  {start store later : NotificationStore}

/-- A deletion will come to all rows that it has to remove, and to no others, in a store that began as another
one. -/
structure Reaches
    (call : Deletion)
    (start store : NotificationStore) :
    Prop where
  covers :
    ∀ uri row, store.get? uri = some row → row.isPendingFor call.location = true →
      uri ∈ call.unseen ∨ uri ∈ call.collected
  collected : ∀ uri ∈ call.collected, uri ∈ start.pendingForAny [call.location]

/-- A deletion that begins has yet to look at all rows. -/
theorem Reaches.begun (start store : NotificationStore) (location : String) :
    Reaches ⟨location, store.rows.keys, [], 0⟩ start store where
  covers uri row held _ := .inl (mem_keys_iff.mpr (by rw [held]; rfl))
  collected _ nothing := absurd nothing List.not_mem_nil

/-- Rows that are removed or marked need not be reached. -/
theorem Reaches.mono
    (reaches : call.Reaches start store)
    (within : later.Within store) :
    call.Reaches start later where
  covers uri row held pending := by
    obtain ⟨before, there, continues⟩ := within uri row held
    exact reaches.covers uri before there (continues.isPendingFor_eq call.location ▸ pending)
  collected := reaches.collected

/-- A deletion that has looked at all rows and has removed what it collected has left nothing that is pending
for its location. -/
theorem Reaches.not_pending
    (reaches : call.Reaches start store)
    (looked : call.unseen = [])
    (removed : call.collected = [])
    {uri : String}
    {row : NotificationRow}
    (held : store.get? uri = some row) :
    row.isPendingFor call.location = false := by
  rw [← Bool.not_eq_true]
  intro pending
  rcases reaches.covers uri row held pending with unseen | collected
  · exact List.not_mem_nil (looked ▸ unseen)
  · exact List.not_mem_nil (removed ▸ collected)

/-- A deletion may look at more. -/
theorem Reaches.noticed
    (reaches : call.Reaches start store)
    (uri : String) :
    Reaches { call with unseen := call.unseen ++ [uri] } start store where
  covers other row held pending :=
    (reaches.covers other row held pending).imp_left (List.mem_append_left _)
  collected := reaches.collected

/-- A deletion that has looked at one of the rows still has to look at the others. -/
theorem mem_unseen_cases
    {place : Nat}
    {seen uri : String}
    (there : call.unseen[place]? = some seen)
    (unseen : uri ∈ call.unseen) :
    uri = seen ∨ uri ∈ call.unseen.eraseIdx place := by
  obtain ⟨inside, rfl⟩ := List.getElem?_eq_some_iff.mp there
  exact List.mem_cons.mp ((List.getElem_cons_eraseIdx_perm inside).mem_iff.mpr unseen)

/-- A deletion need not come back to a row that is not pending. -/
theorem Reaches.passed
    {place : Nat}
    {seen : String}
    (reaches : call.Reaches start store)
    (there : call.unseen[place]? = some seen)
    (spared : ∀ row, store.get? seen = some row → row.isPendingFor call.location = false) :
    Reaches { call with unseen := call.unseen.eraseIdx place } start store where
  covers uri row held pending := by
    rcases reaches.covers uri row held pending with unseen | collected
    · rcases mem_unseen_cases there unseen with rfl | left
      · rw [spared row held] at pending
        cases pending
      · exact .inl left
    · exact .inr collected
  collected := reaches.collected

/-- A row that is collected was pending from the beginning. -/
theorem Reaches.collects
    {place : Nat}
    {seen : String}
    {row : NotificationRow}
    (reaches : call.Reaches start store)
    (within : store.Within start)
    (there : call.unseen[place]? = some seen)
    (held : store.get? seen = some row)
    (pending : row.isPendingFor call.location = true) :
    Reaches
      { call with
        unseen := call.unseen.eraseIdx place
        collected := call.collected ++ [seen] }
      start store where
  covers uri other found pending := by
    rcases reaches.covers uri other found pending with unseen | collected
    · rcases mem_unseen_cases there unseen with rfl | left
      · exact .inr (List.mem_append_right _ (List.mem_singleton_self _))
      · exact .inl left
    · exact .inr (List.mem_append_left _ collected)
  collected uri member := by
    rcases List.mem_append.mp member with already | now
    · exact reaches.collected uri already
    · obtain rfl := List.mem_singleton.mp now
      obtain ⟨before, original, continues⟩ := within uri row held
      rw [continues.isPendingFor_eq] at pending
      exact mem_pendingForAny.mpr
        ⟨before, original, call.location, List.mem_singleton_self _, pending⟩

/-- A deletion is done with a URI at which nothing is left. -/
theorem Reaches.dropped
    {uri : String}
    {others : List String}
    (reaches : call.Reaches start store)
    (collected : call.collected = uri :: others)
    (vacant : store.get? uri = none)
    (count : Nat) :
    Reaches { call with collected := others, removed := count } start store where
  covers other row held pending := by
    rcases reaches.covers other row held pending with unseen | awaited
    · exact .inl unseen
    · rcases List.mem_cons.mp (collected ▸ awaited) with rfl | left
      · rw [vacant] at held
        cases held
      · exact .inr left
  collected other member := reaches.collected other (collected ▸ List.mem_cons_of_mem _ member)

end Deletion

namespace Deletions

variable
  {start : NotificationStore}
  {deletions next : Deletions}

/-- The removals in a log, in their order. -/
def removals (log : List Access) : List (Nat × String) :=
  log.filterMap Access.removal?

/-- The locations for which deletions begin. -/
def locations (moves : List Move) : List String :=
  moves.filterMap fun
    | .begin location => some location
    | _ => none

/-- What holds at all times while no row is inserted. -/
structure Tally
    (start : NotificationStore)
    (deletions : Deletions) :
    Prop where
  within : deletions.store.Within start
  reaches : ∀ call ∈ deletions.calls, call.Reaches start deletions.store
  /-- Rows are gone exactly if a removal is logged. -/
  gone_iff :
    ∀ uri,
      uri ∈ (removals deletions.log).map Prod.snd ↔
        (start.get? uri).isSome = true ∧ deletions.store.get? uri = none
  /-- No row is removed twice. -/
  once : ((removals deletions.log).map Prod.snd).Nodup
  /-- Only rows that were pending for the location of a deletion are removed. -/
  pending :
    ∀ uri ∈ (removals deletions.log).map Prod.snd,
      uri ∈ start.pendingForAny (deletions.calls.map Deletion.location)
  /-- Each deletion counts what it has removed. -/
  own :
    ∀ number,
      (deletions.calls.map Deletion.removed).getD number 0 =
        (removals deletions.log).countP (·.1 == number)
  counted : (deletions.calls.map Deletion.removed).sum = (removals deletions.log).length

/-- With one deletion in the place of another, the counts add up to as much more as it counts more. -/
theorem sum_removed_set
    {calls : List Deletion}
    {number : Nat}
    {call : Deletion}
    (there : calls[number]? = some call)
    (after : Deletion) :
    ((calls.set number after).map Deletion.removed).sum + call.removed =
      (calls.map Deletion.removed).sum + after.removed := by
  induction calls generalizing number with
  | nil => cases there
  | cons first others inductionHypothesis =>
      cases number with
      | zero =>
          obtain rfl := Option.some.inj there
          simp only [List.set_cons_zero, List.map_cons, List.sum_cons]
          omega
      | succ number =>
          have later := inductionHypothesis there
          simp only [List.set_cons_succ, List.map_cons, List.sum_cons]
          omega

/-- What a deletion has in common with the one whose place it takes is the same in the list of all. -/
theorem map_set_of_same
    {α : Type}
    {calls : List Deletion}
    {number : Nat}
    {call after : Deletion}
    (there : calls[number]? = some call)
    (part : Deletion → α)
    (same : part after = part call) :
    (calls.set number after).map part = calls.map part := by
  obtain ⟨inside, rfl⟩ := List.getElem?_eq_some_iff.mp there
  rw [List.map_set, same, ← List.getElem_map part, List.set_getElem_self]
  simpa using inside

namespace Tally

theorem new (start : NotificationStore) : Tally start (Deletions.new start) where
  within := .refl start
  reaches _ nothing := absurd nothing List.not_mem_nil
  gone_iff uri := by
    simp only [Deletions.new, removals, List.filterMap_nil, List.map_nil, List.not_mem_nil,
      false_iff, not_and]
    intro held vacant
    simp [vacant] at held
  once := List.nodup_nil
  pending _ nothing := absurd nothing List.not_mem_nil
  own _ := rfl
  counted := rfl

/-- Whatever removes and counts nothing keeps the tally. -/
theorem quiet
    (tally : Tally start deletions)
    (within : next.store.Within deletions.store)
    (vacant_iff : ∀ uri, next.store.get? uri = none ↔ deletions.store.get? uri = none)
    (reaches : ∀ call ∈ next.calls, call.Reaches start next.store)
    (sameRemovals : removals next.log = removals deletions.log)
    (locations :
      deletions.calls.map Deletion.location ⊆ next.calls.map Deletion.location)
    (sameOwn :
      ∀ number,
        (next.calls.map Deletion.removed).getD number 0 =
          (deletions.calls.map Deletion.removed).getD number 0)
    (sameSum :
      (next.calls.map Deletion.removed).sum = (deletions.calls.map Deletion.removed).sum) :
    Tally start next where
  within := within.trans tally.within
  reaches := reaches
  gone_iff uri := by rw [sameRemovals, tally.gone_iff, vacant_iff]
  once := sameRemovals ▸ tally.once
  pending uri removed :=
    start.pendingForAny_subset locations (tally.pending uri (sameRemovals ▸ removed))
  own number := by rw [sameRemovals, sameOwn, tally.own]
  counted := by rw [sameRemovals, sameSum, tally.counted]

/-- A deletion that goes on without removing a row keeps the tally. -/
theorem goesOn
    (tally : Tally start deletions)
    {number : Nat}
    {call after : Deletion}
    {log : List Access}
    (there : deletions.calls[number]? = some call)
    (sameLocation : after.location = call.location)
    (sameCount : after.removed = call.removed)
    (sameRemovals : removals log = removals deletions.log)
    (reaches : after.Reaches start deletions.store) :
    Tally start ⟨deletions.store, deletions.calls.set number after, log⟩ := by
  have counts := map_set_of_same there Deletion.removed sameCount
  refine tally.quiet (.refl _) (fun _ => .rfl) (fun other member => ?_) sameRemovals ?_ ?_ ?_
  · rcases List.mem_or_eq_of_mem_set member with before | rfl
    · exact tally.reaches other before
    · exact reaches
  · rw [map_set_of_same there Deletion.location sameLocation]
    exact List.Subset.refl _
  · exact fun other => by rw [counts]
  · rw [counts]

/-- A deletion that removes a row counts it. -/
theorem removes
    (tally : Tally start deletions)
    {number : Nat}
    {call : Deletion}
    {uri : String}
    {later : List String}
    {row : NotificationRow}
    (there : deletions.calls[number]? = some call)
    (collected : call.collected = uri :: later)
    (held : deletions.store.get? uri = some row) :
    Tally start
      ⟨deletions.store.erase uri,
        deletions.calls.set number { call with collected := later, removed := call.removed + 1 },
        deletions.log ++ [.removed number call.location uri row]⟩ := by
  have within := erase_within deletions.store uri
  have reaches := tally.reaches call (List.mem_of_getElem? there)
  have sameLocations :
      (deletions.calls.set number
          { call with collected := later, removed := call.removed + 1 }).map Deletion.location =
        deletions.calls.map Deletion.location :=
    map_set_of_same there Deletion.location rfl
  have more :
      removals (deletions.log ++ [.removed number call.location uri row]) =
        removals deletions.log ++ [(number, uri)] :=
    List.filterMap_append
  have fresh : uri ∉ (removals deletions.log).map Prod.snd := by
    rw [tally.gone_iff, held]
    exact fun gone => nomatch gone.2
  have known : call.location ∈ deletions.calls.map Deletion.location :=
    List.mem_map_of_mem (List.mem_of_getElem? there)
  constructor
  case within => exact within.trans tally.within
  case reaches =>
    intro other member
    rcases List.mem_or_eq_of_mem_set member with before | rfl
    · exact (tally.reaches other before).mono within
    · exact (reaches.mono within).dropped collected (by simp) _
  case gone_iff =>
    intro other
    rw [more, List.map_append, List.mem_append, tally.gone_iff, get?_erase]
    by_cases here : uri = other
    · subst here
      obtain ⟨before, original, _⟩ := tally.within uri row held
      simp [original]
    · simp [here, Ne.symm here]
  case once =>
    rw [more, List.map_append]
    refine List.nodup_append.mpr ⟨tally.once, List.pairwise_singleton _ _, ?_⟩
    intro other before last now same
    obtain rfl := List.mem_singleton.mp now
    exact fresh (same ▸ before)
  case pending =>
    intro other removed
    rw [sameLocations]
    rw [more, List.map_append] at removed
    rcases List.mem_append.mp removed with before | now
    · exact tally.pending other before
    · obtain rfl := List.mem_singleton.mp now
      have pending := reaches.collected other (collected ▸ List.mem_cons_self)
      exact start.pendingForAny_subset (List.cons_subset.mpr ⟨known, List.nil_subset _⟩) pending
  case own =>
    intro other
    have counted := tally.own other
    rw [more, List.countP_append, ← counted, List.map_set]
    obtain ⟨inside, rfl⟩ := List.getElem?_eq_some_iff.mp there
    by_cases same : number = other
    · subst same
      simp [inside]
    · simp [List.getElem?_set_ne same, same]
  case counted =>
    have sum := sum_removed_set there
      { call with collected := later, removed := call.removed + 1 }
    rw [more, List.length_append, List.length_singleton]
    refine Nat.add_right_cancel (sum.trans ?_)
    simp only [tally.counted]
    omega

/-- Whatever happens but an insertion keeps the tally. -/
theorem step
    {move : Move}
    (tally : Tally start deletions)
    (steps : deletions.Steps move next)
    (noInsertion : ∀ row, move ≠ .insert row) :
    Tally start next := by
  cases steps with
  | inserted row => exact absurd rfl (noInsertion row)
  | marked uri location status =>
      have within := markAt_within deletions.store uri location status
      refine tally.quiet within (fun other => ?_) (fun call member => ?_) rfl
        (List.Subset.refl _) (fun _ => rfl) rfl
      · rw [get?_markAt]
        split
        · exact Option.map_eq_none_iff
        · rfl
      · exact (tally.reaches call member).mono within
  | begun location =>
      refine tally.quiet (.refl _) (fun _ => .rfl) (fun call member => ?_) rfl ?_
        (fun number => ?_) ?_
      · rcases List.mem_append.mp member with before | now
        · exact tally.reaches call before
        · obtain rfl := List.mem_singleton.mp now
          exact .begun start deletions.store location
      · rw [List.map_append]
        exact List.subset_append_left _ _
      · -- What begins has counted nothing, as what has not begun.
        rw [List.map_append, List.getD_eq_getElem?_getD, List.getD_eq_getElem?_getD,
          List.getElem?_append]
        split
        · rfl
        · rename_i outside
          rw [List.getElem?_eq_none (Nat.le_of_not_lt outside)]
          cases number - (deletions.calls.map Deletion.removed).length <;> rfl
      · simp
  | noticed uri there =>
      have reaches := tally.reaches _ (List.mem_of_getElem? there)
      exact tally.goesOn there rfl rfl rfl (reaches.noticed uri)
  | passed there unseen spared =>
      have reaches := tally.reaches _ (List.mem_of_getElem? there)
      exact tally.goesOn there rfl rfl rfl (reaches.passed unseen spared)
  | @collected number place call uri row there unseen held pending =>
      have reaches := tally.reaches _ (List.mem_of_getElem? there)
      refine tally.goesOn there rfl rfl ?_ (reaches.collects tally.within unseen held pending)
      exact List.filterMap_append.trans (List.append_nil _)
  | missed there looked collected vacant =>
      have reaches := tally.reaches _ (List.mem_of_getElem? there)
      exact tally.goesOn there rfl rfl rfl (reaches.dropped collected vacant _)
  | removed there looked collected held => exact tally.removes there collected held

theorem run
    {moves : List Move}
    (tally : Tally start deletions)
    (noInsertion : ∀ row, .insert row ∉ moves)
    (ran : run? moves deletions = some next) :
    Tally start next := by
  induction moves generalizing deletions with
  | nil =>
      obtain rfl := Option.some.inj ran
      exact tally
  | cons move later inductionHypothesis =>
      obtain ⟨between, stepped, ranOn⟩ := Option.bind_eq_some_iff.mp ran
      refine inductionHypothesis (tally.step (steps_of_step? stepped) fun row same => ?_)
        (fun row member => noInsertion row (List.mem_cons_of_mem _ member)) ranOn
      exact noInsertion row (same ▸ List.mem_cons_self)

end Tally

/-- A deletion keeps its location. -/
theorem map_location_of_steps
    {move : Move}
    (steps : deletions.Steps move next) :
    next.calls.map Deletion.location =
      deletions.calls.map Deletion.location ++ locations [move] := by
  cases steps with
  | inserted row => exact (List.append_nil _).symm
  | marked uri location status => exact (List.append_nil _).symm
  | begun location => exact List.map_append
  | noticed uri there =>
      exact Eq.trans (map_set_of_same there _ rfl) (List.append_nil _).symm
  | passed there unseen spared =>
      exact Eq.trans (map_set_of_same there _ rfl) (List.append_nil _).symm
  | collected there unseen held pending =>
      exact Eq.trans (map_set_of_same there _ rfl) (List.append_nil _).symm
  | missed there looked collected vacant =>
      exact Eq.trans (map_set_of_same there _ rfl) (List.append_nil _).symm
  | removed there looked collected held =>
      exact Eq.trans (map_set_of_same there _ rfl) (List.append_nil _).symm

/-- The deletions that have begun are those that the moves tell of. -/
theorem map_location_of_run?
    {moves : List Move}
    (ran : run? moves deletions = some next) :
    next.calls.map Deletion.location =
      deletions.calls.map Deletion.location ++ locations moves := by
  induction moves generalizing deletions with
  | nil =>
      obtain rfl := Option.some.inj ran
      exact (List.append_nil _).symm
  | cons move later inductionHypothesis =>
      obtain ⟨between, stepped, ranOn⟩ := Option.bind_eq_some_iff.mp ran
      have both : locations (move :: later) = locations [move] ++ locations later :=
        List.filterMap_append (l := [move])
      rw [inductionHypothesis ranOn, map_location_of_steps (steps_of_step? stepped), both,
        List.append_assoc]

/-- What deletions amount to that have all returned. -/
structure CountEachOnce
    (start : NotificationStore)
    (moves : List Move)
    (deletions : Deletions) :
    Prop where
  begun : deletions.calls.map Deletion.location = locations moves
  /-- A row is gone exactly if it was pending for one of the locations. -/
  gone_iff :
    ∀ uri row, start.get? uri = some row →
      (deletions.store.get? uri = none ↔
        ∃ location ∈ locations moves, row.isPendingFor location = true)
  /-- What is there was there before. -/
  within : deletions.store.Within start
  /-- Each of the rows that were pending was removed by one of the deletions and once. -/
  removed : ((removals deletions.log).map Prod.snd).Perm (start.pendingForAny (locations moves))
  /-- Each deletion counts the rows that it has removed itself. -/
  own :
    ∀ number call, deletions.calls[number]? = some call →
      call.removed = (removals deletions.log).countP (·.1 == number)
  counted :
    (deletions.calls.map Deletion.removed).sum = (start.pendingForAny (locations moves)).length

/-- However deletions go on side by side, as long as nothing is inserted: once all have returned, the rows
that were pending for one of their locations are gone, and their counts add up to the number of these rows. -/
theorem counts_each_once
    (start : NotificationStore)
    {moves : List Move}
    (noInsertion : ∀ row, .insert row ∉ moves)
    (ran : run? moves (new start) = some deletions)
    (returned : ∀ call ∈ deletions.calls, call.unseen = [] ∧ call.collected = []) :
    deletions.CountEachOnce start moves := by
  have tally := (Tally.new start).run noInsertion ran
  have begun : deletions.calls.map Deletion.location = locations moves :=
    map_location_of_run? ran
  have gone_iff (uri : String) (row : NotificationRow) (original : start.get? uri = some row) :
      deletions.store.get? uri = none ↔
        ∃ location ∈ locations moves, row.isPendingFor location = true := by
    constructor
    · intro gone
      have removed := (tally.gone_iff uri).mpr ⟨by rw [original]; rfl, gone⟩
      obtain ⟨before, there, pending⟩ := mem_pendingForAny.mp (tally.pending uri removed)
      obtain rfl := Option.some.inj (original.symm.trans there)
      exact begun ▸ pending
    · rintro ⟨location, known, pending⟩
      obtain ⟨call, member, rfl⟩ := List.mem_map.mp (begun ▸ known)
      -- A row that is left goes on as the original, and the deletion would still have to come to it.
      rw [Option.eq_none_iff_forall_ne_some]
      intro now held
      obtain ⟨before, there, continues⟩ := tally.within uri now held
      obtain rfl := Option.some.inj (original.symm.trans there)
      obtain ⟨looked, removed⟩ := returned call member
      have spared := (tally.reaches call member).not_pending looked removed held
      rw [continues.isPendingFor_eq, pending] at spared
      cases spared
  have removed :
      ((removals deletions.log).map Prod.snd).Perm (start.pendingForAny (locations moves)) := by
    refine (List.perm_ext_iff_of_nodup tally.once (Std.ExtTreeMap.nodup_keys.filter _)).mpr ?_
    intro uri
    constructor
    · exact fun removed => begun ▸ tally.pending uri removed
    · intro pending
      obtain ⟨row, held, anyLocation⟩ := mem_pendingForAny.mp pending
      exact (tally.gone_iff uri).mpr ⟨by rw [held]; rfl, (gone_iff uri row held).mpr anyLocation⟩
  refine ⟨begun, gone_iff, tally.within, removed, fun number call there => ?_, ?_⟩
  · rw [← tally.own number, List.getD_eq_getElem?_getD, List.getElem?_map, there]
    rfl
  · rw [tally.counted, ← removed.length_eq, List.length_map]

/-- Two notifications for one location, one for another, and a message that was retrieved from the first. -/
def threeAnnounced : NotificationStore :=
  (((empty.insert (announcementAt "content://mms/1" "http://a/1")).insert
    (announcementAt "content://mms/2" "http://a/1")).insert
    (announcementAt "content://mms/3" "http://a/2")).insert
    { announcementAt "content://mms/4" "http://a/1" with kind := .retrieval }

/-- Two deletions collect the same notifications, and each of them removes one. A third one is for the other
location. -/
def racing : List Move :=
  [.begin "http://a/1", .begin "http://a/1", .begin "http://a/2"] ++
    List.replicate 4 (.look 0 0) ++ List.replicate 4 (.look 1 0) ++
    [.mark "content://mms/2" "http://a/1" 0x80, .remove 1] ++ List.replicate 4 (.look 2 0) ++
    [.remove 0, .remove 0, .remove 2, .remove 1]

/-- Each of the three deletions counts one row. -/
theorem counts_each_once_racing :
    (∀ row, .insert row ∉ racing) ∧
      ∃ deletions,
        run? racing (new threeAnnounced) = some deletions ∧
          (∀ call ∈ deletions.calls, call.unseen = [] ∧ call.collected = []) ∧
          removals deletions.log =
            [(1, "content://mms/1"), (0, "content://mms/2"), (2, "content://mms/3")] ∧
          deletions.CountEachOnce threeAnnounced racing := by
  have noInsertion : ∀ row, .insert row ∉ racing := by simp [racing]
  have final :
      ((run? racing (new threeAnnounced)).map fun deletions =>
        (deletions.calls.map fun call => (call.unseen, call.collected), removals deletions.log)) =
        some
          ([([], []), ([], []), ([], [])],
            [(1, "content://mms/1"), (0, "content://mms/2"), (2, "content://mms/3")]) := by
    decide +kernel
  obtain ⟨deletions, ran, ended⟩ := Option.map_eq_some_iff.mp final
  obtain ⟨emptied, removed⟩ := Prod.mk.inj ended
  have returned (call : Deletion) (member : call ∈ deletions.calls) :
      call.unseen = [] ∧ call.collected = [] := by
    have among := List.mem_map_of_mem (f := fun call => (call.unseen, call.collected)) member
    rw [emptied] at among
    simpa using among
  exact ⟨noInsertion, deletions, ran, returned, removed,
    counts_each_once threeAnnounced noInsertion ran returned⟩

end Deletions

end MmsInbox
