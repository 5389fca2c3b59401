import MmsInbox.Proofs.Store.Messages
import MmsInbox.Store.Watch

namespace MmsInbox

/-!
# No message is missed by someone who waits

A waiter registers for the next notice before it looks at the number of messages, and a writer gives notice
after its message is stored. So a waiter is never asleep for good while there are enough messages: either a
notice has been given since it registered, or a writer is about to give one (`Watch.misses_nothing`).

A writer that nobody interferes with does what a call of the store does (`Watch.run?_persist`), and so does a
waiter (`Watch.run?_await`).
-/

/-- A store that keeps one more message holds no fewer. -/
theorem MessageStore.size_le_of_persist
    {store fuller : MessageStore}
    {fresh : MessageId}
    {record : MessageRecord}
    (kept : store.persist fresh record = .ok fuller) :
    store.size ≤ fuller.size := by
  obtain ⟨_, rfl⟩ := MessageStore.persist_eq_ok_iff.mp kept
  exact Std.ExtTreeMap.size_le_size_insert

namespace Watch

variable {watch next : Watch}

/-- All that can happen to someone who waits and to writers. -/
inductive Happens (watch : Watch) : Move → Watch → Prop where
  | registers
      (waiting : watch.outcome = none)
      (arriving : watch.waiter.phase = .arriving) :
      Happens watch .wait { watch with waiter := watch.waiter.register }
  | returns
      (waiting : watch.outcome = none)
      (registered : watch.waiter.phase = .registered)
      (enough : watch.waiter.expected ≤ watch.store.inner.size) :
      Happens watch .wait
        { watch with
          waiter := { watch.waiter with phase := .satisfied }
          outcome := some (.ok ()) }
  | parks
      (waiting : watch.outcome = none)
      (registered : watch.waiter.phase = .registered)
      (tooFew : watch.store.inner.size < watch.waiter.expected) :
      Happens watch .wait { watch with waiter := { watch.waiter with phase := .parked } }
  | wakes
      (waiting : watch.outcome = none)
      (parked : watch.waiter.phase = .parked)
      (notified : watch.waiter.notified = true) :
      Happens watch .wait { watch with waiter := { watch.waiter with phase := .arriving } }
  | runsOut
      (waiting : watch.outcome = none)
      (parked : watch.waiter.phase = .parked) :
      Happens watch .runOut { watch with outcome := some (.error Waiter.timedOut) }
  | begins (delivery : Delivery) :
      Happens watch (.begin delivery)
        { watch with
          store := { watch.store with attempts := watch.store.attempts + 1 }
          writers := watch.writers ++ [⟨delivery, .counted⟩] }
  | fails
      {number : Nat}
      {writer : Writer}
      (there : watch.writers[number]? = some writer)
      (counted : writer.phase = .counted)
      (failing : watch.store.failing = true) :
      Happens watch (.write number)
        { watch with
          writers :=
            watch.advance number writer (.noticing (.error MonitoredStore.injectedFailure)) }
  | goesOn
      {number : Nat}
      {writer : Writer}
      (there : watch.writers[number]? = some writer)
      (counted : writer.phase = .counted)
      (notFailing : watch.store.failing = false) :
      Happens watch (.write number)
        { watch with writers := watch.advance number writer .admitted }
  | refused
      {number : Nat}
      {writer : Writer}
      {error : StoreError}
      (there : watch.writers[number]? = some writer)
      (admitted : writer.phase = .admitted)
      (full :
        watch.store.inner.persist writer.delivery.id writer.delivery.record = .error error) :
      Happens watch (.write number)
        { watch with writers := watch.advance number writer (.finished (.error error)) }
  | stores
      {number : Nat}
      {writer : Writer}
      {inner : MessageStore}
      (there : watch.writers[number]? = some writer)
      (admitted : writer.phase = .admitted)
      (kept :
        watch.store.inner.persist writer.delivery.id writer.delivery.record = .ok inner) :
      Happens watch (.write number)
        { watch with
          store := { watch.store with inner := inner }
          writers := watch.advance number writer (.noticing (.ok ())) }
  | notifies
      {number : Nat}
      {writer : Writer}
      {result : Except StoreError Unit}
      (there : watch.writers[number]? = some writer)
      (noticing : writer.phase = .noticing result) :
      Happens watch (.write number)
        { watch with
          waiter := watch.waiter.notice
          writers := watch.advance number writer (.finished result) }
  | told (failing : Bool) :
      Happens watch (.failPersist failing)
        { watch with store := { watch.store with failing := failing } }

theorem happens_of_wait? (stepped : watch.wait? = some next) : watch.Happens .wait next := by
  unfold wait? at stepped
  split at stepped
  case h_1 => cases stepped
  case h_2 waiting =>
    obtain ⟨waiter, step, rfl⟩ := Option.map_eq_some_iff.mp stepped
    unfold Waiter.step? at step
    split at step
    case h_1 arriving =>
      obtain rfl := Option.some.inj step
      simpa [Waiter.register, waiting] using Happens.registers waiting arriving
    case h_2 registered =>
      split at step
      case isTrue enough =>
        obtain rfl := Option.some.inj step
        exact .returns waiting registered enough
      case isFalse tooFew =>
        obtain rfl := Option.some.inj step
        simpa [waiting] using Happens.parks waiting registered (Nat.lt_of_not_le tooFew)
    case h_3 parked =>
      split at step
      case isTrue notified =>
        obtain rfl := Option.some.inj step
        simpa [waiting] using Happens.wakes waiting parked notified
      case isFalse => cases step
    case h_4 => cases step

theorem happens_of_write?
    {number : Nat}
    {writer : Writer}
    (there : watch.writers[number]? = some writer)
    (stepped : watch.write? number writer = some next) :
    watch.Happens (.write number) next := by
  unfold write? at stepped
  split at stepped
  case h_1 counted =>
    obtain rfl := Option.some.inj stepped
    cases failing : watch.store.failing with
    | true => simpa [failing] using Happens.fails there counted failing
    | false => simpa [failing] using Happens.goesOn there counted failing
  case h_2 admitted =>
    split at stepped
    case h_1 error full =>
      obtain rfl := Option.some.inj stepped
      exact .refused there admitted full
    case h_2 inner kept =>
      obtain rfl := Option.some.inj stepped
      exact .stores there admitted kept
  case h_3 result noticing =>
    obtain rfl := Option.some.inj stepped
    exact .notifies there noticing
  case h_4 => cases stepped

theorem happens_of_step?
    {move : Move}
    (stepped : watch.step? move = some next) :
    watch.Happens move next := by
  cases move with
  | wait => exact happens_of_wait? stepped
  | runOut =>
      simp only [step?, runOut?] at stepped
      split at stepped
      case h_1 waiting parked =>
        obtain rfl := Option.some.inj stepped
        exact .runsOut waiting parked
      case h_2 => cases stepped
  | begin delivery =>
      obtain rfl := Option.some.inj stepped
      exact .begins delivery
  | write number =>
      obtain ⟨writer, there, stepped⟩ := Option.bind_eq_some_iff.mp stepped
      exact happens_of_write? there stepped
  | failPersist failing =>
      obtain rfl := Option.some.inj stepped
      exact .told failing

/-- One of some writers has stored its message and is about to give notice. -/
def Unannounced (writers : List Writer) : Prop :=
  ∃ (number : Nat) (writer : Writer),
    writers[number]? = some writer ∧ writer.IsUnannounced

theorem Unannounced.append
    {writers : List Writer}
    (unannounced : Unannounced writers)
    (writer : Writer) :
    Unannounced (writers ++ [writer]) := by
  obtain ⟨number, other, there, isUnannounced⟩ := unannounced
  refine ⟨number, other, ?_, isUnannounced⟩
  rw [List.getElem?_append_left (List.getElem?_eq_some_iff.mp there).1, there]

/-- What is about to be announced still is when another writer goes on. -/
theorem Unannounced.advance
    (unannounced : Unannounced watch.writers)
    {number : Nat}
    {writer : Writer}
    (there : watch.writers[number]? = some writer)
    (other : ¬ writer.IsUnannounced)
    (phase : WriterPhase) :
    Unannounced (watch.advance number writer phase) := by
  obtain ⟨place, one, found, isUnannounced⟩ := unannounced
  have elsewhere : number ≠ place := by
    rintro rfl
    obtain rfl := Option.some.inj (there.symm.trans found)
    exact other isUnannounced
  exact ⟨place, one, by rw [Watch.advance, List.getElem?_set_ne elsewhere, found], isUnannounced⟩

/-- A writer that has stored its message is about to announce it. -/
theorem unannounced_advance
    {number : Nat}
    {writer : Writer}
    (there : watch.writers[number]? = some writer) :
    Unannounced (watch.advance number writer (.noticing (.ok ()))) := by
  have inside := (List.getElem?_eq_some_iff.mp there).1
  exact ⟨number, _, List.getElem?_set_self inside, rfl⟩

/-- A waiter that is asleep while there are enough messages has been woken or is about to be, and one that
was told that there are enough was told the truth. -/
structure Sound
    (watch : Watch)
    (expected : Nat) :
    Prop where
  expected_eq : watch.waiter.expected = expected
  awaited
    (parked : watch.waiter.phase = .parked)
    (unwoken : watch.waiter.notified = false)
    (enough : expected ≤ watch.store.inner.size) :
    Unannounced watch.writers
  truthful (told : watch.outcome = some (.ok ())) : expected ≤ watch.store.inner.size
  satisfied (satisfied : watch.waiter.phase = .satisfied) : watch.outcome = some (.ok ())

namespace Sound

variable {expected : Nat}

theorem new
    (store : MonitoredStore)
    (expected : Nat) :
    (Watch.new store expected).Sound expected where
  expected_eq := rfl
  awaited parked := nomatch parked
  truthful told := nomatch told
  satisfied satisfied := nomatch satisfied

/-- A step of a writer that stores nothing and tells nobody leaves everything sound, unless it was about to
announce a message. -/
theorem advance
    (sound : watch.Sound expected)
    {number : Nat}
    {writer : Writer}
    (there : watch.writers[number]? = some writer)
    (other : ¬ writer.IsUnannounced)
    (phase : WriterPhase) :
    Sound { watch with writers := watch.advance number writer phase } expected where
  expected_eq := sound.expected_eq
  awaited parked unwoken enough :=
    (sound.awaited parked unwoken enough).advance there other phase
  truthful := sound.truthful
  satisfied := sound.satisfied

theorem step
    (sound : watch.Sound expected)
    {move : Move}
    (happens : watch.Happens move next) :
    next.Sound expected := by
  cases happens with
  | registers waiting arriving =>
      exact
        { expected_eq := sound.expected_eq
          awaited := fun parked => nomatch parked
          truthful := sound.truthful
          satisfied := fun satisfied => nomatch satisfied }
  | returns waiting registered enough =>
      have reached : expected ≤ watch.store.inner.size := sound.expected_eq ▸ enough
      exact
        { expected_eq := sound.expected_eq
          awaited := fun parked => nomatch parked
          truthful := fun _ => reached
          satisfied := fun _ => rfl }
  | parks waiting registered tooFew =>
      rw [sound.expected_eq] at tooFew
      exact
        { expected_eq := sound.expected_eq
          awaited := fun _ _ enough => absurd enough (Nat.not_le.mpr tooFew)
          truthful := sound.truthful
          satisfied := fun satisfied => nomatch satisfied }
  | wakes waiting parked notified =>
      exact
        { expected_eq := sound.expected_eq
          awaited := fun parked => nomatch parked
          truthful := sound.truthful
          satisfied := fun satisfied => nomatch satisfied }
  | runsOut waiting parked =>
      exact
        { expected_eq := sound.expected_eq
          awaited := sound.awaited
          truthful := fun told => nomatch told
          satisfied := fun satisfied => nomatch parked.symm.trans satisfied }
  | begins delivery =>
      exact
        { expected_eq := sound.expected_eq
          awaited := fun parked unwoken enough =>
            (sound.awaited parked unwoken enough).append _
          truthful := sound.truthful
          satisfied := sound.satisfied }
  | fails there counted failing =>
      exact sound.advance there (by simp [Writer.IsUnannounced, counted]) _
  | goesOn there counted notFailing =>
      exact sound.advance there (by simp [Writer.IsUnannounced, counted]) _
  | refused there admitted full =>
      exact sound.advance there (by simp [Writer.IsUnannounced, admitted]) _
  | stores there admitted kept =>
      have grows := MessageStore.size_le_of_persist kept
      exact
        { expected_eq := sound.expected_eq
          awaited := fun _ _ _ => unannounced_advance there
          truthful := fun told => Nat.le_trans (sound.truthful told) grows
          satisfied := sound.satisfied }
  | notifies there noticing =>
      exact
        { expected_eq := sound.expected_eq
          -- A notice wakes whoever is asleep, so nobody is asleep without having been woken.
          awaited := fun parked unwoken => by
            have asleep : watch.waiter.phase = .parked := parked
            simp [Waiter.notice, asleep] at unwoken
          truthful := sound.truthful
          satisfied := sound.satisfied }
  | told failing => exact ⟨sound.expected_eq, sound.awaited, sound.truthful, sound.satisfied⟩

theorem run
    (sound : watch.Sound expected)
    {moves : List Move}
    (ran : run? moves watch = some next) :
    next.Sound expected := by
  induction moves generalizing watch with
  | nil =>
      obtain rfl := Option.some.inj ran
      exact sound
  | cons move later inductionHypothesis =>
      obtain ⟨between, stepped, ranLater⟩ := Option.bind_eq_some_iff.mp ran
      exact inductionHypothesis (sound.step (happens_of_step? stepped)) ranLater

end Sound

section Returning

/-- A waiter that has registered while there are enough messages returns at its next step. -/
theorem returns_of_registered
    (waiting : watch.outcome = none)
    (registered : watch.waiter.phase = .registered)
    (enough : watch.waiter.expected ≤ watch.store.inner.size) :
    ∃ later, run? [.wait] watch = some later ∧ later.outcome = some (.ok ()) := by
  refine ⟨{ watch with
    waiter := { watch.waiter with phase := .satisfied }
    outcome := some (.ok ()) }, ?_, rfl⟩
  simp [run?, step?, wait?, Waiter.step?, waiting, registered, enough]

theorem returns_of_arriving
    (waiting : watch.outcome = none)
    (arriving : watch.waiter.phase = .arriving)
    (enough : watch.waiter.expected ≤ watch.store.inner.size) :
    ∃ later, run? [.wait, .wait] watch = some later ∧ later.outcome = some (.ok ()) := by
  let next : Watch := { watch with waiter := watch.waiter.register }
  have stepped : watch.step? .wait = some next := by
    simp [step?, wait?, Waiter.step?, Waiter.register, next, waiting, arriving]
  have waitingStill : next.outcome = none := waiting
  obtain ⟨later, ran, told⟩ := returns_of_registered waitingStill rfl enough
  exact ⟨later, by rw [run?, stepped, Option.bind_some, ran], told⟩

theorem returns_of_woken
    (waiting : watch.outcome = none)
    (parked : watch.waiter.phase = .parked)
    (notified : watch.waiter.notified = true)
    (enough : watch.waiter.expected ≤ watch.store.inner.size) :
    ∃ later, run? [.wait, .wait, .wait] watch = some later ∧ later.outcome = some (.ok ()) := by
  let next : Watch := { watch with waiter := { watch.waiter with phase := .arriving } }
  have stepped : watch.step? .wait = some next := by
    simp [step?, wait?, Waiter.step?, next, waiting, parked, notified]
  have waitingStill : next.outcome = none := waiting
  obtain ⟨later, ran, told⟩ := returns_of_arriving waitingStill rfl enough
  exact ⟨later, by rw [run?, stepped, Option.bind_some, ran], told⟩

end Returning

/-- All messages that are stored are announced. -/
def AllAnnounced (watch : Watch) : Prop :=
  ∀ writer ∈ watch.writers, ¬ writer.IsUnannounced

theorem AllAnnounced.not_unannounced (announced : watch.AllAnnounced) :
    ¬ Unannounced watch.writers := by
  rintro ⟨number, writer, there, isUnannounced⟩
  exact announced writer (List.mem_of_getElem? there) isUnannounced

/-- What someone who waits for a number of messages can rely on. -/
structure Attentive
    (watch : Watch)
    (expected : Nat) :
    Prop where
  /-- While the waiter is asleep without having been woken, and all stored messages are announced, there are
  too few of them. -/
  asleep
    (parked : watch.waiter.phase = .parked)
    (unwoken : watch.waiter.notified = false)
    (announced : watch.AllAnnounced) :
    watch.store.inner.size < expected
  /-- If the waiter was told that there are enough messages, it was told the truth. -/
  told (returned : watch.outcome = some (.ok ())) : expected ≤ watch.store.inner.size
  /-- Once there are enough messages, and all are announced, the waiter needs no more than steps of its own
  to be told so, if it still waits. -/
  returns
    (waiting : watch.outcome = none)
    (enough : expected ≤ watch.store.inner.size)
    (announced : watch.AllAnnounced) :
    ∃ steps ≤ 3, ∃ later,
      run? (List.replicate steps .wait) watch = some later ∧ later.outcome = some (.ok ())

theorem Sound.attentive
    {expected : Nat}
    (sound : watch.Sound expected) :
    watch.Attentive expected where
  asleep parked unwoken announced := by
    refine Nat.lt_of_not_le fun enough => ?_
    exact announced.not_unannounced (sound.awaited parked unwoken enough)
  told := sound.truthful
  returns waiting enough announced := by
    have reached : watch.waiter.expected ≤ watch.store.inner.size := sound.expected_eq ▸ enough
    cases phase : watch.waiter.phase with
    | arriving => exact ⟨2, by decide, returns_of_arriving waiting phase reached⟩
    | registered => exact ⟨1, by decide, returns_of_registered waiting phase reached⟩
    | parked =>
        cases notified : watch.waiter.notified with
        | true => exact ⟨3, by decide, returns_of_woken waiting phase notified reached⟩
        | false =>
            exact absurd (sound.awaited phase notified enough) announced.not_unannounced
    | satisfied => cases waiting.symm.trans (sound.satisfied phase)

/-- Whatever happened since someone began to wait in a store that is not cleared, no message was missed. -/
theorem misses_nothing
    {store : MonitoredStore}
    {expected : Nat}
    {moves : List Move}
    (ran : run? moves (new store expected) = some watch) :
    watch.Attentive expected :=
  ((Sound.new store expected).run ran).attentive

/-- Someone waits for two messages and is woken by the first, and again by a writer that had to fail. -/
def wokenInVain : List Move :=
  [.wait, .wait,
    .begin ⟨.ofNat 1, MessageStore.blankFrom "http://mmsc/m/1"⟩, .write 0, .write 0, .write 0,
    .wait, .wait, .wait,
    .failPersist true,
    .begin ⟨.ofNat 2, MessageStore.blankFrom "http://mmsc/m/2"⟩, .write 1, .write 1,
    .wait, .wait, .wait]

/-- A third writer stores its message while the waiter is asleep. -/
def wokenAtLast : List Move :=
  wokenInVain ++
    [.failPersist false,
      .begin ⟨.ofNat 3, MessageStore.blankFrom "http://mmsc/m/3"⟩, .write 2, .write 2, .write 2]

/-- In the end the waiter is asleep with one message of two, and with the other one it is told. -/
theorem misses_nothing_wokenAtLast :
    (run? wokenInVain (new .empty 2)).map
          (fun watch => (watch.waiter, watch.store.inner.size, watch.store.attempts)) =
        some (⟨2, .parked, false⟩, 1, 2) ∧
      ∃ watch,
        run? wokenAtLast (new .empty 2) = some watch ∧
          watch.waiter = ⟨2, .parked, true⟩ ∧
          watch.store.inner.size = 2 ∧
          watch.Attentive 2 := by
  have described :
      (run? wokenAtLast (new .empty 2)).map
          (fun watch => (watch.waiter, watch.store.inner.size)) =
        some (⟨2, .parked, true⟩, 2) := by
    decide +kernel
  obtain ⟨watch, ran, shown⟩ := Option.map_eq_some_iff.mp described
  obtain ⟨waiter, size⟩ := Prod.mk.inj shown
  exact ⟨by decide +kernel, watch, ran, waiter, size, misses_nothing ran⟩

section Alone

/-- A writer that nobody interferes with does what a call of the store does. -/
theorem run?_persist
    (watch : Watch)
    (delivery : Delivery) :
    ∃ (steps : Nat) (later : Watch),
      run? (.begin delivery :: List.replicate steps (.write watch.writers.length)) watch =
          some later ∧
        later.store = (watch.store.persist delivery.id delivery.record).2 ∧
        later.writers =
          watch.writers ++
            [⟨delivery, .finished (watch.store.persist delivery.id delivery.record).1⟩] := by
  let counted : MonitoredStore := { watch.store with attempts := watch.store.attempts + 1 }
  cases failing : watch.store.failing with
  | true =>
      refine ⟨2, ⟨counted, watch.waiter.notice, watch.outcome, watch.writers ++
        [⟨delivery, .finished (.error MonitoredStore.injectedFailure)⟩]⟩, ?_, ?_, ?_⟩
      case refine_1 =>
        simp [run?, step?, write?, Watch.advance, List.replicate, failing, counted]
      case refine_2 => simp [MonitoredStore.persist, failing, counted]
      case refine_3 => simp [MonitoredStore.persist, failing]
  | false =>
      cases turn : watch.store.inner.persist delivery.id delivery.record with
      | error error =>
          refine ⟨2, ⟨counted, watch.waiter, watch.outcome, watch.writers ++
            [⟨delivery, .finished (.error error)⟩]⟩, ?_, ?_, ?_⟩
          case refine_1 =>
            simp [run?, step?, write?, Watch.advance, List.replicate, failing, turn, counted]
          case refine_2 => simp [MonitoredStore.persist, failing, turn, counted]
          case refine_3 => simp [MonitoredStore.persist, failing, turn]
      | ok inner =>
          refine ⟨3, ⟨{ counted with inner := inner }, watch.waiter.notice, watch.outcome,
            watch.writers ++ [⟨delivery, .finished (.ok ())⟩]⟩, ?_, ?_, ?_⟩
          case refine_1 =>
            simp [run?, step?, write?, Watch.advance, List.replicate, failing, turn, counted]
          case refine_2 => simp [MonitoredStore.persist, failing, turn, counted]
          case refine_3 => simp [MonitoredStore.persist, failing, turn]

/-- A waiter that nobody interferes with is told what the store tells who waits in vain or finds enough. -/
theorem run?_await
    (store : MonitoredStore)
    (expected : Nat) :
    ∃ (moves : List Move) (later : Watch),
      (∀ move ∈ moves, move = .wait ∨ move = .runOut) ∧
        run? moves (new store expected) = some later ∧
        later.store = store ∧
        later.outcome = some (Waiter.await expected store.inner.size) := by
  by_cases enough : expected ≤ store.inner.size
  · refine ⟨[.wait, .wait], ⟨store, ⟨expected, .satisfied, false⟩, some (.ok ()), []⟩, ?_, ?_, ?_, ?_⟩
    case refine_1 => simp
    case refine_2 =>
      simp [run?, step?, wait?, new, Waiter.new, Waiter.step?, Waiter.register, enough]
    case refine_3 => rfl
    case refine_4 => simp [Waiter.await, Waiter.new, Waiter.step?, Waiter.register, enough]
  · refine ⟨[.wait, .wait, .runOut],
      ⟨store, ⟨expected, .parked, false⟩, some (.error Waiter.timedOut), []⟩, ?_, ?_, ?_, ?_⟩
    case refine_1 => simp
    case refine_2 =>
      simp [run?, step?, wait?, runOut?, new, Waiter.new, Waiter.step?, Waiter.register, enough]
    case refine_3 => rfl
    case refine_4 => simp [Waiter.await, Waiter.new, Waiter.step?, Waiter.register, enough]

end Alone

end Watch

end MmsInbox
