import MmsInbox.Proofs.Ack.Hearing
import MmsInbox.Proofs.Ack.Submitting

namespace MmsInbox

/-!
# Why queued tasks are thrown away

A listener holds the latest signals that its channel has room for and knows how many it has missed
(`SignalInbox.Latest`), so whatever the worker of a lane hears has a reason in what was broadcast
(`SignalInbox.Reason`). As long as nobody broadcasts a shutdown, accepted tasks are thrown away only if the
worker has lost signals: more were broadcast than the channel has room for, or the sender has gone without a
word (`Submitters.undiscarded_of_run?`).
-/

namespace SignalInbox

variable {inbox rest : SignalInbox}

/-- A listener that has not read anything holds the latest of the signals that were broadcast. -/
structure Latest
    (inbox : SignalInbox)
    (told : List Signal) :
    Prop where
  missed : inbox.missed = told.length - inbox.capacity
  pending : inbox.pending = told.drop (told.length - inbox.capacity)

/-- A signal pushes out the oldest one if there is no room. -/
theorem Latest.push
    {told : List Signal}
    (latest : inbox.Latest told)
    (signal : Signal) :
    (inbox.push signal).Latest (told ++ [signal]) := by
  obtain ⟨missed, pending⟩ := latest
  have kept : inbox.pending.length = told.length - (told.length - inbox.capacity) := by
    rw [pending, List.length_drop]
  have within : told.length - inbox.capacity ≤ told.length := Nat.sub_le _ _
  refine ⟨?_, ?_⟩
  · simp only [SignalInbox.push, missed, kept, List.length_append, List.length_singleton]
    omega
  · simp only [SignalInbox.push, List.length_append, List.length_singleton, kept]
    rw [pending, ← List.drop_append_of_le_length within, List.drop_drop]
    congr 1
    omega

/-- What makes a listener hear something: a signal that was broadcast, more signals than there is room for,
or a sender that is gone without a word. -/
inductive Reason
    (capacity : Nat)
    (told : List Signal)
    (live : Bool) :
    Except SignalLoss Signal → Prop where
  | told
      {signal : Signal}
      (broadcast : signal ∈ told) :
      Reason capacity told live (.ok signal)
  | lagged
      {missed : Nat}
      (some : 0 < missed)
      (overrun : capacity + missed ≤ told.length) :
      Reason capacity told live (.error (.lagged missed))
  | closed
      (untold : told = [])
      (gone : live = false) :
      Reason capacity told live (.error .closed)

/-- What a listener reads first has a reason in what was broadcast. -/
theorem Latest.reason
    {told : List Signal}
    {news : Except SignalLoss Signal}
    (latest : inbox.Latest told)
    (received : inbox.receive? = some (news, rest)) :
    Reason inbox.capacity told inbox.connected news := by
  obtain ⟨missed, pending⟩ := latest
  unfold receive? at received
  split at received
  case isTrue lagging =>
    obtain ⟨rfl, _⟩ := Prod.mk.inj (Option.some.inj received)
    exact .lagged (by omega) (by omega)
  case isFalse keeping =>
    split at received
    case h_1 signal later waiting =>
      obtain ⟨rfl, _⟩ := Prod.mk.inj (Option.some.inj received)
      refine .told (List.mem_of_mem_drop (i := told.length - inbox.capacity) ?_)
      rw [← pending, waiting]
      exact List.mem_cons_self
    case h_2 empty =>
      split at received
      case isTrue => cases received
      case isFalse gone =>
        obtain ⟨rfl, _⟩ := Prod.mk.inj (Option.some.inj received)
        have fits : told.length - inbox.capacity = 0 := by omega
        rw [empty, fits, List.drop_zero] at pending
        exact .closed pending.symm (by simpa using gone)

/-- Of a sender that is there, more may be heard; a sender that is gone stays gone and says nothing more. -/
theorem Reason.mono
    {capacity : Nat}
    {told more : List Signal}
    {live liveLater : Bool}
    {news : Except SignalLoss Signal}
    (reason : Reason capacity told live news)
    (gone : live = false → more = [] ∧ liveLater = false) :
    Reason capacity (told ++ more) liveLater news := by
  cases reason with
  | told broadcast => exact .told (List.mem_append_left _ broadcast)
  | lagged some overrun =>
      refine .lagged some ?_
      rw [List.length_append]
      omega
  | closed untold gone' =>
      obtain ⟨rfl, liveless⟩ := gone gone'
      exact .closed (by simp [untold]) liveless

end SignalInbox

namespace Lane

variable
  {σ : Type}
  {environment : Environment σ}
  {settings : AckSettings}
  {lane next : Lane}
  {world later : σ}
  {events : List LaneEvent}

/-- The worker may still hear something: it is between two sends with the queue open, or in a send from which
it comes back there. -/
def IsListening (lane : Lane) : Prop :=
  lane.worker = .waiting ∨ ∃ rest, lane.worker = .sending rest false

theorem IsListening.going (listening : lane.IsListening) : lane.hasEnded = false := by
  rcases listening with waiting | ⟨rest, sending⟩
  · simp [hasEnded, waiting]
  · simp [hasEnded, sending]

theorem IsListening.of_afterSend
    {rest remaining : Program Unit}
    {draining : Bool}
    (sending : lane.worker = .sending rest draining)
    (listening : (lane.afterSend remaining draining).IsListening) :
    lane.IsListening := by
  cases draining with
  | false => exact .inr ⟨rest, sending⟩
  | true =>
      cases remaining <;> simp [IsListening, afterSend, collapse] at listening

/-- A worker that is listening was listening before, and has not heard anything since. -/
theorem IsListening.of_works
    (works : Works environment settings lane world events next later)
    (listening : next.IsListening) :
    lane.IsListening ∧ next.signals = lane.signals := by
  cases works with
  | @hears news signals waiting received =>
      rcases news with loss | signal
      · simp [IsListening, heed] at listening
      · cases signal <;> simp [IsListening, heed] at listening
  | begins waiting quiet queued => exact ⟨.inl waiting, rfl⟩
  | drains draining queued => simp [IsListening, beginSend] at listening
  | discards discarding queued => simp [IsListening, discarding] at listening
  | abandons waiting unhandled empty => simp [IsListening, stop] at listening
  | finishes closing empty => simp [IsListening, stop] at listening
  | sends sending stepped =>
      exact ⟨.of_afterSend sending listening, (afterSend_surroundings _ _).2⟩
  | settles sending atEnd =>
      exact ⟨.of_afterSend sending listening, (afterSend_surroundings _ _).2⟩

theorem capacity_of_works
    (works : Works environment settings lane world events next later) :
    next.signals.capacity = lane.signals.capacity := by
  rcases news_of_works works with ⟨_, same⟩ | ⟨news, _, received, _⟩
  · rw [same]
  · exact SignalInbox.capacity_of_receive? received

end Lane

namespace Traffic

variable
  {σ : Type}
  {surroundings : Surroundings σ}
  {settings : AckSettings}
  {traffic later : Traffic σ}
  {room : Nat}
  {told : List Signal}
  {live : Bool}

/-- The worker hears what is broadcast: as long as it is listening it holds the latest signals, and whatever
it has heard has a reason. -/
structure Attuned
    (room : Nat)
    (told : List Signal)
    (live : Bool)
    (traffic : Traffic σ) :
    Prop where
  capacity : traffic.lane.signals.capacity = room
  listening
    (listening : traffic.lane.IsListening) :
    traffic.lane.signals.Latest told ∧ traffic.lane.signals.connected = live
  reasons
    {news : Except SignalLoss Signal}
    (heard : news ∈ traffic.news) :
    SignalInbox.Reason room told live news

namespace Attuned

theorem new
    (signalCapacity : Nat)
    (world : σ) :
    (Traffic.new signalCapacity world).Attuned signalCapacity.nextPowerOfTwo [] true where
  capacity := rfl
  listening _ := ⟨⟨by simp [Traffic.new, Lane.new, SignalInbox.new], List.drop_nil.symm⟩, rfl⟩
  reasons heard := by simp [Traffic.new, Traffic.news] at heard

/-- What leaves the worker, its signals and what it has heard alone leaves it attuned. -/
theorem aside
    (attuned : traffic.Attuned room told live)
    (worker : later.lane.worker = traffic.lane.worker)
    (signals : later.lane.signals = traffic.lane.signals)
    (news : later.news = traffic.news) :
    later.Attuned room told live where
  capacity := signals ▸ attuned.capacity
  listening listening := by
    rw [signals]
    exact attuned.listening (by rwa [Lane.IsListening, worker] at listening)
  reasons heard := attuned.reasons (news ▸ heard)

/-- What the worker hears has a reason. -/
theorem work
    (attuned : traffic.Attuned room told live)
    (worked : traffic.work? surroundings.lane settings = some later) :
    later.Attuned room told live := by
  have heard := news_of_work? worked
  obtain ⟨lane, world, record, events, works, rfl⟩ := works_of_work? worked
  refine ⟨(Lane.capacity_of_works works).trans attuned.capacity, fun listening => ?_, fun member => ?_⟩
  · obtain ⟨before, same⟩ := Lane.IsListening.of_works works listening
    dsimp only
    rw [same]
    exact attuned.listening before
  · rcases heard with ⟨same, _⟩ | ⟨order, waiting, received, more⟩
    · exact attuned.reasons (same ▸ member)
    · rw [more, List.mem_append, List.mem_singleton] at member
      rcases member with earlier | rfl
      · exact attuned.reasons earlier
      · obtain ⟨latest, connected⟩ := attuned.listening (.inl waiting)
        have reason := latest.reason received
        rwa [attuned.capacity, connected] at reason

theorem push
    (attuned : traffic.Attuned room told live)
    (owner : Nat)
    (task : AckTask) :
    (traffic.push surroundings.others owner task).Attuned room told live := by
  cases accepting : traffic.lane.accepting with
  | true =>
      rw [push_of_accepting accepting]
      exact attuned.aside rfl rfl rfl
  | false =>
      rw [push_of_closed accepting]
      exact attuned.aside rfl rfl rfl

/-- Whatever is no broadcast leaves the worker attuned. -/
theorem step
    {move : Move σ}
    (attuned : traffic.Attuned room told live)
    (silent : move.isSilent = true)
    (stepped : traffic.step? surroundings settings move = some later) :
    later.Attuned room told live := by
  cases happens_of_step? stepped with
  | pushes owner task => exact attuned.push owner task
  | works worked => exact attuned.work worked
  | around around kept => exact attuned.aside around.worker (kept silent) rfl

/-- A signal is among those that were broadcast if there is a sender. -/
theorem signal
    (attuned : traffic.Attuned room told live)
    (signal : Signal) :
    Attuned room (told ++ if live then [signal] else []) live
      { traffic with lane := traffic.lane.signal signal } where
  capacity := (Lane.signal_capacity signal).trans attuned.capacity
  listening listening := by
    have before : traffic.lane.IsListening := by
      simpa [Lane.IsListening] using listening
    obtain ⟨latest, connected⟩ := attuned.listening before
    cases live with
    | true =>
        have hears : traffic.lane.hears = true := by simp [Lane.hears, connected, before.going]
        simp only [Lane.signal, hears, if_true]
        exact ⟨latest.push signal, connected⟩
    | false =>
        have deaf : traffic.lane.hears = false := by simp [Lane.hears, connected]
        simpa [Lane.signal, deaf] using And.intro latest connected
  reasons heard := (attuned.reasons heard).mono fun gone => by simp [gone]

/-- A sender that goes says nothing more. -/
theorem disconnect (attuned : traffic.Attuned room told live) :
    Attuned room told false { traffic with lane := traffic.lane.disconnectSignals } where
  capacity := attuned.capacity
  listening listening := by
    obtain ⟨⟨missed, pending⟩, _⟩ := attuned.listening listening
    exact ⟨⟨missed, pending⟩, rfl⟩
  reasons heard := by
    have reason : SignalInbox.Reason room (told ++ []) false _ :=
      (attuned.reasons heard).mono fun _ => ⟨rfl, rfl⟩
    rwa [List.append_nil] at reason

end Attuned

/-- A worker that has heard nothing but, perhaps, the order to finish has thrown nothing away. -/
theorem Accounts.undiscarded
    (accounts : traffic.Accounts settings)
    (calm : traffic.record.Calm)
    (heard : ∀ news ∈ traffic.news, news = .ok .finalised) :
    traffic.discarded = [] := by
  have chronicled := accounts.chronicled
  cases accounts.standing with
  | serving worker accepting news discarded => exact discarded
  | draining worker accepting news discarded => exact discarded
  | abandoned worker accepting queue handles news discarded => exact discarded
  | finished worker accepting queue news discarded => exact discarded
  | @discarding order worker accepting news serious =>
      exact absurd (heard order (by simp [Traffic.news, news])) serious
  | @halted order worker accepting queue news serious =>
      exact absurd (heard order (by simp [Traffic.news, news])) serious
  | collapsed worker =>
      rw [worker] at chronicled
      exact absurd calm chronicled

end Traffic

namespace Submitters

variable
  {σ : Type}
  {surroundings : Surroundings σ}
  {settings : AckSettings}
  {submitters later : Submitters σ}

/-- The sender of signals is there throughout the moves. -/
def senderStays (moves : List (Move σ)) : Bool :=
  moves.all fun move =>
    match move with
    | .disconnect => false
    | _ => true

/-- The signals that are broadcast before the sender is gone. -/
def told : List (Move σ) → List Signal
  | [] => []
  | .disconnect :: _ => []
  | .signal signal :: later => signal :: told later
  | _ :: later => told later

theorem senderStays_append (moves more : List (Move σ)) :
    senderStays (moves ++ more) = (senderStays moves && senderStays more) :=
  List.all_append

theorem mem_of_mem_told
    {moves : List (Move σ)}
    {signal : Signal}
    (member : signal ∈ told moves) :
    .signal signal ∈ moves := by
  induction moves with
  | nil => cases member
  | cons move later inductionHypothesis =>
      cases move with
      | disconnect => cases member
      | signal other =>
          rcases List.mem_cons.mp member with rfl | after
          · exact List.mem_cons_self
          · exact List.mem_cons_of_mem _ (inductionHypothesis after)
      | _ => exact List.mem_cons_of_mem _ (inductionHypothesis member)

theorem mem_of_not_senderStays
    {moves : List (Move σ)}
    (gone : senderStays moves = false) :
    .disconnect ∈ moves := by
  obtain ⟨move, member, leaves⟩ := List.all_eq_false.mp gone
  cases move with
  | disconnect => exact member
  | _ => exact absurd rfl leaves

/-- A move adds the signal that it broadcasts, if there is a sender. -/
theorem told_append_singleton
    (moves : List (Move σ))
    (move : Move σ) :
    told (moves ++ [move]) = told moves ++ if senderStays moves then told [move] else [] := by
  induction moves with
  | nil => simp [told, senderStays]
  | cons first later inductionHypothesis =>
      cases first with
      | disconnect => simp [told, senderStays]
      | _ => simpa [told, senderStays] using inductionHypothesis

/-- What is no broadcast leaves the worker attuned. -/
theorem attuned_of_silent
    {room : Nat}
    {heard : List Signal}
    {live : Bool}
    {move : Move σ}
    (attuned : submitters.traffic.Attuned room heard live)
    (silent : move.isSilent = true)
    (stepped : submitters.step? surroundings settings move = some later) :
    later.traffic.Attuned room heard live := by
  cases happens_of_step? stepped with
  | submits tasks => exact attuned
  | pushes present => exact attuned.push _ _
  | passes _ unbroadcast passed => exact attuned.step (unbroadcast silent) passed

/-- Whatever happens among submitters, the worker stays attuned to what is broadcast. -/
theorem attuned_of_step?
    {room : Nat}
    {moves : List (Move σ)}
    {move : Move σ}
    (attuned : submitters.traffic.Attuned room (told moves) (senderStays moves))
    (stepped : submitters.step? surroundings settings move = some later) :
    later.traffic.Attuned room (told (moves ++ [move])) (senderStays (moves ++ [move])) := by
  rw [told_append_singleton, senderStays_append]
  cases move with
  | signal signal =>
      obtain rfl := Option.some.inj stepped
      simpa [told, senderStays] using attuned.signal signal
  | disconnect =>
      obtain rfl := Option.some.inj stepped
      simpa [told, senderStays] using attuned.disconnect
  | _ => simpa [told, senderStays] using attuned_of_silent attuned rfl stepped

/-- Whatever happens among submitters one after another, the worker is attuned to what is broadcast. -/
theorem attuned_of_run?
    {room : Nat}
    {earlier moves : List (Move σ)}
    (attuned : submitters.traffic.Attuned room (told earlier) (senderStays earlier))
    (ran : run? surroundings settings moves submitters = some later) :
    later.traffic.Attuned room (told (earlier ++ moves)) (senderStays (earlier ++ moves)) := by
  induction moves generalizing submitters earlier with
  | nil =>
      obtain rfl := Option.some.inj ran
      rwa [List.append_nil]
  | cons move moves inductionHypothesis =>
      obtain ⟨next, stepped, ranOn⟩ := Option.bind_eq_some_iff.mp ran
      have onwards := inductionHypothesis (attuned_of_step? attuned stepped) ranOn
      rwa [List.append_assoc] at onwards

/-- No accepted task has been thrown away, and the worker does not end before it has attempted all of them:
it ends on the order to finish, or when the last handle is gone. -/
structure Undiscarded
    (moves : List (Move σ))
    (submitters : Submitters σ) :
    Prop where
  discarded : submitters.traffic.discarded = []
  cause
    (ended : submitters.traffic.lane.hasEnded = true) :
    submitters.traffic.news = [.ok .finalised] ∧ .signal .finalised ∈ moves ∨
      submitters.traffic.news = [] ∧ submitters.traffic.lane.handles = 0
  attempted
    (ended : submitters.traffic.lane.hasEnded = true) :
    submitters.traffic.attempted = submitters.traffic.accepted
  sendsOver
    (ended : submitters.traffic.lane.hasEnded = true) :
    submitters.traffic.sendsOver = submitters.traffic.accepted.length

/-- A worker that has heard nothing but, perhaps, the order to finish discards nothing. -/
theorem Kept.undiscarded
    {moves : List (Move σ)}
    (kept : submitters.Kept settings)
    (calm : submitters.traffic.record.Calm)
    (heard :
      ∀ news ∈ submitters.traffic.news, news = .ok .finalised ∧ .signal .finalised ∈ moves) :
    submitters.Undiscarded moves := by
  have accounts := kept.accounts calm
  have discarded := accounts.undiscarded calm fun news member => (heard news member).1
  have attempted :
      submitters.traffic.lane.hasEnded = true →
        submitters.traffic.attempted = submitters.traffic.accepted := by
    intro ended
    obtain ⟨_, empty, _⟩ := accounts.of_hasEnded calm ended
    simp [accounts.balanced, discarded, empty]
  refine ⟨discarded, fun ended => ?_, attempted, fun ended => ?_⟩
  · rcases (kept.settled calm ended).cause with unheard | ⟨order, only⟩
    · exact .inr unheard
    · obtain ⟨rfl, broadcast⟩ := heard order (by simp [only])
      exact .inl ⟨only, broadcast⟩
  · rw [(kept.settled calm ended).sendsOver, attempted ended]

/-- The worker has heard one piece of news at most. -/
theorem Kept.news_of_mem
    {order : Except SignalLoss Signal}
    (kept : submitters.Kept settings)
    (calm : submitters.traffic.record.Calm)
    (heard : order ∈ submitters.traffic.news) :
    submitters.traffic.news = [order] := by
  have accounts := kept.accounts calm
  have chronicled := accounts.chronicled
  unfold Traffic.news at heard ⊢
  cases accounts.standing with
  | collapsed worker =>
      rw [worker] at chronicled
      exact absurd calm chronicled
  | _ => simp_all

/-- The worker has lost signals. It attempts nothing more, throws away what is queued, and ends after that. -/
structure GivesUp
    (loss : SignalLoss)
    (submitters : Submitters σ) :
    Prop where
  heard : submitters.traffic.news = [.error loss]
  balanced :
    submitters.traffic.accepted =
      submitters.traffic.attempted ++ submitters.traffic.discarded ++ submitters.traffic.lane.queue
  worker :
    submitters.traffic.lane.worker = .discarding ∨
      submitters.traffic.lane.worker = .stopped ∧ submitters.traffic.lane.queue = []

/-- A worker that has lost signals gives up. -/
theorem Kept.givesUp
    {loss : SignalLoss}
    (kept : submitters.Kept settings)
    (calm : submitters.traffic.record.Calm)
    (heard : .error loss ∈ submitters.traffic.news) :
    submitters.GivesUp loss := by
  have accounts := kept.accounts calm
  have only := kept.news_of_mem calm heard
  have chronicled := accounts.chronicled
  refine ⟨only, accounts.balanced, ?_⟩
  unfold Traffic.news at only
  cases accounts.standing with
  | serving worker accepting news discarded => cases news.symm.trans only
  | draining worker accepting news discarded => cases news.symm.trans only
  | abandoned worker accepting queue handles news discarded => cases news.symm.trans only
  | finished worker accepting queue news discarded => cases news.symm.trans only
  | discarding worker accepting news serious => exact .inl worker
  | halted worker accepting queue news serious => exact .inr ⟨worker, queue⟩
  | collapsed worker =>
      rw [worker] at chronicled
      exact absurd calm chronicled

/-- As long as nobody broadcasts a shutdown and nobody panics in the worker's dealings with the world, no
accepted task is thrown away and the worker ends only after it has attempted all of them, on the order to
finish or when the last handle is gone; unless it gives up, as it has lost signals because more were
broadcast than its channel has room for, or has lost their sender before anything was broadcast. -/
theorem undiscarded_of_run?
    (surroundings : Surroundings σ)
    (settings : AckSettings)
    (signalCapacity : Nat)
    (world : σ)
    (moves : List (Move σ))
    {submitters : Submitters σ}
    (ran : run? surroundings settings moves (.new signalCapacity world) = some submitters)
    (unbroken : .signal .shutdown ∉ moves)
    (calm : submitters.traffic.record.Calm) :
    submitters.Undiscarded moves ∨
      (∃ missed,
        submitters.GivesUp (.lagged missed) ∧ 0 < missed ∧
          signalCapacity.nextPowerOfTwo + missed ≤ (told moves).length) ∨
      submitters.GivesUp .closed ∧ .disconnect ∈ moves ∧ told moves = [] := by
  have kept : submitters.Kept settings := (Kept.new signalCapacity world).run ran
  have start :
      (new signalCapacity world).traffic.Attuned signalCapacity.nextPowerOfTwo
        (told ([] : List (Move σ))) (senderStays ([] : List (Move σ))) :=
    .new signalCapacity world
  have attuned := attuned_of_run? start ran
  rw [List.nil_append] at attuned
  by_cases lost : ∃ loss, .error loss ∈ submitters.traffic.news
  · obtain ⟨loss, heard⟩ := lost
    have givesUp := kept.givesUp calm heard
    cases attuned.reasons heard with
    | lagged some overrun => exact .inr (.inl ⟨_, givesUp, some, overrun⟩)
    | closed untold gone => exact .inr (.inr ⟨givesUp, mem_of_not_senderStays gone, untold⟩)
  · refine .inl (kept.undiscarded calm fun news heard => ?_)
    cases attuned.reasons heard with
    | @told signal broadcast =>
        have put := mem_of_mem_told broadcast
        cases signal with
        | finalised => exact ⟨rfl, put⟩
        | shutdown => exact absurd put unbroken
    | lagged some overrun => exact absurd ⟨_, heard⟩ lost
    | closed untold gone => exact absurd ⟨_, heard⟩ lost

/-- Something is broadcast, or the sender goes, while the first of two tasks is being sent and the second is
queued; then the worker goes on for so many steps. -/
def amidst
    (between : List (Move Unit))
    (steps : Nat) :
    List (Move Unit) :=
  [.submit [response "a", response "b"], .push 0, .work, .push 0] ++ between ++
    List.replicate steps .work

/-- Nobody panics, the worker ends, and so many tasks have been thrown away. -/
def endsWith
    (discarded : Nat)
    (moves : List (Move Unit)) :
    Bool :=
  (run? muteness .standard moves (.new 1 ())).any fun submitters =>
    submitters.traffic.record.all (!·.isPanic) && submitters.traffic.lane.hasEnded &&
      submitters.traffic.discarded.length == discarded

theorem exists_of_endsWith
    {discarded : Nat}
    {moves : List (Move Unit)}
    (ends : endsWith discarded moves = true) :
    ∃ submitters,
      run? muteness .standard moves (.new 1 ()) = some submitters ∧
        submitters.traffic.record.Calm ∧
        submitters.traffic.lane.hasEnded = true ∧
        submitters.traffic.discarded.length = discarded := by
  obtain ⟨submitters, ran, holds⟩ := (Option.any_eq_true _ _).mp ends
  simp only [Bool.and_eq_true, beq_iff_eq] at holds
  obtain ⟨⟨untroubled, ended⟩, dropped⟩ := holds
  refine ⟨submitters, ran, fun event member => ?_, ended, dropped⟩
  simpa using List.all_eq_true.mp untroubled event member

/-- On the order to finish, the worker ends after both tasks have been attempted. -/
theorem undiscarded_of_amidst_finalised :
    ∃ submitters,
      run? muteness .standard (amidst [.signal .finalised] 9) (.new 1 ()) = some submitters ∧
        .signal .shutdown ∉ amidst [.signal .finalised] 9 ∧
        submitters.traffic.record.Calm ∧
        submitters.traffic.lane.hasEnded = true ∧
        submitters.Undiscarded (amidst [.signal .finalised] 9) := by
  obtain ⟨submitters, ran, calm, ended, _⟩ :=
    exists_of_endsWith (show endsWith 0 (amidst [.signal .finalised] 9) = true by decide +kernel)
  have unbroken : .signal .shutdown ∉ amidst [.signal .finalised] 9 := by simp [amidst]
  refine ⟨submitters, ran, unbroken, calm, ended, ?_⟩
  rcases undiscarded_of_run? muteness .standard 1 () _ ran unbroken calm with
    undiscarded | ⟨missed, _, some, overrun⟩ | ⟨_, gone, _⟩
  · exact undiscarded
  · have heard : (told (amidst [.signal .finalised] 9)).length = 1 := rfl
    have room : Nat.nextPowerOfTwo 1 = 1 := by decide +kernel
    omega
  · simp [amidst] at gone

/-- Without any shutdown, a task is thrown away if two orders to finish meet a channel that has room for one,
and if the sender of signals goes. -/
theorem not_forall_undiscarded :
    ¬ ∃ between ∈ [[.signal .finalised, .signal .finalised], [.disconnect]],
      ∀ submitters,
        run? muteness .standard (amidst between 6) (.new 1 ()) = some submitters →
          .signal .shutdown ∉ amidst between 6 →
          submitters.traffic.record.Calm →
          submitters.Undiscarded (amidst between 6) := by
  rintro ⟨between, which, kept⟩
  have drops :
      .signal .shutdown ∉ amidst between 6 ∧ endsWith 1 (amidst between 6) = true := by
    simp only [List.mem_cons, List.not_mem_nil, or_false] at which
    rcases which with rfl | rfl
    · exact ⟨by simp [amidst], by decide +kernel⟩
    · exact ⟨by simp [amidst], by decide +kernel⟩
  obtain ⟨submitters, ran, calm, _, dropped⟩ := exists_of_endsWith drops.2
  simp [(kept submitters ran drops.1 calm).discarded] at dropped

end Submitters

end MmsInbox
