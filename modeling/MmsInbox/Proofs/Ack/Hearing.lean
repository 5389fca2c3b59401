import MmsInbox.Proofs.Ack.Accounting

namespace MmsInbox

/-!
# What the worker hears

A listener reads the oldest signal that it has not missed, and a signal that finds room pushes nothing out.
The worker of a lane hears one piece of news in a step or none at all (`Lane.news_of_works`), and its
handles are not its own to drop. Where nothing is broadcast it hears nothing (`Traffic.Quiet`).
-/

namespace SignalInbox

variable {inbox rest : SignalInbox}

/-- The listener has missed nothing and has exactly these signals before it. -/
structure Holds
    (inbox : SignalInbox)
    (signals : List Signal) :
    Prop where
  unmissed : inbox.missed = 0
  pending : inbox.pending = signals
  connected : inbox.connected = true

namespace Holds

variable {signals : List Signal}

/-- A listener with nothing before it reads nothing. -/
theorem silent (holds : inbox.Holds []) : inbox.receive? = none := by
  simp [receive?, holds.unmissed, holds.pending, holds.connected]

/-- A listener reads the oldest signal first. -/
theorem receive?_eq
    {signal : Signal}
    (holds : inbox.Holds (signal :: signals)) :
    inbox.receive? = some (.ok signal, { inbox with pending := signals }) := by
  simp [receive?, holds.unmissed, holds.pending]

/-- A signal that finds room pushes nothing out. -/
theorem push
    (holds : inbox.Holds signals)
    (room : signals.length < inbox.capacity)
    (signal : Signal) :
    (inbox.push signal).Holds (signals ++ [signal]) := by
  have fits : signals.length + 1 - inbox.capacity = 0 := by omega
  refine ⟨?_, ?_, holds.connected⟩
  · simp [SignalInbox.push, holds.unmissed, holds.pending, fits]
  · simp [SignalInbox.push, holds.pending, fits]

end Holds

theorem capacity_of_receive?
    {news : Except SignalLoss Signal}
    (received : inbox.receive? = some (news, rest)) :
    rest.capacity = inbox.capacity := by
  unfold receive? at received
  split at received
  · obtain ⟨_, rfl⟩ := Prod.mk.inj (Option.some.inj received)
    rfl
  · split at received
    · obtain ⟨_, rfl⟩ := Prod.mk.inj (Option.some.inj received)
      rfl
    · split at received
      · simp at received
      · obtain ⟨_, rfl⟩ := Prod.mk.inj (Option.some.inj received)
        rfl

end SignalInbox

namespace Lane

variable
  {σ : Type}
  {environment : Environment σ}
  {settings : AckSettings}
  {lane next : Lane}
  {world later : σ}
  {events : List LaneEvent}

theorem afterSend_surroundings
    (remaining : Program Unit)
    (draining : Bool) :
    (lane.afterSend remaining draining).handles = lane.handles ∧
      (lane.afterSend remaining draining).signals = lane.signals := by
  cases remaining <;> exact ⟨rfl, rfl⟩

theorem news_of_sending
    {rest : Program Unit}
    {draining : Bool}
    (sending : lane.worker = .sending rest draining)
    (next : Lane) :
    (lane.seen next).filterMap LaneEvent.news? = [] := by
  rcases seen_of_sending sending next with seen | seen
  all_goals rw [seen]; rfl

/-- A worker that makes a step has not ended. -/
theorem hasEnded_of_works
    (works : Works environment settings lane world events next later) :
    lane.hasEnded = false := by
  cases works with
  | finishes closing empty => rcases closing with doing | doing <;> simp [hasEnded, doing]
  | _ => simp [hasEnded, *]

theorem handles_of_works
    (works : Works environment settings lane world events next later) :
    next.handles = lane.handles := by
  cases works with
  | @hears news signals waiting received =>
      rcases news with loss | signal
      · rfl
      · cases signal <;> rfl
  | sends sending stepped => exact (afterSend_surroundings _ _).1
  | settles sending atEnd => exact (afterSend_surroundings _ _).1
  | _ => rfl

/-- In one step the worker hears nothing, or what it reads first. -/
theorem news_of_works
    (works : Works environment settings lane world events next later) :
    (events.filterMap LaneEvent.news? = [] ∧ next.signals = lane.signals) ∨
      ∃ news, lane.worker = .waiting ∧
        lane.signals.receive? = some (news, next.signals) ∧
        events.filterMap LaneEvent.news? = [news] := by
  cases works with
  | @hears news signals waiting received =>
      refine .inr ⟨news, waiting, ?_, rfl⟩
      rcases news with loss | signal
      · exact received
      · cases signal <;> exact received
  | sends sending stepped =>
      exact .inl ⟨news_of_sending sending _, (afterSend_surroundings _ _).2⟩
  | settles sending atEnd =>
      exact .inl ⟨news_of_sending sending _, (afterSend_surroundings _ _).2⟩
  | _ => exact .inl ⟨rfl, rfl⟩

@[simp] theorem signal_hasEnded (signal : Signal) :
    (lane.signal signal).hasEnded = lane.hasEnded := by
  simp [hasEnded]

@[simp] theorem signal_capacity (signal : Signal) :
    (lane.signal signal).signals.capacity = lane.signals.capacity := by
  unfold Lane.signal
  split <;> rfl

/-- A worker that has not ended is told what is broadcast. -/
theorem signal_holds
    {signals : List Signal}
    (holds : lane.signals.Holds signals)
    (going : lane.hasEnded = false)
    (room : signals.length < lane.signals.capacity)
    (signal : Signal) :
    (lane.signal signal).signals.Holds (signals ++ [signal]) := by
  have hears : lane.hears = true := by simp [hears, holds.connected, going]
  simpa [Lane.signal, hears] using holds.push room signal

end Lane

namespace Traffic

variable
  {σ : Type}
  {environment : Environment σ}
  {settings : AckSettings}
  {traffic later : Traffic σ}

/-- In one step the worker of the traffic hears nothing, or what it reads first. -/
theorem news_of_work?
    (worked : traffic.work? environment settings = some later) :
    (later.news = traffic.news ∧ later.lane.signals = traffic.lane.signals) ∨
      ∃ order, traffic.lane.worker = .waiting ∧
        traffic.lane.signals.receive? = some (order, later.lane.signals) ∧
        later.news = traffic.news ++ [order] := by
  obtain ⟨lane, world, record, events, works, rfl⟩ := works_of_work? worked
  rcases Lane.news_of_works works with ⟨unheard, signals⟩ | ⟨order, waiting, received, heard⟩
  · exact .inl ⟨by simp [news, unheard], signals⟩
  · exact .inr ⟨order, waiting, received, by simp [news, heard]⟩

/-- Nothing was broadcast so far, and the worker has heard nothing. -/
structure Quiet (traffic : Traffic σ) : Prop where
  silent : traffic.lane.signals.Holds []
  unheard : traffic.news = []

namespace Quiet

variable {surroundings : Surroundings σ}

theorem new
    (signalCapacity : Nat)
    (world : σ) :
    (Traffic.new signalCapacity world).Quiet :=
  ⟨⟨rfl, rfl, rfl⟩, rfl⟩

theorem push
    (quiet : traffic.Quiet)
    (owner : Nat)
    (task : AckTask) :
    (traffic.push environment owner task).Quiet := by
  cases accepting : traffic.lane.accepting with
  | true =>
      rw [push_of_accepting accepting]
      exact ⟨quiet.silent, quiet.unheard⟩
  | false =>
      rw [push_of_closed accepting]
      exact ⟨quiet.silent, quiet.unheard⟩

/-- What is no broadcast leaves the lane quiet. -/
theorem step
    {move : Move σ}
    (quiet : traffic.Quiet)
    (silent : move.isSilent = true)
    (stepped : traffic.step? surroundings settings move = some later) :
    later.Quiet := by
  cases happens_of_step? stepped with
  | pushes owner task => exact quiet.push owner task
  | works worked =>
      rcases news_of_work? worked with ⟨same, signals⟩ | ⟨order, _, received, _⟩
      · exact ⟨signals ▸ quiet.silent, same.trans quiet.unheard⟩
      · cases received.symm.trans quiet.silent.silent
  | around _ kept => exact ⟨kept silent ▸ quiet.silent, quiet.unheard⟩

end Quiet

end Traffic

end MmsInbox
