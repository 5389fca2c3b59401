import MmsInbox.Proofs.Ack.Auditing
import MmsInbox.Proofs.Receive.Auditing

namespace MmsInbox.Engine

/-!
# What is published is exact

An audit that is switched on publishes of a run what the run has done, and of the lane what its attempts
have come to, each thing once. An audit that is switched off publishes nothing. Either way everything else
goes as it would (`published_exactly`).
-/

open Program Receive

/-- What is published of a run and of a lane is exact. With an audit that is switched on, a run in which
nobody panics has one outcome, and what is published of it agrees with that outcome and with the rows that
the run has removed; of a lane on which nobody panics it agrees, at any time and whatever goes on around
the lane, with the endings of the attempts that are over. With an audit that is switched off nothing is
published. And with any two audits the same happens, comes out and is left behind otherwise. -/
theorem published_exactly
    {σ τ : Type}
    {environment : Environment σ}
    {rows : σ → NotificationStore}
    (keeps : KeepsNotifications environment rows)
    (standard : Subscription)
    (download : Download)
    (start : σ)
    (surroundings : Surroundings τ)
    (settings : AckSettings)
    (signalCapacity : Nat)
    (world : τ)
    (moves : List (Submitters.Move τ)) :
    (∀ auditing : AuditSettings,
      auditing.enabled = true →
      ((process standard download).history (environment.audited auditing) (start, [])).Calm →
      ∃ outcome,
        ((process standard download).run (environment.audited auditing) (start, [])).1 = .ok outcome ∧
          Reconciled auditing download (download.subscription.getD standard) outcome
            ((process standard download).history (environment.audited auditing) (start, []))
            (rows start)
            (rows ((process standard download).run (environment.audited auditing) (start, [])).2.1)
            ((process standard download).run (environment.audited auditing) (start, [])).2.2) ∧
      (∀ (auditing : AuditSettings) (submitters : Submitters (τ × List AuditEvent)),
        auditing.enabled = true →
        Submitters.run? (surroundings.audited auditing) settings
            (moves.map Submitters.Move.audited) (.new signalCapacity (world, [])) =
          some submitters →
        submitters.traffic.record.Calm →
        submitters.Reconciled settings auditing) ∧
      (∀ auditing : AuditSettings,
        auditing.enabled = false →
        ((process standard download).run (environment.audited auditing) (start, [])).2.2 = [] ∧
          ∀ submitters,
            Submitters.run? (surroundings.audited auditing) settings
                (moves.map Submitters.Move.audited) (.new signalCapacity (world, [])) =
              some submitters →
            submitters.traffic.world.2 = []) ∧
      ∀ auditing other : AuditSettings,
        ((process standard download).run (environment.audited auditing) (start, [])).1 =
            ((process standard download).run (environment.audited other) (start, [])).1 ∧
          ((process standard download).run (environment.audited auditing) (start, [])).2.1 =
            ((process standard download).run (environment.audited other) (start, [])).2.1 ∧
          (process standard download).history (environment.audited auditing) (start, []) =
            (process standard download).history (environment.audited other) (start, []) ∧
          (Submitters.run? (surroundings.audited auditing) settings
              (moves.map Submitters.Move.audited) (.new signalCapacity (world, []))).map
              Submitters.unaudited =
            (Submitters.run? (surroundings.audited other) settings
              (moves.map Submitters.Move.audited) (.new signalCapacity (world, []))).map
              Submitters.unaudited := by
  refine ⟨fun auditing enabled calm => reconciled_of_calm keeps enabled standard download start calm,
    fun auditing submitters enabled ran calm => Submitters.reconciled_of_run? enabled ran calm,
    fun auditing disabled => ⟨?_, fun submitters ran => ?_⟩, fun auditing other => ?_⟩
  · rw [(run_audited environment auditing (process standard download) start).1]
    exact History.published_of_disabled disabled _
  · rw [Submitters.published_of_run? ran]
    exact History.published_of_disabled disabled _
  · obtain ⟨ran, happened⟩ := run_audited environment auditing (process standard download) start
    obtain ⟨ranToo, happenedToo⟩ := run_audited environment other (process standard download) start
    rw [ran, ranToo, happened, happenedToo, Submitters.map_unaudited_run?,
      Submitters.map_unaudited_run?]
    exact ⟨rfl, rfl, rfl, rfl⟩

/-- An inbox has no audit. -/
theorem unaudited_inbox
    (otherwise : (call : Call) → call.Answer)
    (fresh : MessageId) :
    (Inbox.environment otherwise fresh).unaudited = Inbox.environment otherwise fresh := by
  refine congrArg (Environment.mk _) (funext fun action => funext fun inbox => ?_)
  cases action <;> rfl

/-- The sender of the greeting is blocked. -/
def screeningAnswers (call : Call) : call.Answer :=
  match call with
  | .isAddressBlocked _ => true
  | call => greetingAnswers call

/-- A greeting that was fetched although the relay no longer knew it. -/
def staleGreeting : Download :=
  { filedGreeting with status := some ⟨404⟩ }

/-- Three tasks are pushed and sent one after another. -/
def sendingThree : List (Submitters.Move Nat) :=
  .submit Submitters.three :: (List.replicate 3 (.push 0) ++ List.replicate 22 .work)

/-- The relay fails on the second of three posts, and that is what is published. -/
theorem published_of_sendingThree :
    (Submitters.run? ((Submitters.counted 500).audited .standard) .standard
        (sendingThree.map Submitters.Move.audited) (.new 1 (0, []))).any (fun submitters =>
      submitters.traffic.record.all (!·.isPanic) &&
        submitters.traffic.world.2 =
          [.acknowledgmentSent "m-notifyresp-ind" "mmsc:relay" 200 true,
            .acknowledgmentFailed "m-notifyresp-ind" "http://relay.example/b"
              "Network error: Relay at mmsc:relay returned HTTP 500",
            .acknowledgmentSent "m-notifyresp-ind" "mmsc:relay" 200 true]) = true := by
  decide +kernel

/-- A greeting from a blocked sender, fetched too late, and three tasks, on the second of which the relay
fails: what is published of both is exact. -/
theorem published_exactly_screenedGreeting :
    KeepsNotifications (Inbox.environment screeningAnswers (.ofNat 7)) Inbox.notifications ∧
      (∃ outcome,
        ((process .standard staleGreeting).run
            ((Inbox.environment screeningAnswers (.ofNat 7)).audited .standard)
            (greetingInbox [1], [])).1 = .ok outcome ∧
          Reconciled .standard staleGreeting .standard outcome
            ((process .standard staleGreeting).history
              ((Inbox.environment screeningAnswers (.ofNat 7)).audited .standard)
              (greetingInbox [1], []))
            (greetingInbox [1]).notifications
            ((process .standard staleGreeting).run
              ((Inbox.environment screeningAnswers (.ofNat 7)).audited .standard)
              (greetingInbox [1], [])).2.1.notifications
            ((process .standard staleGreeting).run
              ((Inbox.environment screeningAnswers (.ofNat 7)).audited .standard)
              (greetingInbox [1], [])).2.2) ∧
      (∃ submitters,
        Submitters.run? ((Submitters.counted 500).audited .standard) .standard
            (sendingThree.map Submitters.Move.audited) (.new 1 (0, [])) = some submitters ∧
          submitters.traffic.record.Calm ∧
          submitters.traffic.world.2.length = 3 ∧
          submitters.Reconciled .standard .standard) ∧
      ((process .standard staleGreeting).run
        ((Inbox.environment screeningAnswers (.ofNat 7)).audited ⟨false, false⟩)
        (greetingInbox [1], [])).2.2 = [] := by
  have keeps := Inbox.keepsNotifications screeningAnswers (.ofNat 7)
  have calm :
      ((process .standard staleGreeting).history
        ((Inbox.environment screeningAnswers (.ofNat 7)).audited .standard)
        (greetingInbox [1], [])).Calm := by
    rw [(run_audited _ _ _ _).2, unaudited_inbox]
    exact Inbox.calm_history _ _ _ _
  obtain ⟨ofRun, ofLane, silent, _⟩ :=
    published_exactly keeps .standard staleGreeting (greetingInbox [1]) (Submitters.counted 500)
      .standard 1 0 sendingThree
  obtain ⟨submitters, ran, holds⟩ := (Option.any_eq_true _ _).mp published_of_sendingThree
  simp only [Bool.and_eq_true, decide_eq_true_eq] at holds
  obtain ⟨untroubled, published⟩ := holds
  have calmLane : submitters.traffic.record.Calm := by
    intro event member
    simpa using List.all_eq_true.mp untroubled event member
  have three : submitters.traffic.world.2.length = 3 := by
    rw [published]
    rfl
  exact ⟨keeps, ofRun .standard rfl calm,
    ⟨submitters, ran, calmLane, three, ofLane .standard submitters rfl ran calmLane⟩,
    (silent ⟨false, false⟩ rfl).1⟩

end MmsInbox.Engine
