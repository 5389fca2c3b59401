import MmsInbox.Config.Load
import MmsInbox.Proofs.Config.Documents
import MmsInbox.Proofs.Receive.Tasks
import MmsInbox.Scenario.Service

namespace MmsInbox.Scenario

/-!
# Which configurations can be started

Every configuration can be written down and is accepted. Whether the engine can be started with it depends
on the bound alone: it has to be one that a permit counter holds (`starting`). No bound and a bound of zero
always do; a bound beyond that is accepted all the same, and ends the start in a panic
(`not_forall_accepted_starts`).
-/

open Receive

/-- A permit counter holds the bound, if there is one. -/
def canBear (config : Config) : Bool :=
  (boundOf config).all (· ≤ maxPermits)

/-- The panic that ends the start with a bound that no permit counter holds. -/
def tooMany : Panic :=
  ⟨s!"no more than {maxPermits} runs can be bounded"⟩

/-- The permits of a configuration are all free, unless there are too many. -/
theorem ofConfig_eq (config : Config) :
    Permits.ofConfig config =
      if canBear config then .ok ⟨boundOf config, 0⟩ else .error tooMany := by
  rw [Permits.ofConfig, canBear, boundOf]
  cases (config.maxConcurrentRuns.map UInt64.toNat).filter (0 < ·) with
  | none => rfl
  | some bound =>
      by_cases within : bound ≤ maxPermits
      · simp [within]
      · simp [within, tooMany]

/-- A session starts with all permits free, unless there are too many. -/
theorem new_eq
    (config : Config)
    (world : World)
    {signalCapacity : Nat}
    (positive : 0 < signalCapacity)
    (withLane : Bool) :
    Session.new config world signalCapacity withLane =
      if canBear config then
        .ok ⟨world, config, ⟨boundOf config, 0⟩, if withLane then some (.new signalCapacity) else none⟩
      else .error tooMany := by
  rw [Session.new, if_neg (Nat.pos_iff_ne_zero.mp positive), ofConfig_eq]
  cases canBear config with
  | true => rfl
  | false => rfl

/-- A service that is started comes to its end. -/
theorem exists_run
    {service : Service}
    (bearable : canBear service.config = true) :
    ∃ session, service.run = .ok session := by
  rw [Service.run, new_eq _ _ (by decide), if_pos bearable]
  exact ⟨_, rfl⟩

theorem run_eq_error
    {service : Service}
    (unbearable : canBear service.config = false) :
    service.run = .error tooMany := by
  rw [Service.run, new_eq _ _ (by decide), unbearable]
  rfl

/-- How far the engine gets with a configuration. -/
structure Starting (config : Config) : Prop where
  /-- The configuration can be given to the engine. -/
  accepted : Config.ofDocument? config.document = some config
  bearable_iff :
    canBear config = true ↔
      ∀ bound, config.maxConcurrentRuns = some bound → bound.toNat ≤ maxPermits
  permits :
    Permits.ofConfig config =
      if canBear config then .ok ⟨boundOf config, 0⟩ else .error tooMany
  started
    (bearable : canBear config = true)
    {service : Service}
    (given : service.config = config) :
    ∃ session, service.run = .ok session
  panicked
    (unbearable : canBear config = false)
    {service : Service}
    (given : service.config = config) :
    service.run = .error tooMany

/-- Every configuration is accepted, and the engine can be started with it if a permit counter holds its
bound; otherwise the start ends in a panic. -/
theorem starting (config : Config) : Starting config where
  accepted := config.ofDocument?_document
  bearable_iff := by
    rw [canBear, boundOf]
    cases config.maxConcurrentRuns with
    | none => simp
    | some bound =>
        by_cases positive : 0 < bound.toNat
        · simp [positive]
        · have zero : bound.toNat = 0 := by omega
          simp [zero]
  permits := ofConfig_eq config
  started bearable _ given := exists_run (given ▸ bearable)
  panicked unbearable _ given := run_eq_error (given ▸ unbearable)

/-- A configuration that asks for one run more at once than permits can be counted. -/
def manyAtOnce : Config :=
  { Config.standard with maxConcurrentRuns := some 2305843009213693952 }

/-- The same configuration as a text. -/
def manyAtOnceText : String :=
  "(max_concurrent_workflows: 2305843009213693952)"

/-- Not every configuration can be started that is accepted both as a document and as a text. -/
theorem not_forall_accepted_starts :
    ¬ ∀ config : Config,
      (∃ document, Config.ofDocument? document = some config) →
        (∃ text, Config.parse text = .ok config) →
          ∃ permits, Permits.ofConfig config = .ok permits := by
  intro starts
  have parsed : (Config.parse manyAtOnceText).toOption = some manyAtOnce := by
    decide +kernel
  have accepted : Config.parse manyAtOnceText = .ok manyAtOnce := by
    cases read : Config.parse manyAtOnceText with
    | ok config =>
        rw [read] at parsed
        exact congrArg Except.ok (Option.some.inj parsed)
    | error cause =>
        rw [read] at parsed
        cases parsed
  obtain ⟨permits, given⟩ :=
    starts manyAtOnce ⟨_, manyAtOnce.ofDocument?_document⟩ ⟨_, accepted⟩
  rw [ofConfig_eq] at given
  cases given

end MmsInbox.Scenario
