import RabbitMediator.Custody
import RabbitMediator.System

namespace RabbitMediator.SharedQueue

open Interleaving

/-- A delivery is settled exactly once, where it came from, and consumed at most once, and never given back
after that; and however many mediators share a queue, a copy is consumed at most once in every run. -/
theorem delivery_consumed_once :
    (∀ env mediator channel deliveryTag, ∃ how,
      (handleSentObjectReceived env mediator channel deliveryTag).result = .ok () ∧
      (handleSentObjectReceived env mediator channel deliveryTag).effects.filter Effect.settles =
        [.settled channel deliveryTag how] ∧
      (handleSentObjectReceived env mediator channel deliveryTag).effects.countP Effect.consumes ≤ 1 ∧
      (how = .reject true →
        (handleSentObjectReceived env mediator channel deliveryTag).effects.countP Effect.consumes = 0)) ∧
    ∀ hosts type config, Reachable (sharedQueue hosts type) (init hosts) config →
      ∀ copy ∈ config.shared.copies, copy.consumed.length ≤ 1 := by
  constructor
  · intro env mediator channel deliveryTag
    obtain ⟨before, how, he, hr, hs, hc, hq, _⟩ :=
      handleSentObjectReceived_settles env mediator channel deliveryTag
    have none_before : before.filter Effect.settles = [] :=
      List.filter_eq_nil_iff.mpr (List.countP_eq_zero.mp hs)
    refine ⟨how, hr, ?_, ?_, fun hh => ?_⟩
    · rw [he, List.filter_append, none_before]
      rfl
    · rw [he, List.countP_append]
      exact hc
    · rw [he, List.countP_append]
      exact hq hh
  · intro hosts type config h copy hc
    obtain ⟨k, hk⟩ := List.mem_iff_getElem?.mp hc
    exact (((sound hosts type False).reachable (kept_initial hosts _) rfl
      (h.mono fun _ _ _ _ _ _ _ _ hf => hf.elim)).1 k copy hk).once

/-- The test message as `Send` publishes it. -/
def testShared : SentObject :=
  .message ((IMessage.message testMessage).issued testMediator.getInstanceInformation ⟨9⟩ true)

/-- What happens when a mediator of `testHosts` is configured, up to the registered consumer of the message
type, and from there to the end. -/
def subscribes : List Event :=
  [.go, .go, .go, .ended (.ok ()), .go, .go, .ended (.ok ()), .go, .subscribed]

def configures : List Event := [.ended (.ok ()), .go, .go]

/-- A delivery that is handled to its end. -/
def handles (copy effects : Nat) : List Event :=
  [.took copy, .handled (testEnvironment testShared)] ++ List.replicate (3 + effects) .go

def testSteps (i : Nat) (xs : List Event) : List (Action Thread Event) := xs.map (.step i)

/-- A copy arrives while its consumer is still being configured, and again after that. -/
def testRequeuedRun : List (Action Thread Event) :=
  [.start (.configuring ⟨0, 0⟩ .entered), .start (.publication testShared false)] ++
    testSteps 0 subscribes ++ testSteps 1 [.go] ++ [.start (.delivery ⟨0, 0⟩ .idle)] ++
    testSteps 2 (handles 0 2) ++ testSteps 0 configures ++ [.start (.delivery ⟨0, 0⟩ .idle)] ++
    testSteps 3 (handles 0 3)

theorem testRequeued_consumed_once :
    ∃ config, (sharedQueue testHosts testAnyTargetedMessage).run (fun _ _ => true) (init testHosts)
        testRequeuedRun = some config ∧
      config.shared.copies.map Copy.consumed = [[testShared]] ∧
      ∀ copy ∈ config.shared.copies, copy.consumed.length ≤ 1 := by
  have h : ((sharedQueue testHosts testAnyTargetedMessage).run (fun _ _ => true) (init testHosts)
      testRequeuedRun).any (fun config => config.shared.copies.map Copy.consumed = [[testShared]]) =
      true := by decide +kernel
  obtain ⟨config, hr, hc⟩ := (Option.any_eq_true _ _).mp h
  exact ⟨config, hr, by simpa using hc, delivery_consumed_once.2 _ _ config (.of_run .start
    (fun _ _ _ => trivial) hr)⟩

end RabbitMediator.SharedQueue
