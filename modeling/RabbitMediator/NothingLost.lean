import RabbitMediator.ConsumedAtMostOnce

namespace RabbitMediator.SharedQueue

open Interleaving

/-- A copy that entered the shared queue is still there, or delivered and not yet settled, or has been
handed to `Consume`. -/
def Copy.NotLost (c : Copy) : Prop :=
  c.place = .queued ∨ (∃ channel deliveryTag, c.place = .delivered channel deliveryTag) ∨
    c.consumed = [c.sentObject]

/-- Nothing is lost, in every run in which each handler that is ready gets as far as `Consume`. -/
theorem shared_not_lost {hosts : Hosts} {type : SentType} {config : Config State Thread}
    (h : ReachableWhere (sharedQueue hosts type) (StepsWhere (Consumes hosts)) (init hosts) config) :
    ∀ copy ∈ config.shared.copies, copy.NotLost ∧
      (copy.place = .discarded → copy.consumed = [copy.sentObject]) := by
  intro copy hc
  obtain ⟨k, hk⟩ := List.mem_iff_getElem?.mp hc
  have kept := ((sound hosts type True).reachable (kept_initial hosts _) rfl
    (h.mono fun _ _ allowed i x t ha ht _ => allowed i x t ha ht)).1 k copy hk
  refine ⟨?_, fun hp => kept.settled trivial (Or.inr hp)⟩
  cases hp : copy.place with
  | queued => exact Or.inl hp
  | delivered channel deliveryTag => exact Or.inr (Or.inl ⟨channel, deliveryTag, hp⟩)
  | acked => exact Or.inr (Or.inr (kept.settled trivial (Or.inl hp)))
  | discarded => exact Or.inr (Or.inr (kept.settled trivial (Or.inr hp)))

/-- Of the test message: a handler that is ready finds its mediator neither disposed nor forgotten. -/
def findsConsumer (config : Config State Thread) : Action Thread Event → Bool
  | .start _ => true
  | .step i _ => match config.pool[i]? with
    | some (.delivery m (.creating copy environment)) =>
      !(environment.configureDone && environment.mediatorConfigureDone) ||
        consumptions (tryHandleSentObjectReceived
          { environment with configurationOfConsumer := (config.shared.members m).configuration }
          (testHosts.mediator m)).effects = config.shared.copies[copy]?.toList.map Copy.sentObject
    | _ => true

theorem consumes_of_check (config : Config State Thread) (a : Action Thread Event)
    (h : findsConsumer config a = true) : StepsWhere (Consumes testHosts) config a := by
  rintro i x t rfl ht m copy environment c rfl hc hd hm
  simp only [findsConsumer, ht, hd, hm, Bool.and_self, Bool.not_true, Bool.false_or, hc,
    Option.toList_some, List.map_cons, List.map_nil, decide_eq_true_eq] at h
  exact (consumptions_eq_iff _ _ _).mp h

theorem testRequeued_not_lost :
    ∃ config, (sharedQueue testHosts testAnyTargetedMessage).run findsConsumer (init testHosts)
        testRequeuedRun = some config ∧ config.shared.copies.length = 1 ∧
      ∀ copy ∈ config.shared.copies, copy.NotLost ∧
        (copy.place = .discarded → copy.consumed = [copy.sentObject]) := by
  have h : ((sharedQueue testHosts testAnyTargetedMessage).run findsConsumer (init testHosts)
      testRequeuedRun).any (fun config => config.shared.copies.length = 1) = true := by decide +kernel
  obtain ⟨config, hr, hl⟩ := (Option.any_eq_true _ _).mp h
  exact ⟨config, hr, by simpa using hl, shared_not_lost (.of_run .start consumes_of_check hr)⟩

/-- The mediator is configured, not disposed, and consumes the type. -/
def Member.alive (type : SentType) (s : State) (m : MediatorRef) : Bool :=
  s.configureDone m.multiplexer && (s.members m).configureDone && !(s.members m).disposed &&
    (s.members m).consuming &&
    (s.members m).configuration.any fun c => (c.sentTypeToConsumerMapping.lookup type).isSome

/-- Since an object has entered the queue, the mediator has been alive. -/
def StaysAlive (type : SentType) (m : MediatorRef) (s : State) : Bool :=
  s.copies.isEmpty || Member.alive type s m

/-- Two mediators are configured, a copy is delivered to the first one, and while its handler looks that one
is disposed. -/
def testDisposedRun : List (Action Thread Event) :=
  [.start (.configuring ⟨0, 0⟩ .entered), .start (.configuring ⟨1, 0⟩ .entered),
    .start (.publication testShared false), .start (.delivery ⟨0, 0⟩ .idle),
    .start (.disposal ⟨0, 0⟩ .entered)] ++
  testSteps 0 (subscribes ++ configures) ++ testSteps 1 (subscribes ++ configures) ++ testSteps 2 [.go] ++
  testSteps 3 [.took 0, .handled (testEnvironment testShared)] ++ testSteps 4 [.go] ++
  testSteps 3 (List.replicate 4 .go)

/-- The other mediator is alive all along. -/
theorem disposal_loses_prefetched :
    ¬∀ hosts type m config,
      ReachableWhere (sharedQueue hosts type) (fun config _ => StaysAlive type m config.shared = true)
        (init hosts) config →
      Member.alive type config.shared m = true → ∀ copy ∈ config.shared.copies, copy.NotLost ∧
        (copy.place = .discarded → copy.consumed = [copy.sentObject]) := by
  intro claim
  have h : ((sharedQueue testHosts testAnyTargetedMessage).run
      (fun config _ => StaysAlive testAnyTargetedMessage ⟨1, 0⟩ config.shared) (init testHosts)
      testDisposedRun).any (fun config => Member.alive testAnyTargetedMessage config.shared ⟨1, 0⟩ &&
        config.shared.copies.any fun c => c.place = .discarded && c.consumed.isEmpty) = true := by
    decide +kernel
  obtain ⟨config, hr, hl⟩ := (Option.any_eq_true _ _).mp h
  obtain ⟨alive, lost⟩ := Bool.and_eq_true_iff.mp hl
  obtain ⟨copy, hc, hp⟩ := List.any_eq_true.mp lost
  obtain ⟨hp, he⟩ := Bool.and_eq_true_iff.mp hp
  have consumed := (claim testHosts testAnyTargetedMessage ⟨1, 0⟩ config (.of_run .start (fun _ _ h => h) hr)
    alive copy hc).2 (by simpa using hp)
  simp [consumed] at he

end RabbitMediator.SharedQueue
