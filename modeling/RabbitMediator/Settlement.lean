import RabbitMediator.Receive

namespace RabbitMediator

namespace Effect

def consumes : Effect → Bool
  | .consumed _ _ _ => true
  | _ => false

def settles : Effect → Bool
  | .settled _ _ _ => true
  | _ => false

def publishes : Effect → Bool
  | .publishedResponse _ _ => true
  | .publishedAck _ _ => true
  | _ => false

theorem consumes_of_publishes {e : Effect} (h : e.publishes = true) : e.consumes = false := by
  cases e <;> simp_all [publishes, consumes]

theorem settles_of_publishes {e : Effect} (h : e.publishes = true) : e.settles = false := by
  cases e <;> simp_all [publishes, settles]

end Effect

section Counting

open Traced

variable {env : Environment} {mediator : Mediator}

theorem publishResponse_publishes (queue : String) (r : Response) :
    Only (fun e => e.publishes = true) (publishResponse env queue r) := by
  unfold publishResponse
  refine only_bind (only_lift _ _) fun _ _ => only_bind (only_lift _ _) fun _ _ => ?_
  split
  · exact only_bind (only_emit rfl) fun _ _ => only_lift _ _
  · exact only_lift _ _

theorem publishAck_publishes (queue : String) (a : SentObjectAck) :
    Only (fun e => e.publishes = true) (publishAck env queue a) := by
  unfold publishAck
  refine only_bind (only_lift _ _) fun _ _ => only_bind (only_lift _ _) fun _ _ => ?_
  split
  · exact only_bind (only_emit rfl) fun _ _ => only_lift _ _
  · exact only_lift _ _

theorem acknowledge_publishes (m : IMessage) (a : SentObjectAck) :
    Only (fun e => e.publishes = true) (acknowledge env m a) := by
  unfold acknowledge
  split
  · exact only_bind (only_lift _ _) fun _ _ => publishAck_publishes _ _
  · exact only_pure _ _

theorem sendResponse_publishes (r : Response) (q : Request) (meanwhile : Option Restamp) :
    Only (fun e => e.publishes = true) (sendResponse env mediator r q meanwhile) :=
  only_bind (only_lift _ _) fun _ _ => only_bind (only_lift _ _) fun _ _ =>
    publishResponse_publishes _ _

theorem respondWithFailure_publishes (q : Request) (t : SentType)
    (h : t.isAssignableTo .response = true) (reason : Exception) :
    Only (fun e => e.publishes = true) (respondWithFailure env mediator q t h reason) :=
  only_bind (only_lift _ _) fun _ _ => only_bind (sendResponse_publishes _ _ _) fun _ _ =>
    only_pure _ _

theorem respondWithoutConsumer_publishes (q : Request) :
    Only (fun e => e.publishes = true) (respondWithoutConsumer env mediator q) := by
  rw [respondWithoutConsumer_eq]
  exact respondWithFailure_publishes _ _ _ _

/-- What a count over the effects of one handling needs to know of its predicate: it counts no
publication and no written result, and each call of `Consume` at most `k` times. -/
structure Counts (p : Effect → Bool) (k : Nat) : Prop where
  publishes : ∀ e : Effect, e.publishes = true → p e = false
  wroteResult : ∀ w r, p (.wroteResult w r) = false
  consumed : ∀ t o token, AtMost p k (emit (.consumed t o token) : Run Unit)

variable {p : Effect → Bool} {k : Nat}

theorem invoke_atMost {α : Type} (hp : Counts p k) (consumer : Option ConsumerType)
    (o : SentObject) (token : Option ConsumeCancellation) (c : Consumption α) :
    AtMost p k (invoke consumer o token c) := by
  cases consumer with
  | none => exact (atMost_throw _ _).mono (Nat.zero_le k)
  | some t =>
    refine atMost_bind_quiet (hp.consumed t o token) fun _ _ => ?_
    cases c with
    | completed r => exact atMost_pure _ _
    | _ => exact atMost_throw _ _

theorem consumeRequest_atMost (hp : Counts p k) (q : Request) (consumer : Option ConsumerType)
    (cancellation : ConsumeCancellation) : AtMost p k (consumeRequest env q consumer cancellation) := by
  refine atMost_bind_quiet (invoke_atMost hp _ _ _ _) fun r _ => ?_
  cases r with
  | none => exact atMost_throw _ _
  | some r => exact atMost_pure _ _

theorem failureResponse_atMost (q : Request) (t : SentType)
    (h : t.isAssignableTo .response = true) (ex : Exception) :
    AtMost p 0 (failureResponse env q t h ex) :=
  atMost_lift_bind fun _ _ => atMost_pure _ _

theorem handleRequest_atMost (hp : Counts p k) (q : Request) :
    AtMost p k (handleRequest env mediator q) := by
  refine atMost_lift_bind fun c _ => ?_
  split
  next =>
    exact (atMost_of_only (respondWithoutConsumer_publishes q) hp.publishes).mono (Nat.zero_le k)
  next t _ =>
    refine atMost_lift_bind fun consumer _ => ?_
    refine atMost_lift_bind fun method _ => ?_
    refine atMost_lift_bind fun remaining _ => ?_
    split
    next =>
      exact (atMost_of_only (respondWithFailure_publishes _ _ _ _) hp.publishes).mono (Nat.zero_le k)
    next =>
      refine atMost_lift_bind fun _ _ => ?_
      refine atMost_bind_quiet ?_ fun r _ => ?_
      · exact atMost_tryCatch (consumeRequest_atMost hp _ _ _)
          fun ex _ => failureResponse_atMost _ _ _ _
      · exact atMost_bind_quiet
          (atMost_of_only (sendResponse_publishes _ _ _) hp.publishes) fun _ _ => atMost_pure _ _

theorem consumeMessage_atMost (hp : Counts p k) (m : IMessage) (t : ConsumerType) :
    AtMost p k (consumeMessage env mediator m t) := by
  refine atMost_lift_bind fun _ _ => ?_
  refine atMost_lift_bind fun _ _ => ?_
  exact invoke_atMost hp _ _ _ _

theorem handleMessage_atMost (hp : Counts p k) (m : IMessage) :
    AtMost p k (handleMessage env mediator m) := by
  refine atMost_lift_bind fun c _ => ?_
  split
  next t _ =>
    refine atMost_lift_bind fun sender _ => ?_
    refine atMost_bind_quiet ?_ fun a _ => ?_
    · refine atMost_tryCatch ?_ fun ex _ => atMost_pure _ _
      exact atMost_bind_quiet (consumeMessage_atMost hp m t) fun _ _ => atMost_pure _ _
    · exact atMost_bind_quiet
        (atMost_of_only (acknowledge_publishes _ _) hp.publishes) fun _ _ => atMost_pure _ _
  next =>
    refine AtMost.mono (n := 0) ?_ (Nat.zero_le k)
    cases m with
    | message m => exact atMost_pure _ _
    | response r =>
      simp only
      split
      next w _ =>
        refine atMost_bind_quiet ?_ fun _ _ => ?_
        · exact atMost_of_only (only_emit (p := fun e => p e = false) (hp.wroteResult w r)) fun _ h => h
        · exact atMost_lift_bind fun _ _ => atMost_pure _ _
      next => exact atMost_pure _ _

theorem tryHandleSentObjectReceived_atMost (env : Environment) (mediator : Mediator)
    (hp : Counts p k) : AtMost p k (tryHandleSentObjectReceived env mediator) := by
  unfold tryHandleSentObjectReceived
  split
  next => exact (atMost_pure _ _).mono (Nat.zero_le k)
  next =>
    refine atMost_tryCatch ?_ fun _ _ => atMost_pure _ _
    refine atMost_lift_bind fun o _ => ?_
    match o with
    | none => exact (atMost_throw _ _).mono (Nat.zero_le k)
    | some (.message m) => exact handleMessage_atMost hp m
    | some (.request q) => exact handleRequest_atMost hp q

end Counting

theorem counts_consumes : Counts Effect.consumes 1 :=
  ⟨fun _ h => Effect.consumes_of_publishes h, fun _ _ => rfl, fun _ _ _ => Traced.atMost_emit _ _⟩

theorem counts_settles : Counts Effect.settles 0 :=
  ⟨fun _ h => Effect.settles_of_publishes h, fun _ _ => rfl, fun _ _ _ => by simp [Traced.AtMost, Effect.settles]⟩

theorem tryHandleSentObjectReceived_returns (env : Environment) (mediator : Mediator) :
    ∃ success, (tryHandleSentObjectReceived env mediator).result = .ok success := by
  unfold tryHandleSentObjectReceived
  split
  next => exact ⟨false, rfl⟩
  next => exact (Traced.tryCatch_pure _ _).2

/-- A delivery is settled last, once, where it came from. What came before settled nothing and consumed at
most once; and a delivery is given back just when not everything is configured, before anything was tried
on it. -/
theorem handleSentObjectReceived_settles (env : Environment) (mediator : Mediator)
    (channel deliveryTag : Nat) : ∃ before how,
    (handleSentObjectReceived env mediator channel deliveryTag).effects =
      before ++ [.settled channel deliveryTag how] ∧
    (handleSentObjectReceived env mediator channel deliveryTag).result = .ok () ∧
    before.countP Effect.settles = 0 ∧ before.countP Effect.consumes ≤ 1 ∧
    (how = .reject true → before.countP Effect.consumes = 0) ∧
    (how ≠ .reject true → env.configureDone = true ∧ env.mediatorConfigureDone = true ∧
      before = (tryHandleSentObjectReceived env mediator).effects) := by
  unfold handleSentObjectReceived
  split
  next =>
    exact ⟨[.delayed notReadyRequeueDelay], .reject true, rfl, rfl, rfl, by decide, fun _ => rfl,
      fun h => absurd rfl h⟩
  next ready =>
    obtain ⟨success, hs⟩ := tryHandleSentObjectReceived_returns env mediator
    have hc := tryHandleSentObjectReceived_atMost env mediator counts_consumes
    have hn := tryHandleSentObjectReceived_atMost env mediator counts_settles
    have ready : env.configureDone = true ∧ env.mediatorConfigureDone = true := by
      simpa using ready
    rw [Traced.bind_of_ok hs]
    cases success with
    | true => exact ⟨_, .ack, rfl, rfl, Nat.le_zero.mp hn, hc, nofun, fun _ => ⟨ready.1, ready.2, rfl⟩⟩
    | false =>
      exact ⟨_, .reject false, rfl, rfl, Nat.le_zero.mp hn, hc, nofun, fun _ => ⟨ready.1, ready.2, rfl⟩⟩

end RabbitMediator
