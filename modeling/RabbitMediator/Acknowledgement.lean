import RabbitMediator.Consumption
import RabbitMediator.World

namespace RabbitMediator

open Traced

/-- What a run of `HandleMessage` did to the outside. -/
def MessageRun.effects (h : MessageRun) : List Effect :=
  (handleMessage h.environment h.mediator h.message).effects

/-- The mapped consumer's `Consume` was called with the message of the run, and came to its normal end. -/
def MessageRun.Consumed (h : MessageRun) : Prop :=
  ∃ t, .consumed t (.message h.message) none ∈ h.effects ∧
    h.environment.consumeMessage h.message = .completed ()

/-- The mapped consumer was not created, has no method for the message of the run, or its `Consume` was
called and failed. -/
def MessageRun.Failed (h : MessageRun) : Prop :=
  ∃ c t, h.environment.configuration = some c ∧
    c.sentTypeToConsumerMapping.lookup h.message.type = some t ∧
    (getConsumer h.environment h.mediator t ≠ .ok (some t) ∨ h.message.type ∉ t.consumeParameters ∨
      .consumed t (.message h.message) none ∈ h.effects ∧
        h.environment.consumeMessage h.message ≠ .completed ())

section Consuming

variable {α : Type} {env : Environment} {mediator : Mediator} {m : IMessage} {t : ConsumerType}

theorem invoke_ok {consumer : Option ConsumerType} {o : SentObject} {token : Option ConsumeCancellation}
    {consumption : Consumption α} {a : α} (h : (invoke consumer o token consumption).result = .ok a) :
    ∃ u, consumer = some u ∧ consumption = .completed a ∧
      (invoke consumer o token consumption).effects = [.consumed u o token] := by
  cases consumer with
  | none => cases h
  | some u =>
    cases consumption with
    | completed b =>
      cases h
      exact ⟨u, rfl, rfl, rfl⟩
    | _ => cases h

theorem invoke_error {u : ConsumerType} {o : SentObject} {token : Option ConsumeCancellation}
    {consumption : Consumption α} {e : Exception} (h : (invoke (some u) o token consumption).result = .error e) :
    (∀ a, consumption ≠ .completed a) ∧ (invoke (some u) o token consumption).effects = [.consumed u o token] := by
  cases consumption with
  | completed b => cases h
  | _ => exact ⟨fun _ => by simp, rfl⟩

/-- `Consume` is over without a failure just when it was called and came to its normal end. -/
theorem consumeMessage_ok (h : (consumeMessage env mediator m t).result = .ok ()) :
    .consumed t (.message m) none ∈ (consumeMessage env mediator m t).effects ∧
      env.consumeMessage m = .completed () := by
  unfold consumeMessage at h ⊢
  cases hg : getConsumer env mediator t with
  | error e => rw [hg] at h; cases h
  | ok consumer =>
    cases hm : getConsumeMethod t m.type with
    | error e => rw [hg, hm] at h; cases h
    | ok p =>
      simp only [hg, hm, lift_ok_bind] at h ⊢
      obtain ⟨u, rfl, completed, effects⟩ := invoke_ok h
      cases getConsumer_some hg
      exact ⟨by rw [effects]; exact List.mem_singleton_self _, completed⟩

theorem consumeMessage_error {e : Exception} (h : (consumeMessage env mediator m t).result = .error e) :
    getConsumer env mediator t ≠ .ok (some t) ∨ m.type ∉ t.consumeParameters ∨
      .consumed t (.message m) none ∈ (consumeMessage env mediator m t).effects ∧
        env.consumeMessage m ≠ .completed () := by
  by_cases created : getConsumer env mediator t = .ok (some t)
  · by_cases method : m.type ∈ t.consumeParameters
    · obtain ⟨p, hp⟩ := getConsumeMethod_ok_iff.mpr method
      unfold consumeMessage at h ⊢
      simp only [created, hp, lift_ok_bind] at h ⊢
      obtain ⟨failed, effects⟩ := invoke_error h
      exact Or.inr (Or.inr ⟨by rw [effects]; exact List.mem_singleton_self _, failed ()⟩)
    · exact Or.inr (Or.inl method)
  · exact Or.inl created

end Consuming

section Acks

variable {env : Environment} {mediator : Mediator} {m : IMessage} {h : MessageRun} {ack : SentObjectAck}

/-- What an ack says, and what it says it of. -/
structure Attests (h : MessageRun) (ack : SentObjectAck) : Prop where
  correlationId : ack.correlationId = h.message.correlationId
  verdict : ack.success = true ∧ ack.exceptionData = none ∧ h.Consumed ∨
    ack.success = false ∧ (∃ e, ack.exceptionData = some e) ∧ h.Failed

def acksOf (effects : List Effect) : List SentObjectAck :=
  effects.filterMap fun
    | .publishedAck _ ack => some ack
    | _ => none

theorem acksOf_append (es fs : List Effect) : acksOf (es ++ fs) = acksOf es ++ acksOf fs :=
  List.filterMap_append

theorem acksOf_consumeMessage (t : ConsumerType) : acksOf (consumeMessage env mediator m t).effects = [] := by
  unfold consumeMessage
  cases getConsumer env mediator t with
  | error e => rfl
  | ok consumer =>
    cases getConsumeMethod t m.type with
    | error e => rfl
    | ok p =>
      simp only [lift_ok_bind]
      cases consumer with
      | none => rfl
      | some u => cases env.consumeMessage m <;> rfl

theorem mem_acksOf_publishAck {queue : String} {sent : SentObjectAck}
    (ha : ack ∈ acksOf (publishAck env queue sent).effects) : ack = sent := by
  unfold publishAck at ha
  cases hs : JsonSerializer.serializeAck env.classes sent with
  | error e => rw [hs] at ha; cases ha
  | ok _ =>
    cases hc : env.sendChannel with
    | error e => rw [hs, hc] at ha; cases ha
    | ok _ =>
      simp only [hs, hc, lift_ok_bind] at ha
      split at ha
      · simpa [acksOf] using ha
      · simp [acksOf] at ha

/-- Whoever the message names as its sender by now, it is this ack that is sent, if one is. -/
theorem mem_acksOf_acknowledge {sent : SentObjectAck}
    (ha : ack ∈ acksOf (acknowledge env m sent).effects) : ack = sent := by
  unfold acknowledge at ha
  split at ha
  next =>
    cases hs : dereference m.senderInstance with
    | error e => rw [hs] at ha; cases ha
    | ok sender =>
      rw [hs] at ha
      exact mem_acksOf_publishAck ha
  next => cases ha

/-- The ack tells how `Consume` ended, and the run has no effects but those of the two. -/
theorem handleMessage_acknowledges {c : RabbitMultiplexerMediatorConfiguration} {t : ConsumerType}
    {sender : InstanceInformation} (hc : env.configuration = some c)
    (hm : c.sentTypeToConsumerMapping.lookup m.type = some t) (hs : m.senderInstance = some sender) :
    ∃ sent : SentObjectAck, sent.correlationId = m.correlationId ∧
      (sent.success = true ∧ sent.exceptionData = none ∧ (consumeMessage env mediator m t).result = .ok () ∨
        sent.success = false ∧ (∃ e, sent.exceptionData = some e) ∧
          ∃ e, (consumeMessage env mediator m t).result = .error e) ∧
      (handleMessage env mediator m).effects = (consumeMessage env mediator m t).effects ++
        (acknowledge env (messageAfter env mediator m t) sent).effects := by
  have settled : ∀ (sent : SentObjectAck) (x : Run SentObjectAck), x.result = .ok sent →
      (x >>= fun sent => do
        acknowledge env (messageAfter env mediator m t) sent
        pure true).effects = x.effects ++ (acknowledge env (messageAfter env mediator m t) sent).effects := by
    intro sent x hx
    rw [bind_of_ok hx]
    cases hr : (acknowledge env (messageAfter env mediator m t) sent).result with
    | ok _ => simp [bind_of_ok hr]
    | error e => simp [bind_of_error hr]
  unfold handleMessage
  rw [hc]
  simp only [getConfiguration, lift_ok_bind, hm, hs, dereference]
  cases hr : (consumeMessage env mediator m t).result with
  | ok _ =>
    refine ⟨⟨m.correlationId, true, none, sender.instanceId⟩, rfl, Or.inl ⟨rfl, rfl, rfl⟩, ?_⟩
    rw [bind_of_ok hr, tryCatch_of_ok rfl, settled _ _ rfl]
    simp
  | error e =>
    refine ⟨⟨m.correlationId, false, some (.fromException e.unwrapInvocation), sender.instanceId⟩, rfl,
      Or.inr ⟨rfl, ⟨_, rfl⟩, e, rfl⟩, ?_⟩
    rw [bind_of_error hr, tryCatch_of_error rfl, settled _ _ rfl]
    simp

/-- Only a run that has a consumer for its message acknowledges it. -/
theorem acksOf_unmapped {c : RabbitMultiplexerMediatorConfiguration} (hc : env.configuration = some c)
    (hm : c.sentTypeToConsumerMapping.lookup m.type = none) :
    acksOf (handleMessage env mediator m).effects = [] := by
  unfold handleMessage
  rw [hc]
  simp only [getConfiguration, lift_ok_bind, hm]
  cases m with
  | message m => rfl
  | response r =>
    cases env.removedWaiter with
    | none => rfl
    | some waiter => cases env.setResult <;> rfl

/-- A run acknowledges its own message, and says truly how its consumption ended. -/
theorem attests_of_mem_acks (ha : ack ∈ h.acks) : Attests h ack := by
  obtain ⟨env, mediator, m⟩ := h
  have ha : ack ∈ acksOf (handleMessage env mediator m).effects := ha
  cases hc : env.configuration with
  | none =>
    unfold handleMessage at ha
    rw [hc] at ha
    cases ha
  | some c =>
    cases hm : c.sentTypeToConsumerMapping.lookup m.type with
    | none =>
      rw [acksOf_unmapped hc hm] at ha
      cases ha
    | some t =>
      cases hs : m.senderInstance with
      | none =>
        unfold handleMessage at ha
        rw [hc] at ha
        simp only [getConfiguration, lift_ok_bind, hm, hs, dereference, lift_error_bind] at ha
        cases ha
      | some sender =>
        obtain ⟨sent, id, verdict, effects⟩ := @handleMessage_acknowledges env mediator m c t sender hc hm hs
        have consumed : ∀ e ∈ (consumeMessage env mediator m t).effects,
            e ∈ (handleMessage env mediator m).effects := fun e he => by
          rw [effects]
          exact List.mem_append_left _ he
        rw [effects, acksOf_append, acksOf_consumeMessage, List.nil_append] at ha
        cases mem_acksOf_acknowledge ha
        refine ⟨id, ?_⟩
        rcases verdict with ⟨hs, hn, hr⟩ | ⟨hs, he, e, hr⟩
        · obtain ⟨hc, completed⟩ := consumeMessage_ok hr
          exact Or.inl ⟨hs, hn, t, consumed _ hc, completed⟩
        · refine Or.inr ⟨hs, he, c, t, hc, hm, ?_⟩
          exact (consumeMessage_error hr).imp_right fun h => h.imp_right fun h => ⟨consumed _ h.1, h.2⟩

end Acks
end RabbitMediator
