import RabbitMediator.Answering
import RabbitMediator.Settlement

namespace RabbitMediator

open Traced

/-- The objects that were handed to a consumer's `Consume`. -/
def consumptions (effects : List Effect) : List SentObject :=
  effects.filterMap fun
    | .consumed _ o _ => some o
    | _ => none

@[simp] theorem consumptions_nil : consumptions [] = [] := rfl

@[simp] theorem consumptions_append (es fs : List Effect) :
    consumptions (es ++ fs) = consumptions es ++ consumptions fs :=
  List.filterMap_append

theorem countP_consumes (es : List Effect) : es.countP Effect.consumes = (consumptions es).length := by
  induction es with
  | nil => rfl
  | cons e es ih =>
    rw [List.countP_cons, ih]
    cases e <;> simp [consumptions, Effect.consumes]

section Quiet

variable {α β : Type}

theorem consumptions_of_publishes {x : Run α} (h : Only (fun e => e.publishes = true) x) :
    consumptions x.effects = [] := by
  refine List.filterMap_eq_nil_iff.mpr fun e he => ?_
  have := h e he
  cases e <;> simp_all [Effect.publishes]

theorem consumptions_bind_quiet {x : Run α} {f : α → Run β} (h : ∀ a, consumptions (f a).effects = []) :
    consumptions (x >>= f).effects = consumptions x.effects := by
  cases hr : x.result with
  | error e => rw [bind_of_error hr]
  | ok a => rw [bind_of_ok hr, consumptions_append, h, List.append_nil]

theorem consumptions_tryCatch_quiet {x : Run α} {f : Exception → Run α}
    (h : ∀ e, consumptions (f e).effects = []) :
    consumptions (tryCatch x f).effects = consumptions x.effects := by
  cases hr : x.result with
  | error e => rw [tryCatch_of_error hr, consumptions_append, h, List.append_nil]
  | ok a => rw [tryCatch_of_ok hr]

theorem consumptions_invoke (consumer : Option ConsumerType) (o : SentObject) (token : Option ConsumeCancellation)
    (c : Consumption α) : consumptions (invoke consumer o token c).effects = if consumer.isSome then [o] else [] := by
  cases consumer with
  | none => rfl
  | some t => cases c <;> rfl

end Quiet

variable {env : Environment} {mediator : Mediator}

/-- The consumer mapped to the message is there, with a method for it, and is asked. -/
def ReachesMessageConsumer (env : Environment) (mediator : Mediator) (m : IMessage) : Prop :=
  ∃ c t, env.configuration = some c ∧ c.sentTypeToConsumerMapping.lookup m.type = some t ∧
    (∃ sender, m.senderInstance = some sender) ∧ getConsumer env mediator t = .ok (some t) ∧
    m.type ∈ t.consumeParameters

/-- Either this object alone is consumed, and `reached` holds, or nothing is. -/
def ConsumedWhen (reached : Prop) (o : SentObject) (effects : List Effect) : Prop :=
  reached ∧ consumptions effects = [o] ∨ ¬reached ∧ consumptions effects = []

theorem ConsumedWhen.of_eq {reached reached' : Prop} {o : SentObject} {es fs : List Effect}
    (h : ConsumedWhen reached o es) (same : reached' ↔ reached) (he : consumptions fs = consumptions es) :
    ConsumedWhen reached' o fs := by
  rw [ConsumedWhen, same, he]
  exact h

theorem consumeMessage_consumedWhen (m : IMessage) (t : ConsumerType) :
    ConsumedWhen (getConsumer env mediator t = .ok (some t) ∧ m.type ∈ t.consumeParameters) (.message m)
      (consumeMessage env mediator m t).effects := by
  unfold consumeMessage
  cases hg : getConsumer env mediator t with
  | error e => exact Or.inr ⟨by simp, rfl⟩
  | ok consumer =>
    cases hm : getConsumeMethod t m.type with
    | error e =>
      refine Or.inr ⟨fun ⟨_, h⟩ => ?_, rfl⟩
      obtain ⟨p, hp⟩ := getConsumeMethod_ok_iff.mpr h
      cases hm.symm.trans hp
    | ok p =>
      simp only [lift_ok_bind]
      have method := getConsumeMethod_ok_iff.mp ⟨p, hm⟩
      cases consumer with
      | none => exact Or.inr ⟨by simp, consumptions_invoke _ _ _ _⟩
      | some u =>
        cases getConsumer_some hg
        exact Or.inl ⟨⟨rfl, method⟩, consumptions_invoke _ _ _ _⟩

theorem reachesMessageConsumer_iff {c : RabbitMultiplexerMediatorConfiguration} {m : IMessage}
    {t : ConsumerType} (hc : env.configuration = some c)
    (hm : c.sentTypeToConsumerMapping.lookup m.type = some t) :
    ReachesMessageConsumer env mediator m ↔ (∃ sender, m.senderInstance = some sender) ∧
      getConsumer env mediator t = .ok (some t) ∧ m.type ∈ t.consumeParameters := by
  constructor
  · rintro ⟨d, u, hd, hu, h⟩
    cases hc.symm.trans hd
    cases hm.symm.trans hu
    exact h
  · exact fun h => ⟨c, t, hc, hm, h⟩

theorem handleMessage_consumedWhen (m : IMessage) :
    ConsumedWhen (ReachesMessageConsumer env mediator m) (.message m)
      (handleMessage env mediator m).effects := by
  unfold handleMessage
  cases hc : env.configuration with
  | none =>
    refine Or.inr ⟨?_, rfl⟩
    rintro ⟨c, _, h, _⟩
    cases hc.symm.trans h
  | some c =>
    simp only [getConfiguration, lift_ok_bind]
    split
    next t hm =>
      have reached := @reachesMessageConsumer_iff env mediator c m t hc hm
      cases hs : m.senderInstance with
      | none => exact Or.inr ⟨fun h => by simpa [hs] using (reached.mp h).1, rfl⟩
      | some sender =>
        simp only [dereference, lift_ok_bind]
        refine (consumeMessage_consumedWhen m t).of_eq (reached.trans (and_iff_right ⟨sender, hs⟩)) ?_
        rw [consumptions_bind_quiet fun a => ?_, consumptions_tryCatch_quiet fun _ => rfl,
          consumptions_bind_quiet fun _ => rfl]
        rw [consumptions_bind_quiet fun _ => rfl]
        exact consumptions_of_publishes (acknowledge_publishes _ _)
    next hm =>
      refine Or.inr ⟨?_, ?_⟩
      · rintro ⟨d, u, hd, hu, _⟩
        cases hc.symm.trans hd
        cases hm.symm.trans hu
      · cases m with
        | message m => rfl
        | response r =>
          simp only
          split
          next w _ => cases env.setResult <;> rfl
          next => rfl

/-- Once there is time left, the request goes to its consumer, whatever becomes of the answer. -/
theorem consumptions_asked (q after : Request) (meanwhile : Option Restamp) (consumer : Option ConsumerType)
    (cancellation : ConsumeCancellation) :
    consumptions (do
      let response ← tryCatch (consumeRequest env q consumer cancellation)
        (failureResponse env after q.tResponse q.isResponse)
      sendResponse env mediator response after meanwhile
      pure true : Run Bool).effects = if consumer.isSome then [.request q] else [] := by
  rw [consumptions_bind_quiet fun r => ?_, consumptions_tryCatch_quiet fun e => ?_, consumeRequest,
    consumptions_bind_quiet fun r => ?_, consumptions_invoke]
  · cases r <;> rfl
  · unfold failureResponse
    cases createInstance q.tResponse q.isResponse <;> rfl
  · rw [consumptions_bind_quiet fun _ => rfl]
    exact consumptions_of_publishes (sendResponse_publishes _ _ _)

theorem handleRequest_consumedWhen (q : Request) :
    ConsumedWhen (ReachesConsumer env mediator q) (.request q) (handleRequest env mediator q).effects := by
  have failure : ∀ reason, consumptions
      (respondWithFailure env mediator q q.tResponse q.isResponse reason).effects = [] :=
    fun _ => consumptions_of_publishes (respondWithFailure_publishes _ _ _ _)
  cases hc : env.configuration with
  | none =>
    obtain ⟨e, he⟩ := handleRequest_unregistered mediator q hc
    rw [he]
    refine Or.inr ⟨?_, rfl⟩
    rintro ⟨c, _, h, _⟩
    cases hc.symm.trans h
  | some c =>
    cases hm : c.sentTypeToConsumerMapping.lookup q.type with
    | none =>
      rw [handleRequest_unmapped hc hm]
      refine Or.inr ⟨?_, failure _⟩
      rintro ⟨d, u, hd, hu, _⟩
      cases hc.symm.trans hd
      cases hm.symm.trans hu
    | some t =>
      rw [handleRequest_mapped hc hm]
      have reached := @reachesConsumer_iff env mediator q c t hc hm
      cases hg : getConsumer env mediator t with
      | error e => exact Or.inr ⟨fun h => by simpa [hg] using (reached.mp h).1, rfl⟩
      | ok consumer =>
        cases hr : remainingTime env q with
        | error e => exact Or.inr ⟨fun h => by simpa [TimeLeft, hr] using (reached.mp h).2, rfl⟩
        | ok remaining =>
          simp only [lift_ok_bind]
          split
          next hle =>
            refine Or.inr ⟨fun h => ?_, failure _⟩
            obtain ⟨s, _, hs, hpos, _⟩ := (reached.mp h).2
            cases hr.symm.trans hs
            omega
          next hgt =>
            cases hca : consumeCancellation remaining with
            | error e =>
              refine Or.inr ⟨fun h => ?_, rfl⟩
              obtain ⟨s, _, hs, _, hok⟩ := (reached.mp h).2
              cases hr.symm.trans hs
              cases hca.symm.trans hok
            | ok cancellation =>
              simp only [lift_ok_bind]
              have left : TimeLeft env q := ⟨remaining, cancellation, hr, by omega, hca⟩
              have consumed := @consumptions_asked env mediator q (requestAfter env q consumer)
                (writtenMeanwhile env q consumer) consumer cancellation
              cases consumer with
              | none => exact Or.inr ⟨fun h => by simpa [hg] using (reached.mp h).1, consumed⟩
              | some u =>
                cases getConsumer_some hg
                exact Or.inl ⟨reached.mpr ⟨hg, left⟩, consumed⟩

def ReachesItsConsumer (env : Environment) (mediator : Mediator) : SentObject → Prop
  | .message m => ReachesMessageConsumer env mediator m
  | .request q => ReachesConsumer env mediator q

theorem handleSentObject_consumedWhen (o : SentObject) :
    ConsumedWhen (ReachesItsConsumer env mediator o) o (handleSentObject env mediator (some o)).effects := by
  cases o with
  | message m => exact handleMessage_consumedWhen m
  | request q => exact handleRequest_consumedWhen q

/-- The mediator is not disposed when the handler looks, and the body holds the object, whose consumer is
there and is asked. -/
structure Consumable (env : Environment) (mediator : Mediator) (o : SentObject) : Prop where
  live : env.disposed = false
  deserialized : env.deserialized = .ok (some o)
  reached : ReachesItsConsumer env mediator o

/-- A delivery hands an object to its consumer just when the handler can get that far with it, and then
this object alone. -/
theorem consumptions_eq_iff (env : Environment) (mediator : Mediator) (o : SentObject) :
    consumptions (tryHandleSentObjectReceived env mediator).effects = [o] ↔ Consumable env mediator o := by
  unfold tryHandleSentObjectReceived
  cases hd : env.disposed with
  | true => exact iff_of_false nofun fun h => by simpa [hd] using h.live
  | false =>
    simp only [Bool.false_eq_true, if_false]
    rw [consumptions_tryCatch_quiet fun _ => rfl]
    cases hs : env.deserialized with
    | error e => exact iff_of_false nofun fun h => by simpa [hs] using h.deserialized
    | ok found =>
      simp only [lift_ok_bind]
      cases found with
      | none => exact iff_of_false nofun fun h => by simpa [hs] using h.deserialized
      | some found =>
        rcases @handleSentObject_consumedWhen env mediator found with
          ⟨hr, he⟩ | ⟨hr, he⟩
        · rw [he]
          constructor
          · intro h
            cases h
            exact ⟨hd, hs, hr⟩
          · intro h
            cases hs.symm.trans h.deserialized
            rfl
        · rw [he]
          refine iff_of_false nofun fun h => ?_
          cases hs.symm.trans h.deserialized
          exact hr h.reached

end RabbitMediator
