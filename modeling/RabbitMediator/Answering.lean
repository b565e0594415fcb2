import RabbitMediator.Receive
import RabbitMediator.RoundTrip

namespace RabbitMediator

/-- The responses among the effects of a run, each with the queue it was published to. -/
def publishedResponses (effects : List Effect) : List (String × Response) :=
  effects.filterMap fun
    | .publishedResponse queue r => some (queue, r)
    | _ => none

@[simp] theorem publishedResponses_nil : publishedResponses [] = [] := rfl

@[simp] theorem publishedResponses_consumed (t : ConsumerType) (o : SentObject)
    (token : Option ConsumeCancellation) (es : List Effect) :
    publishedResponses (.consumed t o token :: es) = publishedResponses es := rfl

theorem mem_publishedResponses {es : List Effect} {queue : String} {r : Response} :
    (queue, r) ∈ publishedResponses es ↔ .publishedResponse queue r ∈ es := by
  simp only [publishedResponses, List.mem_filterMap]
  constructor
  · rintro ⟨e, he, h⟩
    cases e <;> simp at h
    obtain ⟨rfl, rfl⟩ := h
    exact he
  · exact fun h => ⟨_, h, rfl⟩

theorem publishedResponses_append (es fs : List Effect) :
    publishedResponses (es ++ fs) = publishedResponses es ++ publishedResponses fs :=
  List.filterMap_append

/-- The serializer writes a response of this class and content: its types can be used together, this is one of
them, and what the class adds to the contracts can be written and is not too deep. -/
def Writable (env : Environment) (type : SentType) (content : String) : Prop :=
  ∃ options own, env.options = some options ∧ type ∈ options.typeInfoResolver.sentObjectTypes ∧
    env.classes.Supports options.typeInfoResolver.sentObjectTypes ∧ env.classes.write type content = .ok own ∧
    ∀ p ∈ own, p.2.height ≤ 63

/-- A response of this class and content can be named and put on the wire. -/
def Sendable (env : Environment) (type : SentType) (content : String) : Prop :=
  (∃ name, RabbitNaming.typeName type = .ok name) ∧ Writable env type content

/-- The exceptions inside each other are few enough for the depth of a document. -/
def ExceptionData.Shallow (d : Option ExceptionData) : Prop := ∀ e, d = some e → e.count ≤ 62

/-- The sender still waits, for a time the timers take. -/
def TimeLeft (env : Environment) (q : Request) : Prop :=
  ∃ remaining cancellation, remainingTime env q = .ok remaining ∧ 0 < remaining.ticks ∧
    consumeCancellation remaining = .ok cancellation

/-- The token source that the consumer is given a token of. -/
def CancelledBy (env : Environment) (q : Request) (cancellation : ConsumeCancellation) : Prop :=
  ∃ remaining, remainingTime env q = .ok remaining ∧ 0 < remaining.ticks ∧
    consumeCancellation remaining = .ok cancellation

/-- The consumer mapped to the request is there and is asked. -/
def ReachesConsumer (env : Environment) (mediator : Mediator) (q : Request) : Prop :=
  ∃ c t, env.configuration = some c ∧ c.sentTypeToConsumerMapping.lookup q.type = some t ∧
    getConsumer env mediator t = .ok (some t) ∧ TimeLeft env q

/-- The exceptions that nothing in `HandleRequest` catches before a response is sent. -/
def Stopped (env : Environment) (mediator : Mediator) (q : Request) : Prop :=
  env.configuration = none ∨
  ∃ c t, env.configuration = some c ∧ c.sentTypeToConsumerMapping.lookup q.type = some t ∧
    ((∃ e, getConsumer env mediator t = .error e) ∨ (∃ e, remainingTime env q = .error e) ∨
      ∃ remaining e, remainingTime env q = .ok remaining ∧ 0 < remaining.ticks ∧
        consumeCancellation remaining = .error e)

/-- Why a request was not consumed normally, for each way it can happen. From `threw` on its consumer was asked. -/
inductive FailureReason (env : Environment) (mediator : Mediator) (q : Request) : Exception → Prop
  | noConsumer {c} (registered : env.configuration = some c)
      (unmapped : c.sentTypeToConsumerMapping.lookup q.type = none) :
      FailureReason env mediator q (noConsumer q)
  | expired {c t consumer remaining} (registered : env.configuration = some c)
      (mapped : c.sentTypeToConsumerMapping.lookup q.type = some t)
      (created : getConsumer env mediator t = .ok consumer)
      (left : remainingTime env q = .ok remaining) (late : remaining.ticks ≤ 0) :
      FailureReason env mediator q (expired q)
  | notListed {c t} (registered : env.configuration = some c)
      (mapped : c.sentTypeToConsumerMapping.lookup q.type = some t)
      (unlisted : getConsumer env mediator t = .ok none) (left : TimeLeft env q) :
      FailureReason env mediator q (.new .target "Non-static method requires a target.")
  | threw {e} (reached : ReachesConsumer env mediator q)
      (outcome : env.consumeRequest q = .threwSynchronously e) :
      FailureReason env mediator q (failureReason env (q.reissued env.reissued) (.invocation e))
  | nullTask (reached : ReachesConsumer env mediator q) (outcome : env.consumeRequest q = .nullTask) :
      FailureReason env mediator q nullReference
  | faulted {e} (reached : ReachesConsumer env mediator q) (outcome : env.consumeRequest q = .faulted e) :
      FailureReason env mediator q (failureReason env (q.reissued env.reissued) e)
  | cancelled (reached : ReachesConsumer env mediator q) (outcome : env.consumeRequest q = .cancelled) :
      FailureReason env mediator q (failureReason env (q.reissued env.reissued)
        (.new .taskCanceled "A task was canceled."))
  | nullResult (reached : ReachesConsumer env mediator q)
      (outcome : env.consumeRequest q = .completed none) : FailureReason env mediator q nullReference

section Sending

variable {env : Environment} {mediator : Mediator} {q : Request} {r : Response}

theorem serialize_response_iff :
    (∃ json, JsonSerializer.serialize env.classes env.options (.message (.response r)) = .ok json) ↔
      Writable env r.type r.content ∧ ExceptionData.Shallow r.exceptionData := by
  constructor
  · rintro ⟨json, h⟩
    obtain ⟨options, he, mem⟩ := JsonSerializer.mem_of_serialize h
    rw [he] at h
    obtain ⟨supports, own, written, shallow, _⟩ := (JsonSerializer.serialize_eq_ok mem).mp h
    exact ⟨⟨options, own, he, mem, supports, written, shallow.own⟩, shallow.exceptions⟩
  · rintro ⟨⟨options, own, he, mem, supports, written, flat⟩, exceptions⟩
    rw [he]
    exact ⟨_, (JsonSerializer.serialize_eq_ok mem).mpr ⟨supports, own, written, ⟨flat, exceptions⟩, rfl⟩⟩

theorem mem_publishResponse {queue : String} {e : Effect}
    (h : e ∈ (publishResponse env queue r).effects) : e = .publishedResponse queue r := by
  have only : Traced.Only (fun e => e = .publishedResponse queue r) (publishResponse env queue r) := by
    unfold publishResponse
    refine Traced.only_bind (Traced.only_lift _ _) fun _ _ =>
      Traced.only_bind (Traced.only_lift _ _) fun _ _ => ?_
    split
    · exact Traced.only_bind (Traced.only_emit rfl) fun _ _ => Traced.only_lift _ _
    · exact Traced.only_lift _ _
  exact only e h

theorem mem_sendResponse {meanwhile : Option Restamp} {e : Effect}
    (h : e ∈ (sendResponse env mediator r q meanwhile).effects) :
    ∃ name sender, RabbitNaming.typeName r.type = .ok name ∧ q.senderInstance = some sender ∧
      e = .publishedResponse (responseQueue name sender) ((r.addressed mediator q).restamped meanwhile) := by
  unfold sendResponse at h
  simp only [Response.addressed] at h ⊢
  cases hn : RabbitNaming.typeName r.type with
  | error x => simp [hn] at h
  | ok name =>
    cases hs : q.senderInstance with
    | none => simp [hn, hs, dereference] at h
    | some sender =>
      simp only [hn, hs, dereference, Traced.lift_ok_bind] at h
      exact ⟨name, sender, rfl, rfl, mem_publishResponse h⟩

/-- With a broker that takes it, a response goes out just when it can be addressed and written. -/
theorem sendResponse_cases (mediator : Mediator) (q : Request) (r : Response) (meanwhile : Option Restamp)
    (channel : env.sendChannel = .ok ()) (publish : env.publish = ⟨true, .ok ()⟩) :
    (∃ name sender, RabbitNaming.typeName r.type = .ok name ∧ q.senderInstance = some sender ∧
      (Sendable env r.type r.content ∧ ExceptionData.Shallow r.exceptionData) ∧
      (sendResponse env mediator r q meanwhile).effects =
        [.publishedResponse (responseQueue name sender) ((r.addressed mediator q).restamped meanwhile)]) ∨
    ((sendResponse env mediator r q meanwhile).effects = [] ∧ ¬((∃ sender, q.senderInstance = some sender) ∧
      Sendable env r.type r.content ∧ ExceptionData.Shallow r.exceptionData)) := by
  unfold sendResponse
  have addressed : (r.addressed mediator q).targetInstance = q.senderInstance := rfl
  have type : (r.addressed mediator q).type = r.type := rfl
  simp only [addressed, type]
  cases hn : RabbitNaming.typeName r.type with
  | error x =>
    refine Or.inr ⟨rfl, ?_⟩
    rintro ⟨_, ⟨⟨name, h⟩, _⟩, _⟩
    cases hn.symm.trans h
  | ok name =>
    cases hs : q.senderInstance with
    | none => exact Or.inr ⟨rfl, fun h => by simpa using h.1⟩
    | some sender =>
      have writes := @serialize_response_iff env ((r.addressed mediator q).restamped meanwhile)
      rw [Response.type_restamped, Response.content_restamped, Response.exceptionData_restamped] at writes
      simp only [dereference, Traced.lift_ok_bind]
      unfold publishResponse
      rw [channel, publish]
      cases hz : JsonSerializer.serialize env.classes env.options
          (.message (.response ((r.addressed mediator q).restamped meanwhile))) with
      | error x =>
        refine Or.inr ⟨rfl, fun ⟨_, ⟨_, writable⟩, shallow⟩ => ?_⟩
        obtain ⟨json, h⟩ := writes.mpr ⟨writable, shallow⟩
        cases hz.symm.trans h
      | ok json =>
        obtain ⟨writable, shallow⟩ := writes.mp ⟨json, hz⟩
        exact Or.inl ⟨name, sender, rfl, rfl, ⟨⟨⟨name, hn⟩, writable⟩, shallow⟩, rfl⟩

end Sending

section Course

variable {env : Environment} {mediator : Mediator} {q : Request}

/-- The ways a request can go: an exception ends it without an answer, a failure is sent before or after its
consumer was asked, or the answer of its consumer is sent. After `Consume` the object is what the consumer has made
of it. -/
inductive Course (env : Environment) (mediator : Mediator) (q : Request) : List Effect → Prop
  | stopped (h : Stopped env mediator q) : Course env mediator q []
  | refused {reason : Exception} (running : ¬Stopped env mediator q) (unreached : ¬ReachesConsumer env mediator q)
      (why : FailureReason env mediator q reason) :
      Course env mediator q (respondWithFailure env mediator q q.tResponse q.isResponse reason).effects
  | failed {t : ConsumerType} {cancellation : ConsumeCancellation} {reason : Exception}
      (running : ¬Stopped env mediator q) (reached : ReachesConsumer env mediator q)
      (given : CancelledBy env q cancellation)
      (abnormal : ∀ a, env.consumeRequest q ≠ .completed (some a)) (why : FailureReason env mediator q reason) :
      Course env mediator q (.consumed t (.request q) (some cancellation) ::
        (respondWithFailure env mediator (q.reissued env.reissued) q.tResponse q.isResponse reason).effects)
  | answered {t : ConsumerType} {cancellation : ConsumeCancellation} {a : AnswerTo q}
      (running : ¬Stopped env mediator q) (reached : ReachesConsumer env mediator q)
      (given : CancelledBy env q cancellation) (returned : env.consumeRequest q = .completed (some a)) :
      Course env mediator q (.consumed t (.request q) (some cancellation) ::
        (sendResponse env mediator { a.1 with success := true } (q.reissued env.reissued) env.restamped).effects)

theorem writtenMeanwhile_of_returned {a : AnswerTo q} (returned : env.consumeRequest q = .completed (some a))
    (t : ConsumerType) : writtenMeanwhile env q (some t) = env.restamped := by
  simp only [writtenMeanwhile, returned]

theorem writtenMeanwhile_of_abnormal (abnormal : ∀ a, env.consumeRequest q ≠ .completed (some a))
    (consumer : Option ConsumerType) : writtenMeanwhile env q consumer = none := by
  unfold writtenMeanwhile
  split
  · split
    next a returned => exact absurd returned (abnormal a)
    next => rfl
  · rfl

/-- Either the consumer returned a response, or there is a reason why it did not. -/
theorem consumeRequest_cases (reached : ReachesConsumer env mediator q) (t : ConsumerType)
    (cancellation : ConsumeCancellation) :
    (∃ a, env.consumeRequest q = .completed (some a) ∧ consumeRequest env q (some t) cancellation =
      ⟨[.consumed t (.request q) (some cancellation)], .ok { a.1 with success := true }⟩) ∨
    ∃ ex, (∀ a, env.consumeRequest q ≠ .completed (some a)) ∧ consumeRequest env q (some t) cancellation =
        ⟨[.consumed t (.request q) (some cancellation)], .error ex⟩ ∧
      FailureReason env mediator q (failureReason env (q.reissued env.reissued) ex) := by
  unfold consumeRequest invoke
  cases hc : env.consumeRequest q with
  | threwSynchronously e => exact Or.inr ⟨.invocation e, by simp, rfl, .threw reached hc⟩
  | nullTask => exact Or.inr ⟨nullReference, by simp, rfl, .nullTask reached hc⟩
  | faulted e => exact Or.inr ⟨e, by simp, rfl, .faulted reached hc⟩
  | cancelled => exact Or.inr ⟨_, by simp, rfl, .cancelled reached hc⟩
  | completed result =>
    cases result with
    | none => exact Or.inr ⟨nullReference, by simp, rfl, .nullResult reached hc⟩
    | some a => exact Or.inl ⟨a, rfl, rfl⟩

/-- A failed consumption is answered as any other failure. -/
theorem effects_of_failed_consumption {consumer : Option ConsumerType} {cancellation : ConsumeCancellation}
    {before : List Effect} {ex : Exception} (after : Request) {meanwhile : Option Restamp} (alone : meanwhile = none)
    (h : consumeRequest env q consumer cancellation = ⟨before, .error ex⟩) :
    (do
      let response ← tryCatch (consumeRequest env q consumer cancellation)
        (failureResponse env after q.tResponse q.isResponse)
      sendResponse env mediator response after meanwhile
      pure true : Run Bool).effects =
    before ++ (respondWithFailure env mediator after q.tResponse q.isResponse
      (failureReason env after ex)).effects := by
  subst alone
  rw [Traced.tryCatch_of_error (by rw [h]), h]
  unfold failureResponse respondWithFailure
  cases createInstance q.tResponse q.isResponse with
  | error e => rfl
  | ok r =>
    simp only [Traced.lift_ok_bind]
    rw [Traced.bind_of_ok (a := r.failed (failureReason env after ex)) rfl]
    exact congrArg (· ++ _) (List.append_nil before)

theorem effects_of_completed_consumption {consumer : Option ConsumerType} {cancellation : ConsumeCancellation}
    {before : List Effect} {r : Response} (after : Request) (meanwhile : Option Restamp)
    (h : consumeRequest env q consumer cancellation = ⟨before, .ok r⟩) :
    (do
      let response ← tryCatch (consumeRequest env q consumer cancellation)
        (failureResponse env after q.tResponse q.isResponse)
      sendResponse env mediator response after meanwhile
      pure true : Run Bool).effects = before ++ (sendResponse env mediator r after meanwhile).effects := by
  rw [Traced.tryCatch_of_ok (by rw [h]), h, Traced.bind_of_ok rfl]
  cases hr : (sendResponse env mediator r after meanwhile).result with
  | error e => simp [Traced.bind_of_error hr]
  | ok _ => simp [Traced.bind_of_ok hr]

variable {c : RabbitMultiplexerMediatorConfiguration} {t : ConsumerType}

theorem reachesConsumer_iff (hc : env.configuration = some c)
    (hm : c.sentTypeToConsumerMapping.lookup q.type = some t) :
    ReachesConsumer env mediator q ↔ getConsumer env mediator t = .ok (some t) ∧ TimeLeft env q := by
  constructor
  · rintro ⟨d, u, hd, hu, h⟩
    cases hc.symm.trans hd
    cases hm.symm.trans hu
    exact h
  · exact fun h => ⟨c, t, hc, hm, h⟩

theorem not_stopped_of_unmapped (hc : env.configuration = some c)
    (hm : c.sentTypeToConsumerMapping.lookup q.type = none) : ¬Stopped env mediator q := by
  rintro (h | ⟨d, u, hd, hu, _⟩)
  · simp [hc] at h
  · cases hc.symm.trans hd
    simp [hm] at hu

theorem not_stopped_of_started (hc : env.configuration = some c)
    (hm : c.sentTypeToConsumerMapping.lookup q.type = some t) {consumer : Option ConsumerType}
    (hg : getConsumer env mediator t = .ok consumer) {remaining : TimeSpan}
    (hr : remainingTime env q = .ok remaining)
    (ready : remaining.ticks ≤ 0 ∨ ∃ cancellation, consumeCancellation remaining = .ok cancellation) :
    ¬Stopped env mediator q := by
  rintro (h | ⟨d, u, hd, hu, h⟩)
  · simp [hc] at h
  · cases hc.symm.trans hd
    cases hm.symm.trans hu
    rcases h with ⟨e, h⟩ | ⟨e, h⟩ | ⟨s, e, h, hpos, hca⟩
    · simp [hg] at h
    · simp [hr] at h
    · cases hr.symm.trans h
      rcases ready with h | ⟨cancellation, h⟩
      · omega
      · simp [hca] at h

theorem handleRequest_course (env : Environment) (mediator : Mediator) (q : Request) :
    Course env mediator q (handleRequest env mediator q).effects := by
  cases hc : env.configuration with
  | none =>
    obtain ⟨e, he⟩ := handleRequest_unregistered mediator q hc
    rw [he]
    exact .stopped (Or.inl hc)
  | some c =>
    cases hm : c.sentTypeToConsumerMapping.lookup q.type with
    | none =>
      rw [handleRequest_unmapped hc hm]
      refine .refused (not_stopped_of_unmapped hc hm) ?_ (.noConsumer hc hm)
      rintro ⟨d, u, hd, hu, _⟩
      cases hc.symm.trans hd
      simp [hm] at hu
    | some t =>
      rw [handleRequest_mapped hc hm]
      have reached := @reachesConsumer_iff env mediator q c t hc hm
      cases hg : getConsumer env mediator t with
      | error e => exact .stopped (Or.inr ⟨c, t, hc, hm, Or.inl ⟨e, hg⟩⟩)
      | ok consumer =>
        cases hr : remainingTime env q with
        | error e => exact .stopped (Or.inr ⟨c, t, hc, hm, Or.inr (Or.inl ⟨e, hr⟩)⟩)
        | ok remaining =>
          simp only [Traced.lift_ok_bind]
          split
          next hle =>
            refine .refused (not_stopped_of_started hc hm hg hr (Or.inl hle)) (fun h => ?_)
              (.expired hc hm hg hr hle)
            obtain ⟨_, s, _, hs, positive, _⟩ := reached.mp h
            cases hr.symm.trans hs
            omega
          next hgt =>
            cases hca : consumeCancellation remaining with
            | error e =>
              exact .stopped (Or.inr ⟨c, t, hc, hm, Or.inr (Or.inr ⟨remaining, e, hr, by omega, hca⟩)⟩)
            | ok cancellation =>
              have running := not_stopped_of_started hc hm hg hr (Or.inr ⟨cancellation, hca⟩)
              have left : TimeLeft env q := ⟨remaining, cancellation, hr, by omega, hca⟩
              simp only [Traced.lift_ok_bind]
              cases consumer with
              | none =>
                have alone : writtenMeanwhile env q none = none := rfl
                rw [effects_of_failed_consumption _ alone rfl]
                exact .refused running (fun h => by simpa [hg] using (reached.mp h).1) (.notListed hc hm hg left)
              | some u =>
                cases getConsumer_some hg
                have asked := reached.mpr ⟨hg, left⟩
                have given : CancelledBy env q cancellation := ⟨remaining, hr, by omega, hca⟩
                rcases consumeRequest_cases asked t cancellation with ⟨a, ha, hx⟩ | ⟨ex, abnormal, hx, why⟩
                · rw [effects_of_completed_consumption _ _ hx, writtenMeanwhile_of_returned ha]
                  exact .answered running asked given ha
                · rw [effects_of_failed_consumption _ (writtenMeanwhile_of_abnormal abnormal _) hx]
                  exact .failed running asked given abnormal why

/-- What a published response says of the run that sent it, and what its request object said by then. -/
inductive Reports (env : Environment) (mediator : Mediator) (q : Request) : Request → Response → Prop
  | consumed {a : AnswerTo q} (reached : ReachesConsumer env mediator q)
      (returned : env.consumeRequest q = .completed (some a)) :
      Reports env mediator q (q.reissued env.reissued)
        (({ a.1 with success := true }.addressed mediator (q.reissued env.reissued)).restamped env.restamped)
  | failed {empty : Response} {reason : Exception} (reached : ReachesConsumer env mediator q)
      (abnormal : ∀ a, env.consumeRequest q ≠ .completed (some a))
      (created : createInstance q.tResponse q.isResponse = .ok empty)
      (why : FailureReason env mediator q reason) :
      Reports env mediator q (q.reissued env.reissued)
        ((empty.failed reason).addressed mediator (q.reissued env.reissued))
  | refused {empty : Response} {reason : Exception} (unreached : ¬ReachesConsumer env mediator q)
      (created : createInstance q.tResponse q.isResponse = .ok empty)
      (why : FailureReason env mediator q reason) :
      Reports env mediator q q ((empty.failed reason).addressed mediator q)

theorem mem_respondWithFailure {after : Request} {queue : String} {p : Response} {reason : Exception}
    (h : .publishedResponse queue p ∈
      (respondWithFailure env mediator after q.tResponse q.isResponse reason).effects) :
    ∃ empty, createInstance q.tResponse q.isResponse = .ok empty ∧
      .publishedResponse queue p ∈ (sendResponse env mediator (empty.failed reason) after none).effects := by
  unfold respondWithFailure at h
  cases hc : createInstance q.tResponse q.isResponse with
  | error e => simp [hc] at h
  | ok empty =>
    simp only [hc, Traced.lift_ok_bind] at h
    refine ⟨empty, rfl, ?_⟩
    cases hr : (sendResponse env mediator (empty.failed reason) after none).result with
    | error e => simpa [Traced.bind_of_error hr] using h
    | ok _ => simpa [Traced.bind_of_ok hr] using h

/-- A response goes to the queue named by its class and by the sender its request object names, and tells how its
request went. -/
theorem handleRequest_published {queue : String} {p : Response}
    (h : .publishedResponse queue p ∈ (handleRequest env mediator q).effects) :
    ∃ after name target, RabbitNaming.typeName p.type = .ok name ∧ after.senderInstance = some target ∧
      queue = responseQueue name target ∧ Reports env mediator q after p := by
  have sent : ∀ {r : Response} {after : Request} {meanwhile : Option Restamp},
      .publishedResponse queue p ∈ (sendResponse env mediator r after meanwhile).effects →
      ∃ name target, RabbitNaming.typeName p.type = .ok name ∧ after.senderInstance = some target ∧
        queue = responseQueue name target ∧ p = (r.addressed mediator after).restamped meanwhile := by
    intro r after meanwhile h
    obtain ⟨name, sender, hn, hs, he⟩ := mem_sendResponse h
    cases he
    exact ⟨name, sender, (Response.type_restamped _ _).symm ▸ hn, hs, rfl, rfl⟩
  have course := handleRequest_course env mediator q
  generalize (handleRequest env mediator q).effects = es at course h
  cases course with
  | stopped => simp at h
  | refused running unreached why =>
    obtain ⟨empty, created, h⟩ := mem_respondWithFailure h
    obtain ⟨name, target, hn, ht, hq, rfl⟩ := sent h
    exact ⟨q, name, target, hn, ht, hq, .refused unreached created why⟩
  | failed running reached given abnormal why =>
    rcases List.mem_cons.mp h with h | h
    · cases h
    · obtain ⟨empty, created, h⟩ := mem_respondWithFailure h
      obtain ⟨name, target, hn, ht, hq, rfl⟩ := sent h
      exact ⟨_, name, target, hn, ht, hq, .failed reached abnormal created why⟩
  | answered running reached given returned =>
    rcases List.mem_cons.mp h with h | h
    · cases h
    · obtain ⟨name, target, hn, ht, hq, rfl⟩ := sent h
      exact ⟨_, name, target, hn, ht, hq, .consumed reached returned⟩

end Course
end RabbitMediator
