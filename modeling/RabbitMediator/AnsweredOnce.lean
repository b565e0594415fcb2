import RabbitMediator.Answering

namespace RabbitMediator

/-- A request in the hands of a configured mediator that is not disposed, with a broker that takes
what is published. -/
structure Delivered (env : Environment) (c : RabbitMultiplexerMediatorConfiguration) (q : Request) :
    Prop where
  live : env.disposed = false
  deserialized : env.deserialized = .ok (some (.request q))
  configuration : env.configuration = some c
  configurationOfConsumer : env.configurationOfConsumer = some c
  sendChannel : env.sendChannel = .ok ()
  publish : env.publish = ⟨true, .ok ()⟩

/-- `Consume` ran on the request, and to normal completion with a response. -/
def ConsumedNormally (env : Environment) (q : Request) (effects : List Effect) : Prop :=
  (∃ t token, .consumed t (.request q) token ∈ effects) ∧ ∃ a, env.consumeRequest q = .completed (some a)

/-- One response went out: to the sender of the request, under its correlation id, successful just
when the request was consumed normally, and else with the reason. -/
def AnsweredOnce (env : Environment) (mediator : Mediator) (q : Request) (effects : List Effect) :
    Prop :=
  ∃ sender name r, q.senderInstance = some sender ∧ RabbitNaming.typeName r.type = .ok name ∧
    publishedResponses effects = [(responseQueue name sender, r)] ∧
    r.correlationId = q.correlationId ∧ r.targetInstance = some sender ∧
    (r.success = true ↔ ConsumedNormally env q effects) ∧
    (r.success = false →
      ∃ e, FailureReason env mediator q e ∧ r.exceptionData = some (.fromException e))

/-- A consumer is mapped to the request and its sender still waits. -/
def Asked (env : Environment) (c : RabbitMultiplexerMediatorConfiguration) (q : Request) : Prop :=
  (∃ t, c.sentTypeToConsumerMapping.lookup q.type = some t) ∧
    ∃ remaining, remainingTime env q = .ok remaining ∧ 0 < remaining.ticks

/-- A consumer that ended with this exception was stopped by the timeout. -/
def StoppedByTimeOut (env : Environment) (e : Exception) : Prop :=
  e.isOperationCanceledException = true ∧ env.timeOutElapsed = true ∧ env.deliveryCancelled = false

/-- Whatever was written into the request object during `Consume`, and into the response object before it was
serialized, leaves the sender and the id of the request. -/
structure Request.Kept (q : Request) (reissued : Option Reissue) (restamped : Option Restamp) : Prop where
  sender : ∀ s, reissued = some s → q.senderInstance = some s.mediator.getInstanceInformation
  id : ∀ s, reissued = some s → restamped = none → s.correlationId = q.correlationId
  stamp : ∀ s, restamped = some s → s.correlationId = q.correlationId ∧ s.targetInstance = q.senderInstance

/-- When a request is answered. -/
structure Answerable (env : Environment) (c : RabbitMultiplexerMediatorConfiguration) (q : Request) :
    Prop where
  sender : ∃ i, q.senderInstance = some i
  created : ∀ t, c.sentTypeToConsumerMapping.lookup q.type = some t → env.instantiate t = .ok ()
  scheduled : ∀ t, c.sentTypeToConsumerMapping.lookup q.type = some t →
    ∃ remaining, remainingTime env q = .ok remaining ∧
      (0 < remaining.ticks → remaining.timerAccepts = true)
  kept : ∀ t, Asked env c q → q.Kept env.reissued (writtenMeanwhile env q (some t))
  returned : ∀ a, Asked env c q → env.consumeRequest q = .completed (some a) →
    Sendable env a.1.type a.1.content ∧ ExceptionData.Shallow a.1.exceptionData
  thrown : ∀ e, Asked env c q → (env.consumeRequest q).thrown = some e → e.count ≤ 62 ∨ StoppedByTimeOut env e
  failed : (∀ a, Asked env c q → env.consumeRequest q ≠ .completed (some a)) →
    q.tResponse.constructible = true ∧ Sendable env q.tResponse ""

section Kept

variable {q : Request} {reissued : Option Reissue} {restamped : Option Restamp}

theorem Request.kept_none : q.Kept none none where
  sender _ h := by cases h
  id _ h := by cases h
  stamp _ h := by cases h

/-- Then the response still names them. -/
theorem Request.kept_iff (r : Response) (mediator : Mediator) : q.Kept reissued restamped ↔
    (q.reissued reissued).senderInstance = q.senderInstance ∧
      ((r.addressed mediator (q.reissued reissued)).restamped restamped).correlationId = q.correlationId ∧
      ((r.addressed mediator (q.reissued reissued)).restamped restamped).targetInstance = q.senderInstance := by
  constructor
  · intro kept
    have sender : (q.reissued reissued).senderInstance = q.senderInstance := by
      cases reissued with
      | none => rfl
      | some s => exact (kept.sender s rfl).symm
    refine ⟨sender, ?_⟩
    cases restamped with
    | some s => exact kept.stamp s rfl
    | none =>
      refine ⟨?_, sender⟩
      cases reissued with
      | none => rfl
      | some s => exact kept.id s rfl rfl
  · rintro ⟨sender, id, target⟩
    refine ⟨?_, ?_, ?_⟩
    · rintro s rfl
      exact sender.symm
    · rintro s rfl rfl
      exact id
    · rintro s rfl
      exact ⟨id, target⟩

/-- The queues of two senders differ, whoever has been given the object. -/
theorem Request.sender_of_queue {name : String} {sender target : InstanceInformation}
    (hs : q.senderInstance = some sender) (ht : (q.reissued reissued).senderInstance = some target)
    (same : responseQueue name sender = responseQueue name target) : sender = target := by
  cases reissued with
  | none => exact Option.some.inj (hs.symm.trans ht)
  | some s =>
    obtain rfl : s.mediator.getInstanceInformation = target := Option.some.inj ht
    obtain ⟨instanceId, scope⟩ := RabbitNaming.inputQueue_inj_of_generated same
    exact congrArg₂ InstanceInformation.mk instanceId scope

end Kept

section Reasons

variable {env : Environment} {mediator : Mediator} {q : Request} {reason : Exception}

theorem count_failureReason (q : Request) (ex : Exception) : (failureReason env q ex).count ≤ 62 ↔
    ex.unwrapInvocation.count ≤ 62 ∨ StoppedByTimeOut env ex.unwrapInvocation := by
  unfold failureReason StoppedByTimeOut
  dsimp only
  split
  next stopped =>
    refine iff_of_true (by simp) (Or.inr ?_)
    simp only [Bool.and_eq_true, Bool.or_eq_true, Bool.not_eq_true'] at stopped
    obtain ⟨⟨cancelled, elapsed⟩, alive⟩ := stopped
    exact ⟨cancelled, elapsed.resolve_right (by simp [alive]), alive⟩
  next running =>
    refine (or_iff_left ?_).symm
    rintro ⟨cancelled, elapsed, alive⟩
    exact running (by simp [cancelled, elapsed, alive])

/-- A failure can be reported unless its consumer threw too many exceptions inside each other. -/
theorem FailureReason.shallow_iff (why : FailureReason env mediator q reason) :
    ExceptionData.Shallow (some (.fromException reason)) ↔ ∀ e, ReachesConsumer env mediator q →
      (env.consumeRequest q).thrown = some e → e.count ≤ 62 ∨ StoppedByTimeOut env e := by
  have counted : ExceptionData.Shallow (some (.fromException reason)) ↔ reason.count ≤ 62 := by
    simp only [ExceptionData.Shallow, Option.some.injEq, forall_eq', ExceptionData.count_fromException]
  rw [counted]
  cases why with
  | noConsumer registered unmapped =>
    refine iff_of_true (by simp [RabbitMediator.noConsumer]) fun e ⟨c, t, hc, hm, _⟩ => ?_
    cases registered.symm.trans hc
    cases unmapped.symm.trans hm
  | expired registered mapped created left late =>
    refine iff_of_true (by simp [RabbitMediator.expired]) fun e ⟨_, _, _, _, _, remaining, _, hr, positive, _⟩ => ?_
    cases left.symm.trans hr
    omega
  | notListed registered mapped unlisted left =>
    refine iff_of_true (by decide) fun e ⟨c, t, hc, hm, hg, _⟩ => ?_
    cases registered.symm.trans hc
    cases mapped.symm.trans hm
    cases unlisted.symm.trans hg
  | threw reached outcome =>
    rw [count_failureReason, Exception.unwrapInvocation_invocation, outcome]
    simp [Consumption.thrown, reached]
  | faulted reached outcome =>
    rw [count_failureReason, outcome]
    simp [Consumption.thrown, reached]
  | cancelled reached outcome =>
    rw [count_failureReason, outcome]
    exact iff_of_true (Or.inl (by decide)) (by simp [Consumption.thrown])
  | nullTask reached outcome | nullResult reached outcome =>
    rw [outcome]
    exact iff_of_true (by decide) (by simp [Consumption.thrown])

end Reasons

section Delivered

variable {env : Environment} {mediator : Mediator} {q : Request}
  {c : RabbitMultiplexerMediatorConfiguration}

theorem consumeCancellation_ok_iff {t : TimeSpan} (h : 0 < t.ticks) :
    (∃ cancellation, consumeCancellation t = .ok cancellation) ↔ t.timerAccepts = true := by
  have finite : t ≠ .infinite := by
    rintro rfl
    revert h
    decide
  rw [consumeCancellation, if_neg finite, ← TimeSpan.timer_ok_iff]
  cases t.timer <;> simp [bind, Except.bind, pure, Except.pure]

theorem Delivered.effects_eq (d : Delivered env c q) :
    (tryHandleSentObjectReceived env mediator).effects = (handleRequest env mediator q).effects := by
  unfold tryHandleSentObjectReceived
  rw [if_neg (by simp [d.live]), d.deserialized]
  exact (Traced.tryCatch_pure _ _).1

theorem Delivered.getConsumer_eq (d : Delivered env c q) (mediator : Mediator) {t : ConsumerType}
    (hm : c.sentTypeToConsumerMapping.lookup q.type = some t) :
    getConsumer env mediator t = (env.instantiate t).map fun _ => some t :=
  getConsumer_of_mapped d.configurationOfConsumer hm

theorem Delivered.not_stopped_iff (d : Delivered env c q) :
    ¬Stopped env mediator q ↔ ∀ t, c.sentTypeToConsumerMapping.lookup q.type = some t →
      env.instantiate t = .ok () ∧ ∃ remaining, remainingTime env q = .ok remaining ∧
        (0 < remaining.ticks → remaining.timerAccepts = true) := by
  constructor
  · intro running t hm
    have stop := fun h => running (Or.inr ⟨c, t, d.configuration, hm, h⟩)
    have hg := d.getConsumer_eq mediator hm
    constructor
    · cases hi : env.instantiate t with
      | ok u => rfl
      | error e => exact absurd (Or.inl ⟨e, by rw [hg, hi]; rfl⟩) stop
    · cases hr : remainingTime env q with
      | error e => exact absurd (Or.inr (Or.inl ⟨e, hr⟩)) stop
      | ok remaining =>
        refine ⟨remaining, rfl, fun hpos => ?_⟩
        cases hca : consumeCancellation remaining with
        | ok cancellation => exact (consumeCancellation_ok_iff hpos).mp ⟨cancellation, hca⟩
        | error e => exact absurd (Or.inr (Or.inr ⟨remaining, e, hr, hpos, hca⟩)) stop
  · rintro h (hn | ⟨d', t, hd, hm, hs⟩)
    · simp [d.configuration] at hn
    · cases d.configuration.symm.trans hd
      obtain ⟨hi, remaining, hr, hok⟩ := h t hm
      rcases hs with ⟨e, hg⟩ | ⟨e, he⟩ | ⟨s, e, hs, hpos, hca⟩
      · rw [d.getConsumer_eq mediator hm, hi] at hg
        cases hg
      · simp [hr] at he
      · cases hr.symm.trans hs
        obtain ⟨cancellation, h⟩ := (consumeCancellation_ok_iff hpos).mpr (hok hpos)
        cases hca.symm.trans h

/-- With nothing to stop it, a request is asked just when it reaches its consumer. -/
theorem Delivered.reaches_iff (d : Delivered env c q) (running : ¬Stopped env mediator q) :
    ReachesConsumer env mediator q ↔ Asked env c q := by
  constructor
  · rintro ⟨d', t, hd, hm, _, remaining, _, hr, hpos, _⟩
    cases d.configuration.symm.trans hd
    exact ⟨⟨t, hm⟩, remaining, hr, hpos⟩
  · rintro ⟨⟨t, hm⟩, remaining, hr, hpos⟩
    obtain ⟨hi, s, hs, hok⟩ := d.not_stopped_iff.mp running t hm
    cases hr.symm.trans hs
    obtain ⟨cancellation, hca⟩ := (consumeCancellation_ok_iff hpos).mpr (hok hpos)
    refine ⟨c, t, d.configuration, hm, ?_, remaining, cancellation, hr, hpos, hca⟩
    rw [d.getConsumer_eq mediator hm, hi]
    rfl

theorem not_answeredOnce_of_silent {es : List Effect} (h : publishedResponses es = []) :
    ¬AnsweredOnce env mediator q es := by
  rintro ⟨_, _, _, _, _, hp, _⟩
  simp [h] at hp

/-- A response that tells how its request went answers it just when it is sent, and under the name and id of its
sender. -/
theorem Delivered.sent_iff (d : Delivered env c q) {before : List Effect} {r : Response} (reissued : Option Reissue)
    (meanwhile : Option Restamp) (quiet : publishedResponses before = [])
    (told : r.success = true ↔ ConsumedNormally env q
      (before ++ (sendResponse env mediator r (q.reissued reissued) meanwhile).effects))
    (why : r.success = false →
      ∃ e, FailureReason env mediator q e ∧ r.exceptionData = some (.fromException e)) :
    AnsweredOnce env mediator q (before ++ (sendResponse env mediator r (q.reissued reissued) meanwhile).effects) ↔
      (∃ sender, q.senderInstance = some sender) ∧ q.Kept reissued meanwhile ∧ Sendable env r.type r.content ∧
        ExceptionData.Shallow r.exceptionData := by
  rcases sendResponse_cases mediator (q.reissued reissued) r meanwhile d.sendChannel d.publish with
    ⟨name, target, hn, ht, hsend, he⟩ | ⟨he, hno⟩
  · have published : publishedResponses
        (before ++ (sendResponse env mediator r (q.reissued reissued) meanwhile).effects) =
        [(responseQueue name target, (r.addressed mediator (q.reissued reissued)).restamped meanwhile)] := by
      rw [publishedResponses_append, quiet, he]
      rfl
    constructor
    · rintro ⟨sender, name', p, hs, hn', hp, id, addressed, _⟩
      have one := published.symm.trans hp
      simp only [List.cons.injEq, Prod.mk.injEq, and_true] at one
      obtain ⟨queue, rfl⟩ := one
      rw [Response.type_restamped] at hn'
      cases hn.symm.trans hn'
      cases Request.sender_of_queue hs ht queue.symm
      exact ⟨⟨_, hs⟩, (q.kept_iff r mediator).mpr ⟨ht.trans hs.symm, id, addressed.trans hs.symm⟩, hsend⟩
    · rintro ⟨⟨sender, hs⟩, kept, _⟩
      obtain ⟨same, id, addressed⟩ := (q.kept_iff r mediator).mp kept
      cases (same.symm.trans ht).symm.trans hs
      refine ⟨target, name, _, hs, by rwa [Response.type_restamped], published, id, addressed.trans hs, ?_, ?_⟩
      · rw [Response.success_restamped]
        exact told
      · rw [Response.success_restamped, Response.exceptionData_restamped]
        exact why
  · constructor
    · intro h
      refine absurd h (not_answeredOnce_of_silent ?_)
      rw [he, List.append_nil, quiet]
    · rintro ⟨⟨sender, hs⟩, kept, hsend⟩
      exact absurd ⟨⟨sender, ((q.kept_iff r mediator).mp kept).1.trans hs⟩, hsend⟩ hno

theorem not_mem_sendResponse {r : Response} {after : Request} {meanwhile : Option Restamp} {t : ConsumerType}
    {o : SentObject} {token : Option ConsumeCancellation} :
    .consumed t o token ∉ (sendResponse env mediator r after meanwhile).effects := by
  intro h
  obtain ⟨_, _, _, _, he⟩ := mem_sendResponse h
  cases he

/-- A failure that is sent answers the request, and is sent just when it can be made and sent. -/
theorem Delivered.failed_iff (d : Delivered env c q) {before : List Effect} {reason : Exception}
    (reissued : Option Reissue) (quiet : publishedResponses before = [])
    (abnormal : before = [] ∨ ∀ a, env.consumeRequest q ≠ .completed (some a))
    (why : FailureReason env mediator q reason) :
    AnsweredOnce env mediator q (before ++
      (respondWithFailure env mediator (q.reissued reissued) q.tResponse q.isResponse reason).effects) ↔
    (∃ sender, q.senderInstance = some sender) ∧ q.Kept reissued none ∧
      (q.tResponse.constructible = true ∧ Sendable env q.tResponse "") ∧
      ExceptionData.Shallow (some (.fromException reason)) := by
  unfold respondWithFailure
  cases hc : createInstance q.tResponse q.isResponse with
  | error e =>
    refine iff_of_false (not_answeredOnce_of_silent ?_) ?_
    · simp [quiet]
    · rintro ⟨_, _, ⟨constructible, _⟩, _⟩
      obtain ⟨r, hr⟩ := (createInstance_ok_iff (h := q.isResponse)).mpr constructible
      cases hc.symm.trans hr
  | ok empty =>
    obtain ⟨type, content⟩ := createInstance_ok hc
    have constructible := createInstance_ok_iff.mp ⟨empty, hc⟩
    have effects : (do
        sendResponse env mediator (empty.failed reason) (q.reissued reissued) none
        pure true : Run Bool).effects =
          (sendResponse env mediator (empty.failed reason) (q.reissued reissued) none).effects := by
      cases hr : (sendResponse env mediator (empty.failed reason) (q.reissued reissued) none).result with
      | error e => simp [Traced.bind_of_error hr]
      | ok _ => simp [Traced.bind_of_ok hr]
    simp only [Traced.lift_ok_bind]
    rw [effects, d.sent_iff reissued none quiet ?_ fun _ => ⟨reason, why, rfl⟩]
    · simp only [Response.failed, type, content, constructible, true_and]
    · refine iff_of_false (by simp [Response.failed]) ?_
      rintro ⟨⟨t, token, consumed⟩, a, returned⟩
      rcases abnormal with rfl | abnormal
      · exact not_mem_sendResponse consumed
      · exact abnormal a returned

theorem Delivered.answered_iff (d : Delivered env c q) {t : ConsumerType} {token : Option ConsumeCancellation}
    {a : AnswerTo q} (returned : env.consumeRequest q = .completed (some a)) :
    AnsweredOnce env mediator q (.consumed t (.request q) token ::
      (sendResponse env mediator { a.1 with success := true } (q.reissued env.reissued) env.restamped).effects) ↔
    (∃ sender, q.senderInstance = some sender) ∧ q.Kept env.reissued env.restamped ∧
      Sendable env a.1.type a.1.content ∧ ExceptionData.Shallow a.1.exceptionData := by
  have consumed : ConsumedNormally env q ([.consumed t (.request q) token] ++
      (sendResponse env mediator { a.1 with success := true } (q.reissued env.reissued) env.restamped).effects) :=
    ⟨⟨t, token, List.mem_cons_self⟩, a, returned⟩
  exact d.sent_iff env.reissued env.restamped rfl (iff_of_true rfl consumed) fun failed => by cases failed

/-- With nothing to stop it, a request is answerable by what its consumer does, or else by a failure that can be
sent. -/
theorem Delivered.answerable_iff (d : Delivered env c q) (running : ¬Stopped env mediator q) :
    Answerable env c q ↔ (∃ sender, q.senderInstance = some sender) ∧
      (ReachesConsumer env mediator q → (∀ t, q.Kept env.reissued (writtenMeanwhile env q (some t))) ∧
        (∀ a, env.consumeRequest q = .completed (some a) →
          Sendable env a.1.type a.1.content ∧ ExceptionData.Shallow a.1.exceptionData) ∧
        ∀ e, (env.consumeRequest q).thrown = some e → e.count ≤ 62 ∨ StoppedByTimeOut env e) ∧
      ((∀ a, ReachesConsumer env mediator q → env.consumeRequest q ≠ .completed (some a)) →
        q.tResponse.constructible = true ∧ Sendable env q.tResponse "") := by
  have started := d.not_stopped_iff.mp running
  rw [d.reaches_iff running]
  constructor
  · intro ans
    exact ⟨ans.sender, fun asked => ⟨fun t => ans.kept t asked, fun a => ans.returned a asked,
      fun e => ans.thrown e asked⟩, ans.failed⟩
  · rintro ⟨sender, asks, failed⟩
    exact ⟨sender, fun t hm => (started t hm).1, fun t hm => (started t hm).2, fun t asked => (asks asked).1 t,
      fun a asked => (asks asked).2.1 a, fun e asked => (asks asked).2.2 e, failed⟩

theorem request_answeredOnce_iff_answerable (d : Delivered env c q) :
    AnsweredOnce env mediator q (tryHandleSentObjectReceived env mediator).effects ↔
      Answerable env c q := by
  rw [d.effects_eq]
  have course := handleRequest_course env mediator q
  generalize (handleRequest env mediator q).effects = es at course
  cases course with
  | stopped h =>
    refine ⟨fun h => absurd h (not_answeredOnce_of_silent rfl), fun ans => absurd h ?_⟩
    exact d.not_stopped_iff.mpr fun t hm => ⟨ans.created t hm, ans.scheduled t hm⟩
  | refused running unreached why =>
    have answered := d.failed_iff none publishedResponses_nil (Or.inl rfl) why
    rw [List.nil_append] at answered
    refine answered.trans ?_
    rw [why.shallow_iff, d.answerable_iff running]
    constructor
    · rintro ⟨sender, _, made, _⟩
      exact ⟨sender, fun reached => absurd reached unreached, fun _ => made⟩
    · rintro ⟨sender, _, failed⟩
      exact ⟨sender, Request.kept_none, failed fun _ reached => absurd reached unreached,
        fun _ reached => absurd reached unreached⟩
  | @failed t cancellation reason running reached given abnormal why =>
    have answered := @Delivered.failed_iff env mediator q c d [.consumed t (.request q) (some cancellation)] reason
      env.reissued rfl (Or.inr abnormal) why
    have alone (u : ConsumerType) : writtenMeanwhile env q (some u) = none :=
      writtenMeanwhile_of_abnormal abnormal _
    rw [List.singleton_append] at answered
    rw [answered, why.shallow_iff, d.answerable_iff running]
    constructor
    · rintro ⟨sender, kept, made, shallow⟩
      exact ⟨sender, fun _ => ⟨fun u => (alone u).symm ▸ kept, fun a returned => absurd returned (abnormal a),
        fun e => shallow e reached⟩, fun _ => made⟩
    · rintro ⟨sender, asks, failed⟩
      obtain ⟨kept, _, shallow⟩ := asks reached
      exact ⟨sender, alone t ▸ kept t, failed fun a _ => abnormal a, fun e _ => shallow e⟩
  | @answered t cancellation a running reached given returned =>
    have written (u : ConsumerType) : writtenMeanwhile env q (some u) = env.restamped :=
      writtenMeanwhile_of_returned returned u
    rw [d.answered_iff returned, d.answerable_iff running]
    constructor
    · rintro ⟨sender, kept, sent⟩
      refine ⟨sender, fun _ => ⟨fun u => (written u).symm ▸ kept, fun b hb => ?_, fun e thrown => ?_⟩,
        fun unanswered => absurd returned (unanswered a reached)⟩
      · cases returned.symm.trans hb
        exact sent
      · rw [returned] at thrown
        cases thrown
    · rintro ⟨sender, asks, _⟩
      obtain ⟨kept, sent, _⟩ := asks reached
      exact ⟨sender, written t ▸ kept t, sent a returned⟩

end Delivered

theorem delivered_testEnvironment (q : Request) :
    Delivered (testEnvironment (.request q)) testMediatorConfiguration q :=
  ⟨rfl, rfl, rfl, rfl, rfl, rfl⟩

theorem testWritable (content : String) :
    Writable (testEnvironment (.request testRequest)) testAnyTargetedResponse content :=
  ⟨_, _, rfl, List.mem_singleton_self _, ⟨by decide, List.nodup_singleton _⟩, rfl, by simp [Json.height]⟩

/-- The test request with the test consumer is answered. -/
theorem testRequest_answeredOnce : AnsweredOnce (testEnvironment (.request testRequest)) testMediator
    testRequest (tryHandleSentObjectReceived (testEnvironment (.request testRequest)) testMediator).effects :=
  (request_answeredOnce_iff_answerable (delivered_testEnvironment testRequest)).mpr {
    sender := ⟨_, rfl⟩
    created := fun _ _ => rfl
    scheduled := fun _ _ => ⟨tenSeconds, by decide, by decide⟩
    kept := fun _ _ => Request.kept_none
    returned := fun a _ h => by
      cases h
      exact ⟨⟨⟨"Weltmeyer.RabbitMediator.TestTool.Messages.TestAnyTargetedResponse", by decide⟩,
        testWritable _⟩, by simp [ExceptionData.Shallow]⟩
    thrown := by simp [testEnvironment, Consumption.thrown]
    failed := fun h => absurd rfl (h _ ⟨⟨testAnyTargetedRequestConsumer, by decide⟩,
      tenSeconds, by decide, by decide⟩) }

/-- A service provider that cannot create the consumer leaves the requester without any answer. -/
def uncreatableEnvironment : Environment :=
  { testEnvironment (.request testRequest) with
    instantiate := fun _ => .error (.new .invalidOperation "Unable to resolve service for type.") }

theorem uncreatable_consumer_unanswered : ¬∀ env mediator c q, Delivered env c q →
    AnsweredOnce env mediator q (tryHandleSentObjectReceived env mediator).effects := by
  intro h
  have d : Delivered uncreatableEnvironment testMediatorConfiguration testRequest :=
    ⟨rfl, rfl, rfl, rfl, rfl, rfl⟩
  refine not_answeredOnce_of_silent ?_ (h _ testMediator _ _ d)
  decide

end RabbitMediator
