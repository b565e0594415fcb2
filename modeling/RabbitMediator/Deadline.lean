import RabbitMediator.AnsweredOnce
import RabbitMediator.Consumption

namespace RabbitMediator

/-- Whether the consumer's token is cancelled `since` after the consumer was invoked. -/
def ConsumeCancellation.isCancellationRequested (c : ConsumeCancellation) (deliveryCancelled : Bool)
    (since : TimeSpan) : Bool :=
  deliveryCancelled || c.cancelAfter.any fun milliseconds => 0 ≤ milliseconds && milliseconds * 10000 ≤ since.ticks

/-- The response says that the request timed out before a consumer could start on it. -/
def AnsweredAsExpired (q : Request) (r : Response) : Prop :=
  r.success = false ∧ r.exceptionData = some (.fromException (expired q))

/-- The consumer was asked and threw, and what it threw reads like that. -/
def ThrewAsExpired (env : Environment) (mediator : Mediator) (q : Request) : Prop :=
  ReachesConsumer env mediator q ∧ ∃ e, (env.consumeRequest q).thrown = some e ∧
    ExceptionData.fromException e = .fromException (expired q)

/-- How a request with a consumer keeps to the timeout of its sender: who is invoked, when the token it is given is
cancelled, which its timer counts in whole milliseconds, and who is turned away as expired. -/
structure DeadlineKept (env : Environment) (mediator : Mediator) (q : Request) : Prop where
  invoked : consumptions (handleRequest env mediator q).effects = [.request q] ↔
    q.timeOut = none ∨ ∃ limit, q.timeOut = some limit ∧ env.elapsed.ticks < limit.ticks
  scheduled : ∀ limit consumer token, q.timeOut = some limit →
    .consumed consumer (.request q) token ∈ (handleRequest env mediator q).effects →
    ∃ cancellation, token = some cancellation ∧ ∀ deliveryCancelled since,
      cancellation.isCancellationRequested deliveryCancelled since = true ↔
        deliveryCancelled = true ∨ (limit.ticks - env.elapsed.ticks) / 10000 * 10000 ≤ since.ticks
  unlimited : ∀ consumer token, q.timeOut = none →
    .consumed consumer (.request q) token ∈ (handleRequest env mediator q).effects →
    ∃ cancellation, token = some cancellation ∧ ∀ deliveryCancelled since,
      cancellation.isCancellationRequested deliveryCancelled since = deliveryCancelled
  expired : ∀ queue r, .publishedResponse queue r ∈ (handleRequest env mediator q).effects →
    AnsweredAsExpired q r →
    (∃ limit, q.timeOut = some limit ∧ limit.ticks ≤ env.elapsed.ticks) ∨ ThrewAsExpired env mediator q

/-- The sender's timeout has elapsed, or the timers accept what is left of it. -/
def Schedulable (env : Environment) (q : Request) : Prop :=
  ∃ limit, q.timeOut = some limit ∧ (limit.ticks ≤ env.elapsed.ticks ∨
    ∃ left, limit.sub env.elapsed = .ok left ∧ left.timerAccepts = true)

section Invoking

variable {env : Environment} {mediator : Mediator} {q : Request} {c : RabbitMultiplexerMediatorConfiguration}
  {t : ConsumerType}

theorem consumed_iff_timeLeft (hc : env.configuration = some c)
    (hm : c.sentTypeToConsumerMapping.lookup q.type = some t)
    (created : getConsumer env mediator t = .ok (some t)) :
    consumptions (handleRequest env mediator q).effects = [.request q] ↔ TimeLeft env q := by
  have reached : ReachesConsumer env mediator q ↔ TimeLeft env q :=
    (reachesConsumer_iff hc hm).trans (and_iff_right created)
  have consumed : ConsumedWhen (ReachesConsumer env mediator q) (.request q)
      (handleRequest env mediator q).effects := handleRequest_consumedWhen q
  rcases consumed with ⟨hr, he⟩ | ⟨hr, he⟩
  · exact iff_of_true he (reached.mp hr)
  · exact iff_of_false (by simp [he]) fun h => hr (reached.mpr h)

/-- A consumer is given a token of the source that was made for its request. -/
theorem cancelledBy_of_consumed {consumer : ConsumerType} {o : SentObject} {token : Option ConsumeCancellation}
    (h : .consumed consumer o token ∈ (handleRequest env mediator q).effects) :
    ∃ cancellation, token = some cancellation ∧ CancelledBy env q cancellation := by
  have course := handleRequest_course env mediator q
  have silent : ∀ {r : Response} {after : Request} {meanwhile : Option Restamp},
      .consumed consumer o token ∉ (sendResponse env mediator r after meanwhile).effects := not_mem_sendResponse
  have quiet : ∀ {after : Request} {reason : Exception}, .consumed consumer o token ∉
      (respondWithFailure env mediator after q.tResponse q.isResponse reason).effects := by
    intro after reason h
    have publishes := @respondWithFailure_publishes env mediator after q.tResponse q.isResponse reason _ h
    cases publishes
  generalize (handleRequest env mediator q).effects = es at course h
  cases course with
  | stopped => simp at h
  | refused => exact absurd h quiet
  | failed running reached given =>
    rcases List.mem_cons.mp h with h | h
    · cases h
      exact ⟨_, rfl, given⟩
    · exact absurd h quiet
  | answered running reached given =>
    rcases List.mem_cons.mp h with h | h
    · cases h
      exact ⟨_, rfl, given⟩
    · exact absurd h silent

/-- Two durations that are not negative differ by a duration. -/
theorem sub_elapsed {limit : TimeSpan} (env : Environment) (nonneg : 0 ≤ limit.ticks) :
    ∃ left, limit.sub env.elapsed = .ok left ∧ left.ticks = limit.ticks - env.elapsed.ticks := by
  have lower := env.elapsed_nonneg
  have upper := env.elapsed.upper
  have small := limit.upper
  have range : -9223372036854775808 ≤ limit.ticks - env.elapsed.ticks ∧
      limit.ticks - env.elapsed.ticks ≤ 9223372036854775807 := by omega
  exact ⟨⟨_, range.1, range.2⟩, dif_pos range, rfl⟩

theorem timeLeft_iff {left : TimeSpan} (hr : remainingTime env q = .ok left) :
    TimeLeft env q ↔ 0 < left.ticks ∧ left.timerAccepts = true := by
  constructor
  · rintro ⟨_, cancellation, h, positive, timer⟩
    cases hr.symm.trans h
    exact ⟨positive, (consumeCancellation_ok_iff positive).mp ⟨cancellation, timer⟩⟩
  · rintro ⟨positive, accepted⟩
    obtain ⟨cancellation, timer⟩ := (consumeCancellation_ok_iff positive).mpr accepted
    exact ⟨left, cancellation, hr, positive, timer⟩

/-- A request without a timeout is taken for an expired one. -/
theorem not_timeLeft_of_unlimited (none : q.timeOut = none) : ¬TimeLeft env q := by
  have left : remainingTime env q = .ok .infinite := by simp [remainingTime, none]
  rw [timeLeft_iff left]
  decide

theorem consumeCancellation_ok {left : TimeSpan} (h : 0 < left.ticks) {cancellation : ConsumeCancellation}
    (hs : consumeCancellation left = .ok cancellation) : cancellation = ⟨some (left.ticks / 10000)⟩ := by
  have finite : left ≠ .infinite := by
    rintro rfl
    exact absurd h (by decide)
  have whole : left.milliseconds = left.ticks / 10000 := Int.tdiv_eq_ediv_of_nonneg (by omega)
  rw [consumeCancellation, if_neg finite, whole] at hs
  obtain ⟨_, _, he⟩ := except_bind_eq_ok.mp hs
  exact (Except.ok.inj he).symm

theorem isCancellationRequested_iff {ticks : Int} (h : 0 < ticks) (deliveryCancelled : Bool) (since : TimeSpan) :
    ConsumeCancellation.isCancellationRequested ⟨some (ticks / 10000)⟩ deliveryCancelled since = true ↔
      deliveryCancelled = true ∨ ticks / 10000 * 10000 ≤ since.ticks := by
  have nonneg : 0 ≤ ticks / 10000 := by omega
  simp [ConsumeCancellation.isCancellationRequested, nonneg]

end Invoking

section Expiring

variable {env : Environment} {mediator : Mediator} {q : Request}

/-- The two timeouts that `HandleRequest` reports read differently. -/
theorem cancelledText_ne_expired (q : Request) (text : String) :
    ExceptionData.fromException (.new .timeout ("The consumer was cancelled after the request timeout of " ++ text ++
      "ms elapsed.")) ≠ .fromException (expired q) := by
  intro h
  have start := congrArg (fun d => d.head.errorMessage.toList.take 5) h
  simp [ExceptionData.head_fromException, Exception.new, Exception.head, ExceptionHead.toData, expired,
    String.toList_append] at start

/-- A consumer's failure reads like an expired request only when the consumer threw just that. -/
theorem unwrapped_of_failureReason {after : Request} {ex : Exception}
    (h : ExceptionData.fromException (failureReason env after ex) = .fromException (expired q)) :
    ExceptionData.fromException ex.unwrapInvocation = .fromException (expired q) := by
  unfold failureReason at h
  dsimp only at h
  split at h
  next => exact absurd h (cancelledText_ne_expired q _)
  next => exact h

theorem type_of_reads {e : Exception} (h : ExceptionData.fromException e = .fromException (expired q)) :
    e.type.fullName = "System.TimeoutException" := by
  have head := congrArg (fun d => d.head.typeFullName) h
  rw [ExceptionData.head_fromException, ExceptionData.head_fromException] at head
  exact Option.some.inj head

/-- Who is answered as expired was too late, unless its consumer itself threw so. -/
theorem late_of_answeredAsExpired {queue : String} {r : Response}
    (sent : .publishedResponse queue r ∈ (handleRequest env mediator q).effects) (h : AnsweredAsExpired q r) :
    (∃ left, remainingTime env q = .ok left ∧ left.ticks ≤ 0) ∨ ThrewAsExpired env mediator q := by
  obtain ⟨failed, data⟩ := h
  have told : ∃ reason, FailureReason env mediator q reason ∧
      ExceptionData.fromException reason = .fromException (expired q) := by
    obtain ⟨_, _, _, _, _, _, reports⟩ := handleRequest_published sent
    cases reports with
    | consumed =>
      rw [Response.success_restamped] at failed
      cases failed
    | failed reached abnormal made why | refused unreached made why => exact ⟨_, why, Option.some.inj data⟩
  obtain ⟨reason, why, reads⟩ := told
  cases why with
  | expired _ _ _ left late => exact Or.inl ⟨_, left, late⟩
  | noConsumer =>
    have other : (noConsumer q).type = .invalidOperation := rfl
    exact absurd (other ▸ type_of_reads reads) (by decide)
  | notListed => exact absurd (type_of_reads reads) (by decide)
  | threw reached outcome =>
    have own := unwrapped_of_failureReason reads
    exact Or.inr ⟨reached, _, by rw [outcome]; rfl, own⟩
  | faulted reached outcome =>
    have own := unwrapped_of_failureReason reads
    exact Or.inr ⟨reached, _, by rw [outcome]; rfl, own⟩
  | cancelled => exact absurd (type_of_reads (unwrapped_of_failureReason reads)) (by decide)
  | nullTask | nullResult => exact absurd (type_of_reads reads) (by decide)

end Expiring

section Keeping

variable {env : Environment} {mediator : Mediator} {q : Request} {c : RabbitMultiplexerMediatorConfiguration}
  {t : ConsumerType}

/-- A request whose timeout has not elapsed is kept to it just when the timers accept what is left. -/
theorem deadline_kept_iff_accepted {limit left : TimeSpan} (hc : env.configuration = some c)
    (hm : c.sentTypeToConsumerMapping.lookup q.type = some t)
    (created : getConsumer env mediator t = .ok (some t)) (hq : q.timeOut = some limit)
    (hr : remainingTime env q = .ok left) (ticks : left.ticks = limit.ticks - env.elapsed.ticks)
    (early : env.elapsed.ticks < limit.ticks) :
    DeadlineKept env mediator q ↔ left.timerAccepts = true := by
  have consumed : consumptions (handleRequest env mediator q).effects = [.request q] ↔ _ :=
    (consumed_iff_timeLeft hc hm created).trans (timeLeft_iff hr)
  have positive : 0 < left.ticks := by omega
  constructor
  · intro kept
    exact (consumed.mp (kept.invoked.mpr (Or.inr ⟨limit, hq, early⟩))).2
  · intro accepted
    constructor
    · exact iff_of_true (consumed.mpr ⟨positive, accepted⟩) (Or.inr ⟨limit, hq, early⟩)
    · intro limit' consumer token hq' asked
      cases hq.symm.trans hq'
      obtain ⟨cancellation, given, left', hr', _, made⟩ := cancelledBy_of_consumed asked
      cases hr.symm.trans hr'
      obtain rfl := consumeCancellation_ok positive made
      refine ⟨_, given, fun deliveryCancelled since => ?_⟩
      rw [isCancellationRequested_iff positive, ticks]
    · intro consumer token none
      cases hq.symm.trans none
    · intro queue r sent answered
      rcases late_of_answeredAsExpired sent answered with ⟨left', hr', late⟩ | threw
      · cases hr.symm.trans hr'
        omega
      · exact Or.inr threw

/-- A request is kept to the timeout of its sender just when it has one that has elapsed, or whose rest the
timers accept. -/
theorem deadline_kept_iff (hc : env.configuration = some c)
    (hm : c.sentTypeToConsumerMapping.lookup q.type = some t)
    (created : getConsumer env mediator t = .ok (some t))
    (nonneg : ∀ limit, q.timeOut = some limit → 0 ≤ limit.ticks) :
    DeadlineKept env mediator q ↔ Schedulable env q := by
  have consumed : consumptions (handleRequest env mediator q).effects = [.request q] ↔ TimeLeft env q :=
    consumed_iff_timeLeft hc hm created
  cases hq : q.timeOut with
  | none =>
    refine iff_of_false (fun kept => ?_) fun ⟨limit, h, _⟩ => by cases hq.symm.trans h
    exact not_timeLeft_of_unlimited hq (consumed.mp (kept.invoked.mpr (Or.inl hq)))
  | some limit =>
    obtain ⟨left, hs, ticks⟩ := sub_elapsed env (nonneg limit hq)
    have hr : remainingTime env q = .ok left := by simp [remainingTime, hq, hs]
    by_cases late : limit.ticks ≤ env.elapsed.ticks
    · refine iff_of_true ⟨?_, ?_, ?_, fun _ _ _ _ => Or.inl ⟨limit, hq, late⟩⟩ ⟨limit, hq, Or.inl late⟩
      · rw [consumed, timeLeft_iff hr, hq]
        simp only [reduceCtorEq, Option.some.injEq, exists_eq_left', false_or]
        omega
      · intro _ _ _ _ asked
        obtain ⟨_, _, left', hr', positive, _⟩ := cancelledBy_of_consumed asked
        cases hr.symm.trans hr'
        omega
      · intro _ _ none
        cases hq.symm.trans none
    · rw [deadline_kept_iff_accepted hc hm created hq hr ticks (by omega)]
      constructor
      · exact fun accepted => ⟨limit, hq, Or.inr ⟨left, hs, accepted⟩⟩
      · rintro ⟨limit', hq', late' | ⟨left', hs', accepted⟩⟩
        · cases hq.symm.trans hq'
          exact absurd late' late
        · cases hq.symm.trans hq'
          cases hs.symm.trans hs'
          exact accepted

end Keeping

theorem testRequest_deadline_kept :
    DeadlineKept (testEnvironment (.request testRequest)) testMediator testRequest :=
  (@deadline_kept_iff _ _ _ testMediatorConfiguration testAnyTargetedRequestConsumer rfl (by decide) rfl
    (fun limit h => by cases h; decide)).mpr ⟨tenSeconds, rfl, Or.inr ⟨tenSeconds, rfl, by decide⟩⟩

/-- A request as a sender without a timeout would put it on the wire. -/
def testUnlimitedRequest : Request := { testRequest with timeOut := none }

theorem unlimited_request_expires :
    ¬∀ env mediator (c : RabbitMultiplexerMediatorConfiguration) t q, env.configuration = some c →
      c.sentTypeToConsumerMapping.lookup q.type = some t → getConsumer env mediator t = .ok (some t) →
      (∀ limit, q.timeOut = some limit → 0 ≤ limit.ticks) → DeadlineKept env mediator q := by
  intro claim
  have mapped : testMediatorConfiguration.sentTypeToConsumerMapping.lookup testUnlimitedRequest.type =
      some testAnyTargetedRequestConsumer := by decide
  have kept := claim (testEnvironment (.request testUnlimitedRequest)) testMediator testMediatorConfiguration
    testAnyTargetedRequestConsumer testUnlimitedRequest rfl mapped rfl (fun limit h => by cases h)
  exact not_timeLeft_of_unlimited rfl ((consumed_iff_timeLeft rfl mapped rfl).mp (kept.invoked.mpr (Or.inl rfl)))

end RabbitMediator
