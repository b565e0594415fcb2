import RabbitMediator.Correlation

namespace RabbitMediator

open Interleaving

/-- Just one of its fields tells the outcome of a response. -/
structure Response.Coherent (r : Response) : Prop where
  success : r.success = true → r.exceptionData = none ∧ r.timedOut = false ∧ r.sendFailure = false
  failure : r.success = false → [r.exceptionData.isSome, r.timedOut, r.sendFailure].count true = 1

/-- The consumer of a request, where it is asked and answers, returns a response without an exception in
it. -/
def Unmarked (env : Environment) (mediator : Mediator) (q : Request) : Prop :=
  ∀ a, ReachesConsumer env mediator q → env.consumeRequest q = .completed (some a) →
    a.1.exceptionData = none

/-- What tells the outcome, nobody else writes into the object. -/
theorem Response.coherent_restamped (r : Response) (s : Option Restamp) :
    (r.restamped s).overTheWire.Coherent ↔ r.overTheWire.Coherent := by
  cases s with
  | none => exact Iff.rfl
  | some s => exact ⟨fun h => ⟨h.success, h.failure⟩, fun h => ⟨h.success, h.failure⟩⟩

/-- A response is coherent when it arrives just when its consumer did not pass on an exception. -/
theorem Reports.coherent_iff {env : Environment} {mediator : Mediator} {q after : Request} {r : Response}
    (h : Reports env mediator q after r) : r.overTheWire.Coherent ↔ Unmarked env mediator q := by
  have failure (empty : Response) (reason : Exception) (after : Request) :
      ((empty.failed reason).addressed mediator after).overTheWire.Coherent :=
    ⟨(fun h => by cases h), fun _ => rfl⟩
  cases h with
  | @consumed a reached returned =>
    rw [Response.coherent_restamped]
    constructor
    · intro coherent b _ hb
      cases returned.symm.trans hb
      exact (coherent.success rfl).1
    · intro unmarked
      exact ⟨fun _ => ⟨unmarked a reached returned, rfl, rfl⟩, (fun h => by cases h)⟩
  | failed reached abnormal =>
    exact iff_of_true (failure _ _ _) fun a _ returned => absurd returned (abnormal a)
  | refused unreached =>
    exact iff_of_true (failure _ _ _) fun a reached _ => absurd reached unreached

theorem RequestRun.coherent_iff {h : RequestRun} {r : Response} (hr : r ∈ h.responses) :
    r.Coherent ↔ Unmarked h.environment h.mediator h.request := by
  obtain ⟨⟨queue, p⟩, hp, rfl⟩ := List.mem_map.mp hr
  obtain ⟨_, _, _, _, _, _, reports⟩ := handleRequest_published (mem_publishedResponses.mp hp)
  exact reports.coherent_iff

section GivingUp

variable {hosts : Hosts} {w w' : World} {i : Nat} {x : Occurrence}

/-- What a call hands back without an answer: no success, no exception, and just one of the two flags. -/
structure GivenUp (r : Response) : Prop where
  success : r.success = false
  exceptionData : r.exceptionData = none
  flags : r.timedOut = !r.sendFailure

theorem GivenUp.coherent {r : Response} (h : GivenUp r) : r.Coherent := by
  refine ⟨fun success => by simp [h.success] at success, fun _ => ?_⟩
  rw [h.exceptionData, h.flags]
  cases r.sendFailure <;> rfl

theorem createFailureResponse_givenUp {mediator : Mediator} {t : SentType}
    {h : t.isAssignableTo .response = true} {id : Guid} {timedOut sendFailure : Bool} {r : Response}
    (one : timedOut = !sendFailure)
    (hr : createFailureResponse mediator t h id timedOut sendFailure = .ok r) : GivenUp r := by
  obtain ⟨empty, he, hr⟩ := except_bind_eq_ok.mp hr
  unfold createInstance at he
  split at he
  next =>
    cases he
    cases hr
    exact ⟨rfl, rfl, one⟩
  next => cases he

theorem RequestCall.gaveUp_givenUp {c : RequestCall} {issued : Issued} {timedOut sendFailure : Bool}
    {e : Exception} {r : Response} (one : timedOut = !sendFailure)
    (h : c.gaveUp hosts issued timedOut sendFailure e = .failed r) : GivenUp r := by
  unfold gaveUp at h
  split at h
  next => cases h
  next =>
    split at h
    next hr =>
      cases h
      exact createFailureResponse_givenUp one hr
    next => cases h

/-- What a call hands back without an answer is made by `CreateFailureResponse`. -/
theorem RequestCall.Step.givenUp {c c' : RequestCall} (hs : c.Step hosts w i x w' c') {o : Option Issued}
    {r : Response} (he : c'.phase = .ended o (.failed r)) : GivenUp r := by
  cases hs with
  | prelude _ after =>
    simp only [RequestCall.goesTo] at he
    subst he
    cases o <;> exact after.elim
  | published _ _ after => rcases after with rfl | ⟨_, rfl⟩ <;> cases he
  | failed =>
    simp only [RequestCall.goesTo, RequestPhase.ended.injEq] at he
    exact gaveUp_givenUp (by rfl) he.2
  | answered =>
    simp only [RequestCall.goesTo, RequestPhase.ended.injEq, castResult] at he
    obtain ⟨_, he⟩ := he
    split at he
    · split at he <;> cases he
    · cases he
  | @gaveUp issued cancelled =>
    simp only [RequestCall.goesTo, RequestPhase.ended.injEq, gaveUpWaiting] at he
    cases cancelled with
    | true => cases he.2
    | false => exact gaveUp_givenUp (by rfl) he.2
  | _ => cases he

theorem givenUp_of_reachable {c : Config World Thread} (h : Reachable (system hosts) System.init c)
    {call : RequestCall} (hi : c.pool[i]? = some (.request call)) {o : Option Issued} {r : Response}
    (he : call.phase = .ended o (.failed r)) : GivenUp r := by
  revert i call o r
  refine h.invariant (P := fun c => ∀ {i : Nat} {call : RequestCall}, c.pool[i]? = some (.request call) →
    ∀ {o r}, call.phase = .ended o (.failed r) → GivenUp r) (by simp [System.init]) ?_
  intro c d a _ ih _ hd i call hi o r he
  cases a with
  | start t =>
    obtain ⟨hs, rfl⟩ := act_start hd
    rcases pool_append_cases hi with hi | ⟨_, rfl⟩
    · exact ih hi he
    · simp [system, Thread.start, he] at hs
  | step j x =>
    obtain ⟨t, s, t', ht, hn, rfl⟩ := act_step hd
    rcases pool_set_cases ht hi with ⟨rfl, rfl⟩ | ⟨_, hi⟩
    · cases Thread.step_of_next hn with
      | request hs => exact hs.givenUp he
    · exact ih hi he

end GivingUp

section Runs

/-- At the step, a request goes to a consumer that passes on no exception. -/
def NothingPassedOn (hosts : Hosts) (c : Config World Thread) (a : Action Thread Occurrence) : Prop :=
  ∀ i env m q, a = .step i (.handled env) → c.pool[i]? = some (.delivery m (.request q) false) →
    Unmarked env (hosts.mediator m) q

/-- In every run in which no consumer passes on an exception, each response that a call hands back says in
one field how the call went. -/
theorem response_coherent {hosts : Hosts} {c : Config World Thread}
    (h : ReachableWhere (system hosts) (NothingPassedOn hosts) System.init c) {i : Nat}
    {call : RequestCall} {o : Option Issued} {r : Response} (hi : c.pool[i]? = some (.request call))
    (he : call.phase = .ended o (.received r) ∨ call.phase = .ended o (.failed r)) : r.Coherent := by
  have unmarked : ∀ run ∈ c.shared.requestRuns, Unmarked run.environment run.mediator run.request := by
    refine h.invariant (P := fun c => ∀ run ∈ c.shared.requestRuns,
      Unmarked run.environment run.mediator run.request) (by simp [System.init, World.initial]) ?_
    intro c d a _ ih allowed hd
    cases a with
    | start t =>
      obtain ⟨_, rfl⟩ := act_start hd
      exact ih
    | step i x =>
      obtain ⟨t, s, t', ht, hn, rfl⟩ := act_step hd
      rcases (Thread.step_of_next hn).requestRuns with same | ⟨m, q, env, rfl, rfl, added⟩
      · exact same ▸ ih
      · intro run hr
        rcases List.mem_cons.mp (added ▸ hr) with rfl | hr
        · exact allowed i env m q rfl ht
        · exact ih run hr
  rcases he with he | he
  · obtain ⟨issued, _, _, run, hrun, hr⟩ := ((linked_of_reachable h.reachable).2 i _ hi).2 o r he
    exact (RequestRun.coherent_iff hr).mpr (unmarked run hrun)
  · exact (givenUp_of_reachable h.reachable hi he).coherent

end Runs

/-- Of the test requests: their consumers answer without an exception. -/
def passesNothingOn (c : Config World Thread) : Action Thread Occurrence → Bool
  | .step i (.handled env) => match c.pool[i]? with
    | some (.delivery _ (.request q) false) => match env.consumeRequest q with
      | .completed (some a) => a.1.exceptionData.isNone
      | _ => true
    | _ => true
  | _ => true

theorem nothingPassedOn_of_check (c : Config World Thread) (a : Action Thread Occurrence)
    (h : passesNothingOn c a = true) : NothingPassedOn testHosts c a := by
  rintro i env m q rfl ht a _ returned
  simp only [passesNothingOn, ht, returned] at h
  exact Option.isNone_iff_eq_none.mp h

theorem testRequest_coherent :
    ∃ c, (system testHosts).run passesNothingOn System.init
        (testAnswerRun ++ steps 2 [.go, .go, .go, .go] ++ steps 0 [.completed]) = some c ∧
      ∃ r : Response, r.success = true ∧ r.Coherent := by
  have h : ((system testHosts).run passesNothingOn System.init
      (testAnswerRun ++ steps 2 [.go, .go, .go, .go] ++ steps 0 [.completed])).any (fun c =>
        (c.pool[0]?.bind Thread.requestCall).any (·.received.any (·.success))) = true := by decide +kernel
  obtain ⟨c, hc, ha⟩ := (Option.any_eq_true _ _).mp h
  obtain ⟨call, hb, hr⟩ := (Option.any_eq_true _ _).mp ha
  obtain ⟨t, ht, hq⟩ := Option.bind_eq_some_iff.mp hb
  cases Thread.eq_of_requestCall hq
  obtain ⟨r, hr, hs⟩ := (Option.any_eq_true _ _).mp hr
  unfold RequestCall.received at hr
  split at hr
  next o v hp =>
    cases hr
    exact ⟨c, hc, r, hs, response_coherent (.of_run .start nothingPassedOn_of_check hc) ht (Or.inl hp)⟩
  next => cases hr

set_option maxRecDepth 1024

/-- A consumer that throws. -/
def testFailingEnvironment (o : SentObject) : Environment :=
  { testEnvironment o with
    consumeRequest := fun _ => .faulted (.new .invalidOperation "The camera is not ready.") }

/-- What the call of the first request hands back when its consumer throws. -/
def testFailure : Response :=
  ⟨testAnyTargetedResponse, testAnyTargetedResponse_isResponse,
    some testMediator.getInstanceInformation, ⟨7⟩, false, some testMediator.getInstanceInformation,
    false, some (.fromException (.new .invalidOperation "The camera is not ready.")), false, false, ""⟩

/-- A consumer that returns the response its own request has got. -/
def testRelayEnvironment (o : SentObject) : Environment :=
  { testEnvironment o with
    consumeRequest := fun q =>
      if h : testFailure.type.isAssignableTo q.tResponse = true then .completed (some ⟨testFailure, h⟩)
      else .nullTask }

def testRelayed : Request := testRequest.issued testMediator.getInstanceInformation ⟨8⟩ tenSeconds

/-- A request fails, and the consumer of the next one answers with the failure. -/
def testRelayRun : List (Action Thread Occurrence) :=
  testRequestRun ++ [.start (.delivery ⟨0, 0⟩ (.request testPublished) false)] ++
    steps 1 [.handled (testFailingEnvironment (.request testPublished))] ++
    [.start (.response 0 (.received testFailure))] ++ steps 2 [.go, .go, .go, .go] ++
    steps 0 [.completed] ++
  .start (.request testCall) :: steps 3 (publishesAgain ⟨8⟩) ++
    [.start (.delivery ⟨0, 0⟩ (.request testRelayed) false)] ++
    steps 4 [.handled (testRelayEnvironment (.request testRelayed))] ++
    [.start (.response 0 (.received { testFailure with correlationId := ⟨8⟩, success := true }))] ++
    steps 5 [.go, .go, .go, .go] ++ steps 3 [.completed]

theorem relayed_failure_incoherent :
    ¬∀ hosts c, Reachable (system hosts) System.init c → ∀ (i : Nat) call o r,
      c.pool[i]? = some (.request call) →
      call.phase = .ended o (.received r) ∨ call.phase = .ended o (.failed r) → r.Coherent := by
  intro claim
  have h : ((system testHosts).run (fun _ _ => true) System.init testRelayRun).any (fun c =>
      (c.pool[0]?.bind Thread.requestCall).any (·.received = some testFailure) &&
      (c.pool[3]?.bind Thread.requestCall).any
        (·.received.any fun r => r.success && r.exceptionData.isSome)) = true := by decide +kernel
  obtain ⟨c, hc, ha⟩ := (Option.any_eq_true _ _).mp h
  obtain ⟨call, hb, hr⟩ := (Option.any_eq_true _ _).mp (Bool.and_eq_true_iff.mp ha).2
  obtain ⟨t, ht, hq⟩ := Option.bind_eq_some_iff.mp hb
  cases Thread.eq_of_requestCall hq
  obtain ⟨r, hr, hs⟩ := (Option.any_eq_true _ _).mp hr
  unfold RequestCall.received at hr
  split at hr
  next o v hp =>
    cases hr
    obtain ⟨succeeded, marked⟩ := Bool.and_eq_true_iff.mp hs
    have coherent := claim testHosts c (.of_run .start (fun _ _ _ => trivial) hc) 3 call o r ht (Or.inl hp)
    simp [(coherent.success succeeded).1] at marked
  next => cases hr

end RabbitMediator
