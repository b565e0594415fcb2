import RabbitMediator.Coherence
import RabbitMediator.Consumption

namespace RabbitMediator

open Interleaving

/-- A response as its caller gets it, and the run that sent it. A success is what the consumer returned for this
request, marked, and addressed by what the request object says by then, or by another run that it was returned to as
well; a failure names the reason why the consumer returned nothing. -/
structure TellsOf (run : RequestRun) (r : Response) : Prop where
  success : r.success = true → ReachesConsumer run.environment run.mediator run.request ∧
    consumptions (handleRequest run.environment run.mediator run.request).effects = [.request run.request] ∧
    ∃ a, run.environment.consumeRequest run.request = .completed (some a) ∧
      r = (({ a.1 with success := true }.addressed run.mediator
        (run.request.reissued run.environment.reissued)).restamped run.environment.restamped).overTheWire
  failure : r.success = false →
    (∀ a, ReachesConsumer run.environment run.mediator run.request →
      run.environment.consumeRequest run.request ≠ .completed (some a)) ∧
    ∃ reason, FailureReason run.environment run.mediator run.request reason ∧
      r.exceptionData = some (.fromException reason)

theorem RequestRun.tellsOf {run : RequestRun} {r : Response} (h : r ∈ run.responses) : TellsOf run r := by
  obtain ⟨⟨queue, p⟩, hp, rfl⟩ := List.mem_map.mp h
  obtain ⟨_, _, _, _, _, _, reports⟩ := handleRequest_published (mem_publishedResponses.mp hp)
  cases reports with
  | @consumed a reached returned =>
    refine ⟨fun _ => ⟨reached, ?_, _, returned, rfl⟩, fun failed => ?_⟩
    case refine_2 =>
      have succeeded : (({ a.1 with success := true }.addressed run.mediator
          (run.request.reissued run.environment.reissued)).restamped run.environment.restamped).success = true := by
        rw [Response.success_restamped]
        rfl
      exact absurd (failed.symm.trans succeeded) (by decide)
    rcases handleRequest_consumedWhen run.request with ⟨_, consumed⟩ | ⟨unreached, _⟩
    · exact consumed
    · exact absurd reached unreached
  | failed reached abnormal created why =>
    exact ⟨(fun success => by cases success), fun _ => ⟨fun a _ => abnormal a, _, why, rfl⟩⟩
  | refused unreached created why =>
    exact ⟨(fun success => by cases success), fun _ => ⟨fun a reached => absurd reached unreached, _, why, rfl⟩⟩

section Runs

variable {hosts : Hosts} {i : Nat} {c : Config World Thread} {call : RequestCall}

/-- What `Request` and `TryRequest` hand back is true of their own request, in every run in which no consumer is done
with objects that bear the id of another call which still waits. A response that was received was sent
by a run of `HandleRequest` for it: a success is what its consumer returned, which was asked once; a failure has
the reason why the consumer returned nothing. A response that was not received is no success, and says in just one
way why there is none. -/
theorem request_reports (h : ReachableWhere (system hosts) (KeepsIdsApart hosts) System.init c)
    (hi : c.pool[i]? = some (.request call)) :
    (∀ o r, call.phase = .ended o (.received r) → ∃ issued, o = some issued ∧
      ∃ run ∈ c.shared.requestRuns, run.request = issued.request ∧ TellsOf run r) ∧
    ∀ o r, call.phase = .ended o (.failed r) → GivenUp r := by
  refine ⟨fun o r he => ?_, fun o r he => givenUp_of_reachable h.reachable hi he⟩
  obtain ⟨issued, ho, answers, _⟩ := (response_correlated h).1 i call o r hi he
  obtain ⟨run, recorded, same, sent⟩ := answers.handled
  exact ⟨issued, ho, run, recorded, same, run.tellsOf sent⟩

theorem testRequest_reports :
    ∃ c, (system testHosts).run sharesNoObject System.init
        (testAnswerRun ++ steps 2 [.go, .go, .go, .go] ++ steps 0 [.completed]) = some c ∧
      ∃ r : Response, r.success = true ∧ ∃ run ∈ c.shared.requestRuns, TellsOf run r := by
  have h : ((system testHosts).run sharesNoObject System.init
      (testAnswerRun ++ steps 2 [.go, .go, .go, .go] ++ steps 0 [.completed])).any (fun c =>
        (c.pool[0]?.bind Thread.requestCall).any (·.received.any (·.success))) = true := by decide +kernel
  obtain ⟨c, hc, ha⟩ := (Option.any_eq_true _ _).mp h
  obtain ⟨call, hb, hr⟩ := (Option.any_eq_true _ _).mp ha
  obtain ⟨t, ht, hq⟩ := Option.bind_eq_some_iff.mp hb
  cases Thread.eq_of_requestCall hq
  obtain ⟨r, hr, hs⟩ := (Option.any_eq_true _ _).mp hr
  unfold RequestCall.received at hr
  split at hr
  next o v hp =>
    cases hr
    obtain ⟨_, _, run, recorded, _, tells⟩ :=
      (request_reports (.of_run .start keepsIdsApart_of_check hc) ht).1 o r hp
    exact ⟨c, hc, r, hs, run, recorded, tells⟩
  next => cases hr

end Runs

end RabbitMediator
