import RabbitMediator.Provenance
import RabbitMediator.Waiters

namespace RabbitMediator

open Interleaving Registry Rendezvous

section Entries

variable {hosts : Hosts} {w w' : World} {i n : Nat} {x : Occurrence} {t t' : Thread} {id : Guid}

/-- A call that waits under an id it did not wait under before has drawn it. -/
theorem RequestCall.Step.fresh_of_entry {c c' : RequestCall} (hs : c.Step hosts w i x w' c')
    (waits : c'.pendingId = some id)
    (new : id ∈ (w'.responseWaiters c.mediator.multiplexer).entries)
    (old : id ∉ (w.responseWaiters c.mediator.multiplexer).entries) : w.fresh id = true := by
  cases hs with
  | prelude _ after =>
    exact absurd new old
  | issued before fresh =>
    cases waits
    exact fresh
  | published before same =>
    rw [responseWaiters_handOver same.1] at new
    exact absurd new old
  | delayed => exact absurd new old
  | _ => cases waits

/-- Nobody comes to wait under an id that was drawn before. -/
theorem Thread.Step.fresh_of_entry (hs : t.Step hosts w i x w' t') (unused : Unused w)
    (new : id ∈ (w'.responseWaiters n).entries) (old : id ∉ (w.responseWaiters n).entries) :
    w.fresh id = true := by
  obtain ⟨u, hu⟩ := Option.isSome_iff_exists.mp (AList.lookup_isSome.mpr new)
  cases hs.movesResponses unused n with
  | stays same => exact absurd (same ▸ new) old
  | steps y step =>
    rcases (Party.step_of_next step).entry hu with held | client
    · exact absurd (AList.lookup_isSome.mp (held ▸ rfl)) old
    · obtain ⟨call, rfl, rfl, waits⟩ := Thread.request_of_client client
      cases hs with
      | request hs => exact hs.fresh_of_entry waits (hs.mediator ▸ new) (hs.mediator ▸ old)

/-- An id that was drawn and that nobody waits under, now or later. -/
structure World.Spent (w : World) (id : Guid) : Prop where
  drawn : ∃ j, (id, j) ∈ w.issued
  gone : ∀ n, id ∉ (w.responseWaiters n).entries

theorem World.Spent.step (h : w.Spent id) (hs : t.Step hosts w i x w' t') (unused : Unused w) : w'.Spent id := by
  obtain ⟨j, drawn⟩ := h.drawn
  refine ⟨⟨j, mem_issued_of_drawn hs.issued drawn⟩, fun n new => ?_⟩
  exact World.not_mem_issued (hs.fresh_of_entry unused new (h.gone n)) j drawn

end Entries

section Answering

/-- `r` was sent by a run of `HandleRequest` for the request that call number `i` published. -/
structure Answers (w : World) (i : Nat) (issued : Issued) (r : Response) : Prop where
  correlationId : r.correlationId = issued.request.correlationId
  drawn : (issued.request.correlationId, i) ∈ w.issued
  handled : ∃ h ∈ w.requestRuns, h.request = issued.request ∧ r ∈ h.responses
  published : ∃ p ∈ w.requests, p.call = i ∧ p.body = issued.request

/-- A run has sent `r` under the id of the request it handled, or somebody has sent `r` as a message. -/
inductive World.Genuine (w : World) (r : Response) : Prop
  | answer {h} (recorded : h ∈ w.requestRuns) (sent : r ∈ h.responses)
      (own : r.correlationId = h.request.correlationId)
  | message {p posted} (published : p ∈ w.messages) (body : p.body = .response posted)
      (same : posted.overTheWire = r)

variable {hosts : Hosts} {w w' : World} {i j : Nat} {x : Occurrence} {t t' : Thread} {r : Response}

theorem World.Genuine.grows (h : w.Genuine r) (g : Grows i w w') : w'.Genuine r := by
  cases h with
  | answer recorded sent own => exact .answer (g.requestRuns _ recorded) sent own
  | message published body same => exact .message (g.messages _ published) body same

/-- A genuine response with the id of a call can only be an answer to its request. -/
theorem Owned.answers {c : RequestCall} {issued : Issued} (owned : Owned w i c issued) (good : Good w)
    (genuine : w.Genuine r) (hid : r.correlationId = issued.request.correlationId) :
    Answers w i issued r ∧ r.type.isAssignableTo c.request.tResponse = true := by
  cases genuine with
  | @answer h recorded sent own =>
    obtain ⟨p, hp, hb⟩ := good.requestRuns h recorded
    obtain ⟨hi, he⟩ := owned.requests p hp (by rw [hb, ← own, hid])
    have hq : h.request = issued.request := hb.symm.trans he
    exact ⟨⟨hid, owned.drawn, ⟨h, recorded, hq, sent⟩, ⟨p, hp, hi, he⟩⟩,
      owned.tResponse ▸ hq ▸ (RequestRun.mem_responses sent).1⟩
  | message published body same =>
    refine absurd ?_ (owned.messages _ published)
    rw [body, ← hid, ← same]
    rfl

theorem Answers.grows {issued : Issued} (g : Grows i w w') (h : Answers w j issued r) : Answers w' j issued r := by
  obtain ⟨hid, drawn, ⟨x, hx, hr⟩, ⟨p, hp, hc⟩⟩ := h
  exact ⟨hid, g.issued _ drawn, ⟨x, g.requestRuns x hx, hr⟩, ⟨p, g.requests p hp, hc⟩⟩

/-- At the step, a consumer that was asked has left no id that a call waits under in its objects, but that of its
own request: not in the request, which it may have passed on, and not in the response, which it may have returned to
another request too. -/
structure KeepsIdsApart (hosts : Hosts) (c : Config World Thread) (a : Action Thread Occurrence) : Prop where
  request : ∀ i env m q s, a = .step i (.handled env) → c.pool[i]? = some (.delivery m (.request q) false) →
    ReachesConsumer env (hosts.mediator m) q → c.shared.reissued.lookup i = some s →
    (∀ r, env.consumeRequest q = .completed (some r) → env.restamped = none) →
    ∀ n, s.correlationId ∉ (c.shared.responseWaiters n).entries
  response : ∀ i env m q r s, a = .step i (.handled env) →
    c.pool[i]? = some (.delivery m (.request q) false) → ReachesConsumer env (hosts.mediator m) q →
    env.consumeRequest q = .completed (some r) → env.restamped = some s →
    s.correlationId = q.correlationId ∨ ∀ n, s.correlationId ∉ (c.shared.responseWaiters n).entries

/-- A run answers under the id of its own request, or under one that nobody waits under; and what an awaiter
has got is genuine. -/
structure Sincere (w : World) : Prop where
  runs : ∀ h ∈ w.requestRuns, ∀ r ∈ h.responses,
    r.correlationId = h.request.correlationId ∨ w.Spent r.correlationId
  results : ∀ {n u : Nat} {a : Awaiter Guid MediatorRef Response Abort} {v : Response},
    (w.responseWaiters n).awaiters[u]? = some a → a.result = some v → w.Genuine v

/-- What a handler has found an awaiter for, and what a call has received, is genuine. -/
def Thread.TakesGenuine (w : World) : Thread → Prop
  | .request call => ∀ o v, call.phase = .ended o (.received v) → w.Genuine v
  | .response _ handler => ∀ v u, handler.target = some (v, u) → w.Genuine v
  | _ => True

/-- What arrives under an id that somebody waits under is genuine. -/
theorem Sincere.genuine (sincere : Sincere w) (arrived : w.responds r = true) {n : Nat}
    (entry : r.correlationId ∈ (w.responseWaiters n).entries) : w.Genuine r := by
  rcases Bool.or_eq_true_iff.mp arrived with hr | hm
  · obtain ⟨h, hh, hr⟩ := List.any_eq_true.mp hr
    have sent : r ∈ h.responses := by simpa using hr
    rcases sincere.runs h hh r sent with own | spent
    · exact .answer hh sent own
    · exact absurd entry (spent.gone n)
  · obtain ⟨p, hp, hm⟩ := List.any_eq_true.mp hm
    split at hm
    next posted body => exact .message hp body (of_decide_eq_true hm)
    next => cases hm

/-- The run that a step adds is the one of the delivery that stepped. -/
theorem Thread.Step.runs (hs : t.Step hosts w i x w' t') {h : RequestRun} (hr : h ∈ w'.requestRuns) :
    h ∈ w.requestRuns ∨ ∃ m env, t = .delivery m (.request h.request) false ∧ x = .handled env ∧
      h = ⟨{ env with reissued := w.reissued.lookup i }, hosts.mediator m, h.request⟩ ∧
      ∀ n, w'.responseWaiters n = w.responseWaiters n := by
  rcases hs.requestRuns with same | ⟨m, q, env, rfl, rfl, added⟩
  · exact Or.inl (same ▸ hr)
  · rcases List.mem_cons.mp (added ▸ hr) with rfl | hr
    · cases hs
      exact Or.inr ⟨m, env, rfl, rfl, rfl, fun _ => rfl⟩
    · exact Or.inl hr

theorem Sincere.step (sincere : Sincere w) (good : Good w') (unused : Unused w) (h : t.TakesGenuine w)
    (g : Grows i w w') (hs : t.Step hosts w i x w' t')
    (apart : ∀ m q env id, t = .delivery m (.request q) false → x = .handled env →
      AnswerId { env with reissued := w.reissued.lookup i } (hosts.mediator m) q id →
      id = q.correlationId ∨ ∀ n, id ∉ (w.responseWaiters n).entries) : Sincere w' := by
  constructor
  · intro run hr r sent
    rcases hs.runs hr with old | ⟨m, env, ht, hx, he, same⟩
    · rcases sincere.runs run old r sent with own | spent
      · exact Or.inl own
      · exact Or.inr (spent.step hs unused)
    · have bears := (RequestRun.mem_responses sent).2
      rw [he] at bears
      rcases apart m run.request env r.correlationId ht hx bears with own | gone
      · exact Or.inl own
      · exact Or.inr ⟨good.drawn (good.carries hr sent), fun n => same n ▸ gone n⟩
  · intro n u a v ha hv
    refine World.Genuine.grows ?_ g
    cases hs.movesResponses unused n with
    | stays same => exact sincere.results (same ▸ ha) hv
    | steps y step =>
      rcases (Party.step_of_next step).result ha hv with ⟨b, hb, hbv⟩ | ⟨z, hz | hz⟩
      · exact sincere.results hb hbv
      · cases Thread.response_of_handler hz
        exact h v z rfl
      · cases Thread.response_of_handler hz
        exact h v z rfl

theorem Thread.takesGenuine_of_start (h : t.start w = true) : t.TakesGenuine w := by
  cases t with
  | request call =>
    simp only [Thread.start] at h
    split at h
    next he =>
      intro o v ended
      cases he.symm.trans ended
    next => cases h
  | response n handler =>
    cases handler with
    | received v =>
      intro v u target
      cases target
    | _ => cases h
  | _ => trivial

theorem Thread.TakesGenuine.grows (h : t.TakesGenuine w) (g : Grows i w w') : t.TakesGenuine w' := by
  cases t with
  | request call => exact fun o v hv => (h o v hv).grows g
  | response k handler => exact fun v u hv => (h v u hv).grows g
  | _ => trivial

/-- A handler finds an awaiter only for a response that somebody waits for, and a call reads what its awaiter has
got. -/
theorem Thread.Step.takesGenuine (hs : t.Step hosts w i x w' t') (sincere : Sincere w) (at_ : t.At w i)
    (h : t.TakesGenuine w) (g : Grows i w w') : t'.TakesGenuine w' := by
  cases hs with
  | @response n handler handler' r hn =>
    intro v u target
    refine World.Genuine.grows ?_ g
    cases Handler.step_of_next hn with
    | @found v' u' entry =>
      cases target
      have waits : v.correlationId ∈ (w.responseWaiters n).entries :=
        AList.lookup_isSome.mp (Option.isSome_iff_exists.mpr ⟨u, entry⟩)
      exact sincere.genuine (at_ v rfl) waits
    | removed | wrote => exact h v u target
    | taken fieldLast => cases fieldLast
    | _ => cases target
  | request hs =>
    intro o v ended
    obtain ⟨issued, rfl, _, hcast⟩ := hs.received ended
    obtain ⟨a, ha, hr⟩ := RequestCall.castResult_received hcast
    exact (sincere.results ha hr).grows g
  | _ => trivial

theorem sincere_of_reachable {c : Config World Thread}
    (h : ReachableWhere (system hosts) (KeepsIdsApart hosts) System.init c) :
    Sincere c.shared ∧ ∀ (i : Nat) (t : Thread), c.pool[i]? = some t → t.TakesGenuine c.shared := by
  refine h.invariant (P := fun c => Sincere c.shared ∧ ∀ (i : Nat) (t : Thread), c.pool[i]? = some t →
    t.TakesGenuine c.shared) ⟨?_, by simp [System.init]⟩ ?_
  · constructor <;> simp [System.init, World.initial, World.responseWaiters, Registry.empty]
  intro c d a hc inv allowed hd
  obtain ⟨sincere, pool⟩ := inv
  cases a with
  | start t =>
    obtain ⟨hs, rfl⟩ := act_start hd
    refine ⟨sincere, fun i u hu => ?_⟩
    rcases pool_append_cases hu with hu | ⟨_, rfl⟩
    · exact pool i u hu
    · exact Thread.takesGenuine_of_start hs
  | step i x =>
    obtain ⟨t, s, t', ht, hn, rfl⟩ := act_step hd
    obtain ⟨good, at_⟩ := linked_of_reachable hc.reachable
    have hs := Thread.step_of_next hn
    have own := at_ i t ht
    have g := hs.grows own
    have known := known_of_reachable hc.reachable
    refine ⟨sincere.step (good.step known own hs) known.unused (pool i t ht) g hs ?_, fun j u hu => ?_⟩
    · rintro m q env id rfl rfl bears
      cases bears with
      | own => exact Or.inl rfl
      | reissued reached written alone => exact Or.inr (allowed.request i env m q _ rfl ht reached written alone)
      | restamped reached returned written => exact allowed.response i env m q _ _ rfl ht reached returned written
    · rcases pool_set_cases ht hu with ⟨rfl, rfl⟩ | ⟨_, hu⟩
      · exact hs.takesGenuine sincere own (pool j t ht) g
      · exact (pool j u hu).grows g

end Answering

/-- Correlation safety, in every run in which no consumer is done with objects that bear the id of another call
which still waits: a call hands back only an answer to its own request, what its awaiter holds can be cast, a handler
only works on the awaiter whose request it answers, and a response whose id nobody waits under changes nothing. -/
theorem response_correlated {hosts : Hosts} {c : Config World Thread}
    (h : ReachableWhere (system hosts) (KeepsIdsApart hosts) System.init c) :
    (∀ (i : Nat) call o r, c.pool[i]? = some (.request call) → call.phase = .ended o (.received r) →
      ∃ issued, o = some issued ∧ Answers c.shared i issued r ∧
        Knows (c.shared.responseWaiters call.mediator.multiplexer) r.correlationId issued.waiter) ∧
    (∀ (i : Nat) call issued, c.pool[i]? = some (.request call) → call.phase = .waiting issued →
      (c.shared.responseWaiters call.mediator.multiplexer).completion issued.waiter = .ranToCompletion →
      ∃ r, Answers c.shared i issued r ∧ call.castResult
        (c.shared.responseWaiters call.mediator.multiplexer) issued.waiter = .received r) ∧
    (∀ (j : Nat) n handler v w, c.pool[j]? = some (.response n handler) → handler.target = some (v, w) →
      ∀ (i : Nat) call issued, c.pool[i]? = some (.request call) → call.phase.issued = some issued →
        call.mediator.multiplexer = n → issued.waiter = w → Answers c.shared i issued v) ∧
    (∀ (j : Nat) n v x d, c.pool[j]? = some (.response n (.received v)) →
      v.correlationId ∉ (c.shared.responseWaiters n).entries →
      (system hosts).act c (.step j x) = some d → d.shared = c.shared ∧
        d.pool = c.pool.set j (.response n .missed)) := by
  obtain ⟨good, at_⟩ := linked_of_reachable h.reachable
  obtain ⟨sincere, handlers⟩ := sincere_of_reachable h
  refine ⟨fun i call o r hi hp => ?_, fun i call issued hi hp hc => ?_,
    fun j n handler v w hj ht i call issued hi hp hn hw => ?_, fun j n v x d hj hn hd => ?_⟩
  · obtain ⟨owned, received⟩ := at_ i _ hi
    obtain ⟨issued, rfl, hid, _⟩ := received o r hp
    have owned := owned issued (by rw [hp]; rfl)
    exact ⟨issued, rfl, (owned.answers good (handlers i _ hi _ r hp) hid).1, hid ▸ owned.waiter⟩
  · have owned := (at_ i _ hi).1 issued (by rw [hp]; rfl)
    have kept := (responses_kept h.reachable call.mediator.multiplexer).1
    obtain ⟨a, ha, _⟩ := owned.waiter
    obtain ⟨r, hr⟩ := Option.isSome_iff_exists.mp
      (kept.valid.answered ha ((completion_of_awaiter ha).symm.trans hc))
    obtain ⟨answers, castable⟩ := owned.answers good (sincere.results ha hr) (owned.correlationId_result kept ha hr)
    exact ⟨r, answers, by simp [RequestCall.castResult, ha, hr, castable]⟩
  · have owned := (at_ i _ hi).1 issued hp
    obtain ⟨b, hb, hid⟩ := owned.waiter
    obtain ⟨a, ha, hkey⟩ := Handler.knows_target ((responses_kept h.reachable n).2 j (.handler handler)
      (by simp [responseView, hj, Thread.responseParty])) ht
    subst hn hw
    cases ha.symm.trans hb
    exact (owned.answers good (handlers j _ hj v issued.waiter ht) (hkey.symm.trans hid)).1
  · obtain ⟨t, s, t', ht, hs, rfl⟩ := act_step hd
    cases hj.symm.trans ht
    cases x with
    | go =>
      have missed : Handler.next responseProtocol (c.shared.responseWaiters n) (.received v) =
          some (c.shared.responseWaiters n, .missed) := by
        have none : (c.shared.responseWaiters n).entries.lookup (responseProtocol.key v) = none :=
          AList.lookup_eq_none.mpr hn
        simp [Handler.next, none]
      simp only [system, Thread.next, missed, Option.map_some, Option.some.injEq, Prod.mk.injEq] at hs
      obtain ⟨rfl, rfl⟩ := hs
      refine ⟨?_, rfl⟩
      simp [World.setResponseWaiters, World.setMultiplexer, World.responseWaiters]
    | _ => cases hs

def RequestCall.received (c : RequestCall) : Option Response :=
  match c.phase with
  | .ended _ (.received r) => some r
  | _ => none

/-- Of the test requests: nobody passes them on, and each gets a response of its own. -/
def sharesNoObject (c : Config World Thread) : Action Thread Occurrence → Bool
  | .step i (.handled env) => (c.shared.reissued.lookup i).isNone && env.restamped.isNone
  | _ => true

theorem keepsIdsApart_of_check (c : Config World Thread) (a : Action Thread Occurrence)
    (h : sharesNoObject c a = true) : KeepsIdsApart testHosts c a := by
  constructor
  · rintro i env m q s rfl _ _ reissued
    simp [sharesNoObject, reissued] at h
  · rintro i env m q r s rfl _ _ _ restamped
    simp [sharesNoObject, restamped] at h

/-- The whole way of one request: it is published, handled, answered, and its call returns the answer. -/
theorem testRequest_correlated :
    ∃ c, (system testHosts).run sharesNoObject System.init
        (testAnswerRun ++ steps 2 [.go, .go, .go, .go] ++ steps 0 [.completed]) = some c ∧
      ∃ issued r, Answers c.shared 0 issued r := by
  have h : ((system testHosts).run sharesNoObject System.init
      (testAnswerRun ++ steps 2 [.go, .go, .go, .go] ++ steps 0 [.completed])).any (fun c =>
        (c.pool[0]?.bind Thread.requestCall).any (·.received.isSome)) = true := by decide +kernel
  obtain ⟨c, hc, ha⟩ := (Option.any_eq_true _ _).mp h
  obtain ⟨call, hb, hr⟩ := (Option.any_eq_true _ _).mp ha
  obtain ⟨t, ht, hq⟩ := Option.bind_eq_some_iff.mp hb
  cases Thread.eq_of_requestCall hq
  refine ⟨c, hc, ?_⟩
  unfold RequestCall.received at hr
  split at hr
  next o r hp =>
    obtain ⟨issued, _, answers, _⟩ := (response_correlated (.of_run .start keepsIdsApart_of_check hc)).1
      0 call o r ht hp
    exact ⟨issued, r, answers⟩
  next => cases hr

/-- What the consumer answers to the first request, under the id of the call it has made with its object. -/
def testMisanswer : Response := { testAnswer with correlationId := ⟨8⟩ }

/-- The consumer of the first request passes the object on to `Request`, does not wait for that call, and answers. -/
def testPassedOnRun : List (Action Thread Occurrence) :=
  testRequestRun ++ [.start (.delivery ⟨0, 0⟩ (.request testPublished) false)] ++
  .start (.request { testCall with request := testPublished, forwards := some 1 }) :: steps 2 (publishesAgain ⟨8⟩) ++
    steps 1 [.handled (testEnvironment (.request testPublished))] ++
    [.start (.response 0 (.received testMisanswer))] ++ steps 3 [.go, .go, .go, .go] ++ steps 2 [.completed]

theorem passed_on_request_misanswered :
    ¬∀ hosts c, Reachable (system hosts) System.init c → ∀ (i : Nat) call o r,
      c.pool[i]? = some (.request call) → call.phase = .ended o (.received r) →
      ∃ issued, o = some issued ∧ Answers c.shared i issued r := by
  intro claim
  have h : ((system testHosts).run (fun _ _ => true) System.init testPassedOnRun).any (fun c =>
      (c.pool[2]?.bind Thread.requestCall).any (·.received = some testMisanswer) &&
      c.shared.requestRuns.all fun run => run.request.correlationId ≠ ⟨8⟩) = true := by decide +kernel
  obtain ⟨c, hc, ha⟩ := (Option.any_eq_true _ _).mp h
  obtain ⟨ha, handled⟩ := Bool.and_eq_true_iff.mp ha
  obtain ⟨call, hb, hr⟩ := (Option.any_eq_true _ _).mp ha
  obtain ⟨t, ht, hq⟩ := Option.bind_eq_some_iff.mp hb
  cases Thread.eq_of_requestCall hq
  have hr := of_decide_eq_true hr
  unfold RequestCall.received at hr
  split at hr
  next o r hp =>
    cases hr
    obtain ⟨issued, _, answers⟩ := claim testHosts c (.of_run .start (fun _ _ _ => trivial) hc) 2 call o _ ht hp
    obtain ⟨run, recorded, same, _⟩ := answers.handled
    have other : run.request.correlationId ≠ ⟨8⟩ := by simpa using List.all_eq_true.mp handled run recorded
    exact other (same ▸ answers.correlationId.symm)
  next => cases hr

/-- The consumer of the first request returns an object that answers the second one too. -/
def testSharedAnswer : Environment :=
  { testEnvironment (.request testPublished) with
    restamped := some ⟨testMediator.getInstanceInformation, ⟨8⟩, false, testMediator.getInstanceInformation⟩ }

/-- The first run to come to the serializer then answers the second call. -/
example : ((system testHosts).run (fun _ _ => true) System.init (testRequestRun ++
    .start (.request testCall) :: steps 1 (publishesAgain ⟨8⟩) ++
    [.start (.delivery ⟨0, 0⟩ (.request testPublished) false)] ++ steps 2 [.handled testSharedAnswer] ++
    [.start (.response 0 (.received testMisanswer))] ++ steps 3 [.go, .go, .go, .go] ++
    steps 1 [.completed])).any (fun c =>
      (c.pool[1]?.bind Thread.requestCall).any (·.received = some testMisanswer) &&
      c.shared.requestRuns.all fun run => run.request.correlationId ≠ ⟨8⟩) = true := by
  decide +kernel

end RabbitMediator
