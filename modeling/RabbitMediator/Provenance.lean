import RabbitMediator.Simulation

namespace RabbitMediator

open Interleaving Registry Rendezvous

section Provenance

/-- The id a response goes out under: that of its request, unless a consumer that was asked has left the request
with another one, or has returned a response that another run has written to. -/
inductive AnswerId (env : Environment) (mediator : Mediator) (q : Request) : Guid → Prop
  | own : AnswerId env mediator q q.correlationId
  | reissued {s} (reached : ReachesConsumer env mediator q) (written : env.reissued = some s)
      (alone : ∀ a, env.consumeRequest q = .completed (some a) → env.restamped = none) :
      AnswerId env mediator q s.correlationId
  | restamped {s a} (reached : ReachesConsumer env mediator q)
      (returned : env.consumeRequest q = .completed (some a)) (written : env.restamped = some s) :
      AnswerId env mediator q s.correlationId

/-- A run answers with a response of the type its request asks for. -/
theorem Reports.answerId {env : Environment} {mediator : Mediator} {q after : Request} {r : Response}
    (h : Reports env mediator q after r) :
    r.type.isAssignableTo q.tResponse = true ∧ AnswerId env mediator q r.correlationId := by
  have passedOn (reached : ReachesConsumer env mediator q)
      (alone : ∀ a, env.consumeRequest q = .completed (some a) → env.restamped = none) :
      AnswerId env mediator q (q.reissued env.reissued).correlationId := by
    cases written : env.reissued with
    | none => exact .own
    | some s => exact .reissued reached written alone
  cases h with
  | @consumed a reached returned =>
    refine ⟨(Response.type_restamped _ _).symm ▸ a.2, ?_⟩
    cases written : env.restamped with
    | none => exact passedOn reached fun _ _ => written
    | some s => exact .restamped reached returned written
  | @failed empty _ reached abnormal created =>
    have own : empty.type = q.tResponse := (createInstance_ok created).1
    exact ⟨own ▸ SentType.isAssignableTo_self empty.type,
      passedOn reached fun a returned => absurd returned (abnormal a)⟩
  | @refused empty _ _ created =>
    have own : empty.type = q.tResponse := (createInstance_ok created).1
    exact ⟨own ▸ SentType.isAssignableTo_self empty.type, .own⟩

theorem RequestRun.mem_responses {h : RequestRun} {r : Response} (hr : r ∈ h.responses) :
    r.type.isAssignableTo h.request.tResponse = true ∧
      AnswerId h.environment h.mediator h.request r.correlationId := by
  obtain ⟨⟨queue, p⟩, hp, rfl⟩ := List.mem_map.mp hr
  obtain ⟨_, _, _, _, _, _, reports⟩ := handleRequest_published (mem_publishedResponses.mp hp)
  exact reports.answerId

theorem mem_of_lookup {κ α : Type} [BEq κ] [LawfulBEq κ] {entries : List (κ × α)} {k : κ} {v : α}
    (h : entries.lookup k = some v) : (k, v) ∈ entries := by
  obtain ⟨before, after, rfl, _⟩ := List.lookup_eq_some_iff.mp h
  exact List.mem_append_right _ List.mem_cons_self

theorem World.carries_iff {w : World} {id : Guid} : w.carries id = true ↔
    (∃ p ∈ w.requests, p.body.correlationId = id) ∨ ∃ p ∈ w.reissued, p.2.correlationId = id := by
  simp [World.carries]

/-- What others have written into the objects of a run are ids of request objects. -/
structure RequestRun.Carried (w : World) (h : RequestRun) : Prop where
  reissued : ∀ s, h.environment.reissued = some s → w.carries s.correlationId = true
  restamped : ∀ s, h.environment.restamped = some s → w.carries s.correlationId = true

/-- What holds of the world at any time: ids have one owner, what was published bears an id of its
publisher, what was handled was published, what was written into an object is an id that was drawn for a request,
and what an awaiter got did arrive. -/
structure Good (w : World) : Prop where
  owner : ∀ {id i j}, (id, i) ∈ w.issued → (id, j) ∈ w.issued → i = j
  requests : ∀ p ∈ w.requests, (p.body.correlationId, p.call) ∈ w.issued
  messages : ∀ p ∈ w.messages, (p.body.correlationId, p.call) ∈ w.issued
  requestRuns : ∀ h ∈ w.requestRuns, ∃ p ∈ w.requests, p.body = h.request
  reissued : ∀ p ∈ w.reissued, ∃ j, (p.2.correlationId, j) ∈ w.issued
  carried : ∀ h ∈ w.requestRuns, h.Carried w
  results : ∀ {n u : Nat} {a : Awaiter Guid MediatorRef Response Abort} {v : Response},
    (w.responseWaiters n).awaiters[u]? = some a → a.result = some v → w.responds v = true

theorem Good.drawn {w : World} (good : Good w) {id : Guid} (h : w.carries id = true) :
    ∃ j, (id, j) ∈ w.issued := by
  rcases World.carries_iff.mp h with ⟨p, hp, rfl⟩ | ⟨p, hp, rfl⟩
  · exact ⟨p.call, good.requests p hp⟩
  · exact good.reissued p hp

/-- A response that a run sends bears the id of a request. -/
theorem Good.carries {w : World} (good : Good w) {h : RequestRun} (hh : h ∈ w.requestRuns) {r : Response}
    (hr : r ∈ h.responses) : w.carries r.correlationId = true := by
  have id := (h.mem_responses hr).2
  generalize r.correlationId = answer at id
  cases id with
  | own =>
    obtain ⟨p, hp, hb⟩ := good.requestRuns h hh
    exact World.carries_iff.mpr (Or.inl ⟨p, hp, by rw [hb]⟩)
  | reissued _ written => exact (good.carried h hh).reissued _ written
  | restamped _ _ written => exact (good.carried h hh).restamped _ written

/-- What a call knows of the id it drew: nobody else publishes under it. -/
structure Owned (w : World) (i : Nat) (c : RequestCall) (issued : Issued) : Prop where
  drawn : (issued.request.correlationId, i) ∈ w.issued
  waiter : Knows (w.responseWaiters c.mediator.multiplexer) issued.request.correlationId issued.waiter
  requests : ∀ p ∈ w.requests, p.body.correlationId = issued.request.correlationId →
    p.call = i ∧ p.body = issued.request
  messages : ∀ p ∈ w.messages, p.body.correlationId ≠ issued.request.correlationId
  tResponse : issued.request.tResponse = c.request.tResponse

/-- Nobody sends a response as a message under the id of a call. -/
theorem Owned.sent_by_run {w : World} {i : Nat} {c : RequestCall} {issued : Issued} {r : Response}
    (owned : Owned w i c issued) (arrived : w.responds r = true)
    (hid : r.correlationId = issued.request.correlationId) : ∃ h ∈ w.requestRuns, r ∈ h.responses := by
  rcases Bool.or_eq_true_iff.mp arrived with hr | hm
  · obtain ⟨h, hh, hr⟩ := List.any_eq_true.mp hr
    exact ⟨h, hh, by simpa using hr⟩
  · obtain ⟨p, hp, hm⟩ := List.any_eq_true.mp hm
    split at hm
    next sent hs =>
      refine absurd ?_ (owned.messages p hp)
      rw [hs, ← hid, ← of_decide_eq_true hm]
      rfl
    next => cases hm

/-- What the steps of thread `i` promise to all others. -/
structure Grows (i : Nat) (w w' : World) : Prop where
  issued : ∀ p ∈ w.issued, p ∈ w'.issued
  drawn : ∀ id j, (id, j) ∈ w'.issued → (id, j) ∈ w.issued ∨ j = i ∧ w.fresh id = true
  requests : ∀ p ∈ w.requests, p ∈ w'.requests
  published : ∀ p ∈ w'.requests, p ∈ w.requests ∨ p.call = i ∧ (p.body.correlationId, i) ∈ w.issued
  sent : ∀ p ∈ w'.messages, p ∈ w.messages ∨ p.call = i ∧ (p.body.correlationId, i) ∈ w.issued
  messages : ∀ p ∈ w.messages, p ∈ w'.messages
  requestRuns : ∀ h ∈ w.requestRuns, h ∈ w'.requestRuns
  handled : ∀ h ∈ w'.requestRuns,
    h ∈ w.requestRuns ∨ (∃ p ∈ w.requests, p.body = h.request) ∧ h.Carried w
  reissued : ∀ p ∈ w.reissued, p ∈ w'.reissued
  written : ∀ p ∈ w'.reissued,
    p ∈ w.reissued ∨ (p.2.correlationId, i) ∈ w'.issued ∧ w.fresh p.2.correlationId = true

theorem World.Quiet.grows {w w' : World} (h : w.Quiet w') (i : Nat) : Grows i w w' := by
  obtain ⟨hi, hq, hm, hr, _, hs⟩ := h
  constructor <;> simp_all

theorem Grows.refl (i : Nat) (w : World) : Grows i w w := World.Quiet.grows ⟨rfl, rfl, rfl, rfl, rfl, rfl⟩ i

theorem Grows.responds {i : Nat} {w w' : World} (g : Grows i w w') {r : Response}
    (h : w.responds r = true) : w'.responds r = true := by
  rcases Bool.or_eq_true_iff.mp h with h | h
  · obtain ⟨x, hx, hr⟩ := List.any_eq_true.mp h
    exact Bool.or_eq_true_iff.mpr (Or.inl (List.any_eq_true.mpr ⟨x, g.requestRuns x hx, hr⟩))
  · obtain ⟨x, hx, hr⟩ := List.any_eq_true.mp h
    exact Bool.or_eq_true_iff.mpr (Or.inr (List.any_eq_true.mpr ⟨x, g.messages x hx, hr⟩))

theorem Grows.carries {i : Nat} {w w' : World} (g : Grows i w w') {id : Guid} (h : w.carries id = true) :
    w'.carries id = true := by
  rcases World.carries_iff.mp h with ⟨p, hp, hid⟩ | ⟨p, hp, hid⟩
  · exact World.carries_iff.mpr (Or.inl ⟨p, g.requests p hp, hid⟩)
  · exact World.carries_iff.mpr (Or.inr ⟨p, g.reissued p hp, hid⟩)

theorem RequestRun.Carried.grows {i : Nat} {w w' : World} {h : RequestRun} (carried : h.Carried w)
    (g : Grows i w w') : h.Carried w' :=
  ⟨fun s hs => g.carries (carried.reissued s hs), fun s hs => g.carries (carried.restamped s hs)⟩

/-- A thread cannot take away what another call knows of its own id. -/
theorem Owned.grows {i j : Nat} {w w' : World} {c : RequestCall} {issued : Issued} (g : Grows i w w')
    (good : Good w) (hij : j ≠ i)
    (evolves : (w.responseWaiters c.mediator.multiplexer).Evolves
      (w'.responseWaiters c.mediator.multiplexer))
    (h : Owned w j c issued) : Owned w' j c issued := by
  refine ⟨g.issued _ h.drawn, h.waiter.evolves evolves, fun p hp hid => ?_, fun p hp hid => ?_, h.tResponse⟩
  · rcases g.published p hp with hp | ⟨_, hi⟩
    · exact h.requests p hp hid
    · exact absurd (good.owner h.drawn (hid ▸ hi)) hij
  · rcases g.sent p hp with hp | ⟨_, hi⟩
    · exact h.messages p hp hid
    · exact absurd (good.owner h.drawn (hid ▸ hi)) hij

end Provenance

section Calls

variable {hosts : Hosts} {w w' : World} {i : Nat} {x : Occurrence}

theorem RequestCall.grows_handOver {c : RequestCall} {issued : Issued} {s : MultiplexerState}
    {taken : Bool} (drawn : (issued.request.correlationId, i) ∈ w.issued) :
    Grows i w (c.handOver w i issued s taken) := by
  cases taken with
  | false => exact (w.quiet_setMultiplexer _ _).grows i
  | true =>
    refine { Grows.refl i w with
      requests := fun p hp => List.mem_cons_of_mem _ hp
      published := fun p hp => ?_ }
    rcases List.mem_cons.mp hp with rfl | hp
    · exact Or.inr ⟨rfl, drawn⟩
    · exact Or.inl hp

theorem SendCall.grows_handOver {c : SendCall} {prepared : Prepared} {s : MultiplexerState}
    {taken : Bool} (drawn : (prepared.message.correlationId, i) ∈ w.issued) :
    Grows i w (c.handOver w i prepared prepared.message s taken) := by
  cases taken with
  | false => exact (w.quiet_setMultiplexer _ _).grows i
  | true =>
    refine { Grows.refl i w with
      messages := fun p hp => List.mem_cons_of_mem _ hp
      sent := fun p hp => ?_ }
    rcases List.mem_cons.mp hp with rfl | hp
    · exact Or.inr ⟨rfl, drawn⟩
    · exact Or.inl hp

theorem Grows.of_drawn {id : Guid} (fresh : w.fresh id = true) {w' : World} (hi : w'.issued = (id, i) :: w.issued)
    (hq : w'.requests = w.requests) (hm : w'.messages = w.messages) (hr : w'.requestRuns = w.requestRuns)
    (kept : ∀ p ∈ w.reissued, p ∈ w'.reissued)
    (written : ∀ p ∈ w'.reissued, p ∈ w.reissued ∨ p.2.correlationId = id) :
    Grows i w w' := by
  refine ⟨fun p hp => hi ▸ List.mem_cons_of_mem _ hp, fun id' j h => ?_, by simp [hq], by simp_all,
    by simp_all, by simp [hm], by simp [hr], by simp_all, kept, fun p hp => ?_⟩
  case refine_2 =>
    rcases written p hp with old | rfl
    · exact Or.inl old
    · exact Or.inr ⟨hi ▸ List.mem_cons_self, fresh⟩
  rw [hi] at h
  rcases List.mem_cons.mp h with h | h
  · cases h
    exact Or.inr ⟨rfl, fresh⟩
  · exact Or.inl h

theorem Grows.quiet {w'' : World} (g : Grows i w w') (q : w'.Quiet w'') : Grows i w w'' := by
  obtain ⟨hi, hq, hm, hr, _, hs⟩ := q
  obtain ⟨issued, drawn, requests, published, sent, messages, requestRuns, handled, reissued, written⟩ := g
  constructor <;> simp only [hi, hq, hm, hr, hs] <;> assumption

theorem RequestCall.reissued_reissue (c : RequestCall) (id : Guid) :
    (∀ p ∈ w.reissued, p ∈ (c.reissue hosts w id).reissued) ∧
      ∀ p ∈ (c.reissue hosts w id).reissued, p ∈ w.reissued ∨ p.2.correlationId = id := by
  unfold reissue
  cases c.forwards with
  | none => exact ⟨fun _ hp => hp, fun _ hp => Or.inl hp⟩
  | some delivery =>
    refine ⟨fun _ hp => List.mem_cons_of_mem _ hp, fun p hp => ?_⟩
    rcases List.mem_cons.mp hp with rfl | hp
    · exact Or.inr rfl
    · exact Or.inl hp

theorem RequestCall.Step.grows {c c' : RequestCall} (hs : c.Step hosts w i x w' c')
    (drawn : ∀ issued, c.phase.issued = some issued → (issued.request.correlationId, i) ∈ w.issued) :
    Grows i w w' := by
  cases hs with
  | prelude => exact (w.quiet_setMediator _ _).grows i
  | issued before fresh =>
    obtain ⟨kept, written⟩ := @reissued_reissue hosts w c _
    exact .of_drawn fresh rfl rfl rfl rfl kept written
  | published before | escaped before => exact grows_handOver (drawn _ (by rw [before]; rfl))
  | failed before =>
    exact (grows_handOver (drawn _ (by rw [before]; rfl))).quiet (World.quiet_setMultiplexer _ _ _)
  | gaveUp => exact (World.quiet_setMultiplexer _ _ _).grows i
  | _ => exact .refl i w

theorem SendCall.Step.grows {c c' : SendCall} (hs : c.Step hosts w i x w' c')
    (drawn : ∀ prepared, c.phase.prepared = some prepared →
      (prepared.message.correlationId, i) ∈ w.issued) :
    Grows i w w' := by
  cases hs with
  | prelude => exact .refl i w
  | prepared before fresh =>
    unfold addWaiter
    split <;> exact .of_drawn fresh rfl rfl rfl rfl (fun _ hp => hp) fun _ hp => Or.inl hp
  | published before | unconfirmed before | escaped before =>
    exact grows_handOver (drawn _ (by rw [before]; rfl))
  | failed before =>
    have hd := drawn _ (by rw [before]; rfl)
    split
    · exact (grows_handOver hd).quiet (World.quiet_setMultiplexer _ _ _)
    · exact grows_handOver hd
  | cancelled => exact (World.quiet_setMultiplexer _ _ _).grows i
  | _ => exact .refl i w

/-- A send call keeps the message it prepared, under the id it drew. -/
theorem SendCall.Step.drawn {c c' : SendCall} (hs : c.Step hosts w i x w' c') (g : Grows i w w')
    (drawn : ∀ prepared, c.phase.prepared = some prepared →
      (prepared.message.correlationId, i) ∈ w.issued)
    {prepared : Prepared} (hp : c'.phase.prepared = some prepared) :
    (prepared.message.correlationId, i) ∈ w'.issued := by
  have old : c.phase.prepared = some prepared → (prepared.message.correlationId, i) ∈ w'.issued :=
    fun h => g.issued _ (drawn _ h)
  cases hs with
  | prelude _ after => simp [goesTo, after.prepared] at hp
  | @prepared id address before fresh =>
    cases hp
    have message : (c.preparedAs hosts w id address).message.correlationId = id := by
      simp only [preparedAs, IMessage.issued]
      cases c.message <;> rfl
    rw [message]
    unfold addWaiter
    split <;> exact List.mem_cons_self
  | published before _ after =>
    refine old ?_
    rw [before]
    rcases after with ⟨_, _, rfl⟩ | ⟨_, rfl⟩ <;> exact hp
  | answered before =>
    refine old ?_
    rw [before]
    unfold readAck at hp
    split at hp <;> exact hp
  | unconfirmed before | failed before | escaped before | delayed before | rejected before
  | aborted before | cancelled before | timedOut before => exact old (by rw [before]; exact hp)

end Calls

section Ownership

variable {hosts : Hosts} {w w' : World} {i : Nat} {x : Occurrence} {c c' : RequestCall} {issued : Issued}

theorem Owned.goesTo (h : Owned w i c issued) (phase : RequestPhase) : Owned w i (c.goesTo phase) issued :=
  ⟨h.drawn, h.waiter, h.requests, h.messages, h.tResponse⟩

theorem Owned.removeWaiter (h : Owned w i c issued) : Owned (c.removeWaiter w issued) i c issued :=
  ⟨h.drawn, by
    rw [RequestCall.removeWaiter, World.responseWaiters_setResponseWaiters_self]
    exact h.waiter.evolves (evolves_remove _ _), h.requests, h.messages, h.tResponse⟩

theorem Owned.handOver {s : MultiplexerState} {taken : Bool} (h : Owned w i c issued)
    (same : s.responseWaiters = w.responseWaiters c.mediator.multiplexer) :
    Owned (c.handOver w i issued s taken) i c issued := by
  have waiter : Knows ((c.handOver w i issued s taken).responseWaiters c.mediator.multiplexer)
      issued.request.correlationId issued.waiter := by
    rw [RequestCall.responseWaiters_handOver same]
    exact h.waiter
  cases taken with
  | false => exact ⟨h.drawn, waiter, h.requests, h.messages, h.tResponse⟩
  | true =>
    refine ⟨h.drawn, waiter, fun p hp hid => ?_, h.messages, h.tResponse⟩
    rcases List.mem_cons.mp hp with rfl | hp
    · exact ⟨rfl, rfl⟩
    · exact h.requests p hp hid

/-- A call that draws its id owns it, and keeps it whatever it does. -/
theorem RequestCall.Step.owned (hs : c.Step hosts w i x w' c') (good : Good w)
    (old : ∀ issued, c.phase.issued = some issued → Owned w i c issued)
    (hi : c'.phase.issued = some issued) : Owned w' i c' issued := by
  cases hs with
  | prelude _ after => simp [RequestCall.goesTo, after.issued] at hi
  | @issued id address before fresh =>
    cases hi
    have waiter : Knows ((c.addWaiter (c.reissue hosts w id) i id).responseWaiters c.mediator.multiplexer) id
        (w.responseWaiters c.mediator.multiplexer).awaiters.length := by
      rw [responseWaiters_addWaiter]
      exact ⟨_, awaiters_add_new _ _ _, rfl⟩
    refine ⟨List.mem_cons_self, waiter, fun p hp hid => ?_, fun p hp hid => ?_, rfl⟩
    · exact absurd (hid ▸ good.requests p hp) (World.not_mem_issued fresh _)
    · exact absurd (hid ▸ good.messages p hp) (World.not_mem_issued fresh _)
  | published before same after =>
    rcases after with rfl | ⟨next, rfl⟩ <;> cases hi <;>
      exact ((old _ (by rw [before]; rfl)).handOver same.1).goesTo _
  | failed before same =>
    cases hi
    exact ((old _ (by rw [before]; rfl)).handOver same.1).removeWaiter.goesTo _
  | escaped before same =>
    cases hi
    exact ((old _ (by rw [before]; rfl)).handOver same.1).goesTo _
  | delayed before | rejected before | answered before | aborted before =>
    cases hi
    exact (old _ (by rw [before]; rfl)).goesTo _
  | gaveUp before =>
    cases hi
    exact (old _ (by rw [before]; rfl)).removeWaiter.goesTo _

theorem RequestCall.gaveUp_ne_received (hosts : Hosts) (c : RequestCall) (issued : Issued)
    (timedOut sendFailure : Bool) (e : Exception) (r : Response) :
    c.gaveUp hosts issued timedOut sendFailure e ≠ .received r := by
  unfold gaveUp
  split
  · exact nofun
  · split <;> exact nofun

/-- Only the awaited task gives a call a received response. -/
theorem RequestCall.Step.received (hs : c.Step hosts w i x w' c') {o : Option Issued} {r : Response}
    (he : c'.phase = .ended o (.received r)) : ∃ issued, o = some issued ∧ c.phase = .waiting issued ∧
      c.castResult (w.responseWaiters c.mediator.multiplexer) issued.waiter = .received r := by
  cases hs with
  | prelude _ after =>
    simp only [RequestCall.goesTo] at he
    subst he
    cases o <;> exact after.elim
  | published _ _ after => rcases after with rfl | ⟨_, rfl⟩ <;> cases he
  | failed =>
    simp only [RequestCall.goesTo, RequestPhase.ended.injEq] at he
    exact absurd he.2 (gaveUp_ne_received _ _ _ _ _ _ _)
  | @answered issued before =>
    simp only [RequestCall.goesTo, RequestPhase.ended.injEq] at he
    exact ⟨issued, he.1.symm, before, he.2⟩
  | @gaveUp issued cancelled before =>
    simp only [RequestCall.goesTo, RequestPhase.ended.injEq, gaveUpWaiting] at he
    cases cancelled with
    | true => cases he.2
    | false => exact absurd he.2 (gaveUp_ne_received _ _ _ _ _ _ _)
  | _ => cases he

theorem RequestCall.castResult_received {r : ResponseWaiters} {u : Nat} {v : Response}
    (h : c.castResult r u = .received v) :
    ∃ a : Awaiter Guid MediatorRef Response Abort, r.awaiters[u]? = some a ∧ a.result = some v := by
  unfold castResult at h
  split at h
  next y hy =>
    split at h <;> cases h
    exact Option.bind_eq_some_iff.mp hy
  next => cases h

end Ownership

section Runs

variable {hosts : Hosts} {w w' : World} {i : Nat} {x : Occurrence} {t t' : Thread}

/-- What holds where a thread stands. -/
def Thread.At (w : World) (i : Nat) : Thread → Prop
  | .request c => (∀ issued, c.phase.issued = some issued → Owned w i c issued) ∧
      ∀ o r, c.phase = .ended o (.received r) → ∃ issued, o = some issued ∧
        r.correlationId = issued.request.correlationId ∧ ∃ h ∈ w.requestRuns, r ∈ h.responses
  | .send c => ∀ prepared, c.phase.prepared = some prepared →
      (prepared.message.correlationId, i) ∈ w.issued
  | .delivery _ (.request q) _ => ∃ p ∈ w.requests, p.body = q
  | .response _ handler => ∀ v, handler.reply = some v → w.responds v = true
  | _ => True

theorem Thread.at_of_start (h : t.start w = true) : t.At w i := by
  cases t with
  | request c =>
    simp only [Thread.start] at h
    split at h
    next he => exact ⟨by simp [he, RequestPhase.issued], by simp [he]⟩
    next => cases h
  | send c =>
    simp only [Thread.start] at h
    split at h
    next he =>
      intro prepared hp
      simp [he, SendPhase.prepared] at hp
    next => cases h
  | delivery m o done =>
    cases o with
    | request q =>
      obtain ⟨p, hp, hb⟩ := List.any_eq_true.mp (Bool.and_eq_true_iff.mp h).1
      exact ⟨p, hp, of_decide_eq_true hb⟩
    | message => trivial
  | response k handler =>
    cases handler with
    | received v => rintro _ ⟨⟩; exact h
    | _ => cases h
  | _ => trivial

theorem Thread.At.grows {j : Nat} (h : t.At w j) (g : Grows i w w') (good : Good w) (hij : j ≠ i)
    (evolves : ∀ n, (w.responseWaiters n).Evolves (w'.responseWaiters n)) : t.At w' j := by
  cases t with
  | request c =>
    refine ⟨fun issued hi => (h.1 issued hi).grows g good hij (evolves _), fun o r hp => ?_⟩
    obtain ⟨issued, ho, hid, x, hx, hr⟩ := h.2 o r hp
    exact ⟨issued, ho, hid, x, g.requestRuns x hx, hr⟩
  | send c => exact fun prepared hp => g.issued _ (h prepared hp)
  | delivery m o done =>
    cases o with
    | request q => obtain ⟨p, hp, hb⟩ := h; exact ⟨p, g.requests p hp, hb⟩
    | message => trivial
  | response k handler => exact fun v hv => g.responds (h v hv)
  | _ => trivial

theorem Thread.Step.grows (hs : t.Step hosts w i x w' t') (h : t.At w i) : Grows i w w' := by
  cases hs with
  | request hs => exact hs.grows fun issued hi => (h.1 issued hi).drawn
  | send hs => exact hs.grows h
  | @delivered m o environment carried =>
    cases o with
    | request q =>
      refine { Grows.refl i w with
        requestRuns := fun _ hr => List.mem_cons_of_mem _ hr
        handled := fun r hr => ?_ }
      rcases List.mem_cons.mp hr with rfl | hr
      · refine Or.inr ⟨h, fun s hs => ?_, carried⟩
        exact World.carries_iff.mpr (Or.inr ⟨(i, s), mem_of_lookup hs, rfl⟩)
      · exact Or.inl hr
    | message m => exact { Grows.refl i w with }
  | response | ack => exact (w.quiet_setMultiplexer _ _).grows i
  | disposal hs => exact hs.quiet.grows i

/-- Runs of `HandleRequest` are added one by one, each by the delivery it belongs to. -/
theorem Thread.Step.requestRuns (hs : t.Step hosts w i x w' t') : w'.requestRuns = w.requestRuns ∨
    ∃ m q env, t = .delivery m (.request q) false ∧ x = .handled env ∧
      w'.requestRuns =
        ⟨{ env with reissued := w.reissued.lookup i }, hosts.mediator m, q⟩ :: w.requestRuns := by
  cases hs with
  | request hs =>
    cases hs with
    | @published _ _ _ _ taken => exact Or.inl (by cases taken <;> rfl)
    | @failed _ _ _ _ taken => exact Or.inl (by cases taken <;> rfl)
    | @escaped _ _ _ _ taken => exact Or.inl (by cases taken <;> rfl)
    | _ => exact Or.inl rfl
  | send hs =>
    cases hs with
    | prepared =>
      unfold SendCall.addWaiter
      exact Or.inl (by split <;> rfl)
    | @published _ _ _ _ taken => exact Or.inl (by cases taken <;> rfl)
    | @unconfirmed _ _ _ _ taken => exact Or.inl (by cases taken <;> rfl)
    | @failed _ _ _ _ taken => exact Or.inl (by split <;> cases taken <;> rfl)
    | @escaped _ _ _ _ taken => exact Or.inl (by cases taken <;> rfl)
    | _ => exact Or.inl rfl
  | @delivered m o env =>
    cases o with
    | request q => exact Or.inr ⟨m, q, env, rfl, rfl, rfl⟩
    | message => exact Or.inl rfl
  | response | ack => exact Or.inl rfl
  | disposal hs => exact Or.inl hs.quiet.requestRuns

theorem Thread.response_of_handler {n : Nat} {handler : Handler Response}
    (h : t.responseParty n = .handler handler) : t = .response n handler := by
  cases t with
  | request c =>
    simp only [responseParty, RequestCall.party] at h
    split at h
    · split at h <;> cases h
    · cases h
  | response k handler =>
    simp only [responseParty] at h
    split at h
    next hk => cases h; exact hk ▸ rfl
    next => cases h
  | disposal d =>
    simp only [responseParty, Disposal.responseParty] at h
    split at h
    · split at h <;> cases h
    · cases h
  | _ => cases h

theorem Good.initial : Good .initial := by
  constructor <;> simp [World.initial, World.responseWaiters, Registry.empty]

/-- A thread that moves the awaiters leaves only results that did arrive. -/
theorem Good.step (good : Good w) (known : Known w) (h : t.At w i) (hs : t.Step hosts w i x w' t') :
    Good w' := by
  have g := hs.grows h
  constructor
  · intro id j k hj hk
    rcases g.drawn id j hj with hj | ⟨rfl, fj⟩ <;> rcases g.drawn id k hk with hk | ⟨rfl, fk⟩
    · exact good.owner hj hk
    · exact absurd hj (World.not_mem_issued fk _)
    · exact absurd hk (World.not_mem_issued fj _)
    · rfl
  · intro p hp
    rcases g.published p hp with hp | ⟨rfl, hi⟩
    · exact g.issued _ (good.requests p hp)
    · exact g.issued _ hi
  · intro p hp
    rcases g.sent p hp with hp | ⟨rfl, hi⟩
    · exact g.issued _ (good.messages p hp)
    · exact g.issued _ hi
  · intro r hr
    rcases g.handled r hr with hr | ⟨⟨p, hp, hb⟩, _⟩
    · obtain ⟨p, hp, hb⟩ := good.requestRuns r hr
      exact ⟨p, g.requests p hp, hb⟩
    · exact ⟨p, g.requests p hp, hb⟩
  · intro p hp
    rcases g.written p hp with old | ⟨drawn, _⟩
    · obtain ⟨j, hj⟩ := good.reissued p old
      exact ⟨j, g.issued _ hj⟩
    · exact ⟨i, drawn⟩
  · intro r hr
    rcases g.handled r hr with hr | ⟨_, carried⟩
    · exact (good.carried r hr).grows g
    · exact carried.grows g
  · intro n u a v ha hv
    refine g.responds ?_
    cases hs.movesResponses known.unused n with
    | stays same => exact good.results (same ▸ ha) hv
    | steps y step =>
      rcases (Party.step_of_next step).result ha hv with ⟨b, hb, hbv⟩ | ⟨z, hz | hz⟩
      · exact good.results hb hbv
      · cases Thread.response_of_handler hz
        exact h v rfl
      · cases Thread.response_of_handler hz
        exact h v rfl

/-- The result of the awaiter that a call owns bears the id of the call. -/
theorem Owned.correlationId_result {c : RequestCall} {issued : Issued} {r : Response}
    {a : Awaiter Guid MediatorRef Response Abort} (owned : Owned w i c issued)
    (kept : Kept responseProtocol (w.responseWaiters c.mediator.multiplexer))
    (ha : (w.responseWaiters c.mediator.multiplexer).awaiters[issued.waiter]? = some a)
    (hr : a.result = some r) : r.correlationId = issued.request.correlationId := by
  obtain ⟨b, hb, hid⟩ := owned.waiter
  cases ha.symm.trans hb
  exact (kept.keyed ha hr).trans hid

theorem Thread.Step.at_own (hs : t.Step hosts w i x w' t') (good : Good w)
    (kept : ∀ n, Kept responseProtocol (w.responseWaiters n)) (h : t.At w i) : t'.At w' i := by
  have g := hs.grows h
  cases hs with
  | request hs =>
    refine ⟨fun issued hi => hs.owned good h.1 hi, fun o r hp => ?_⟩
    obtain ⟨issued, rfl, before, hcast⟩ := hs.received hp
    obtain ⟨a, ha, hr⟩ := RequestCall.castResult_received hcast
    have owned := h.1 issued (by rw [before]; rfl)
    have hid := owned.correlationId_result (kept _) ha hr
    obtain ⟨h, hh, sent⟩ := owned.sent_by_run (good.results ha hr) hid
    exact ⟨issued, rfl, hid, h, g.requestRuns h hh, sent⟩
  | send hs => exact fun prepared hp => hs.drawn g h hp
  | @delivered m o environment =>
    cases o with
    | request q => exact h
    | message => trivial
  | response hn => exact fun v hv => g.responds (h v (Handler.reply_next hn hv))
  | ack => trivial
  | disposal => trivial

theorem linked_of_reachable {c : Config World Thread} (h : Reachable (system hosts) System.init c) :
    Good c.shared ∧ ∀ (i : Nat) (t : Thread), c.pool[i]? = some t → t.At c.shared i := by
  refine h.invariant (P := fun c => Good c.shared ∧ ∀ (i : Nat) (t : Thread), c.pool[i]? = some t →
    t.At c.shared i) ⟨Good.initial, by simp [System.init]⟩ ?_
  intro c d a hc linked _ hd
  obtain ⟨good, at_⟩ := linked
  cases a with
  | start t =>
    obtain ⟨hs, rfl⟩ := act_start hd
    refine ⟨good, fun i u hu => ?_⟩
    rcases pool_append_cases hu with hu | ⟨_, rfl⟩
    · exact at_ i u hu
    · exact Thread.at_of_start hs
  | step i x =>
    have evolves := responses_evolve hc.reachable hd
    obtain ⟨t, s, t', ht, hn, rfl⟩ := act_step hd
    have hs := Thread.step_of_next hn
    have own := at_ i t ht
    refine ⟨good.step (known_of_reachable hc.reachable) own hs, fun j u hu => ?_⟩
    rcases pool_set_cases ht hu with ⟨rfl, rfl⟩ | ⟨hj, hu⟩
    · exact hs.at_own good (fun n => (responses_kept hc.reachable n).1) own
    · exact (at_ j u hu).grows (hs.grows own) good hj evolves

end Runs

end RabbitMediator
