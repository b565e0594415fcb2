import RabbitMediator.Acknowledgement
import RabbitMediator.Correlation

namespace RabbitMediator

open Interleaving Registry Rendezvous

/-- A message as it arrives. -/
def IMessage.overTheWire : IMessage → IMessage
  | .message m => .message m
  | .response r => .response r.overTheWire

/-- `run` handled the very message that call number `i` published. -/
structure Handled (w : World) (i : Nat) (prepared : Prepared) (run : MessageRun) : Prop where
  recorded : run ∈ w.messageRuns
  message : run.message = prepared.message.overTheWire
  published : ∃ p ∈ w.messages, p.call = i ∧ p.body = prepared.message

/-- `ack` attests how a run for the message of call number `i` ended. -/
def Acknowledges (w : World) (i : Nat) (prepared : Prepared) (ack : SentObjectAck) : Prop :=
  ∃ run, Handled w i prepared run ∧ Attests run ack

inductive Verdict
  | success
  | sendFailure
  | timedOut
  | failed

/-- How a caller reads a `SendResult`. -/
def SendResult.shows (r : SendResult) : Verdict → Prop
  | .success => r.success = true
  | .sendFailure => r.sendFailure = true
  | .timedOut => r.timedOut = true
  | .failed => r.success = false ∧ ∃ e, r.exceptionData = some e

/-- What a confirmed call knows when it returns `result`. -/
inductive Confirmed (w : World) (i : Nat) (prepared : Prepared) : SendResult → Prop
  | consumed {run} (handled : Handled w i prepared run) (consumed : run.Consumed) :
      Confirmed w i prepared ⟨true, false, none, false⟩
  | failed {run e} (handled : Handled w i prepared run) (failed : run.Failed) :
      Confirmed w i prepared ⟨false, false, some e, false⟩
  | notSent : Confirmed w i prepared ⟨false, true, none, false⟩
  | timedOut : Confirmed w i prepared ⟨false, false, none, true⟩

section Provenance

variable {hosts : Hosts} {w w' : World} {i : Nat} {c : SendCall} {prepared : Prepared}

theorem Confirmed.verdict {result : SendResult} (h : Confirmed w i prepared result) :
    ∃! v, result.shows v := by
  cases h with
  | consumed => exact ⟨.success, rfl, fun v hv => by cases v <;> simp_all [SendResult.shows]⟩
  | @failed _ e => exact ⟨.failed, ⟨rfl, e, rfl⟩, fun v hv => by cases v <;> simp_all [SendResult.shows]⟩
  | notSent => exact ⟨.sendFailure, rfl, fun v hv => by cases v <;> simp_all [SendResult.shows]⟩
  | timedOut => exact ⟨.timedOut, rfl, fun v hv => by cases v <;> simp_all [SendResult.shows]⟩

/-- What an ack says is what the sender reads off it. -/
theorem Acknowledges.confirmed {ack : SentObjectAck} (h : Acknowledges w i prepared ack) :
    Confirmed w i prepared ⟨ack.success, false, ack.exceptionData, false⟩ := by
  obtain ⟨run, handled, _, ⟨hs, hn, consumed⟩ | ⟨hs, ⟨e, he⟩, failed⟩⟩ := h
  · rw [hs, hn]
    exact .consumed handled consumed
  · rw [hs, he]
    exact .failed handled failed

/-- What was handled was published, and what an awaiter got did arrive. -/
structure Acked (w : World) : Prop where
  messageRuns : ∀ h ∈ w.messageRuns, w.delivers (.message h.message) = true
  results : ∀ {n u : Nat} {a : Awaiter Guid MediatorRef SentObjectAck Abort} {v : SentObjectAck},
    (w.targetAckWaiters n).awaiters[u]? = some a → a.result = some v → w.acknowledges v = true

/-- What a send call knows of the id it drew: nobody else publishes under it. -/
structure Sent (w : World) (i : Nat) (c : SendCall) (prepared : Prepared) : Prop where
  drawn : (prepared.message.correlationId, i) ∈ w.issued
  waiter : ∀ u, prepared.waiter = some u →
    Knows (w.targetAckWaiters c.mediator.multiplexer) prepared.message.correlationId u
  messages : ∀ p ∈ w.messages, p.body.correlationId = prepared.message.correlationId →
    p.call = i ∧ p.body = prepared.message
  requests : ∀ p ∈ w.requests, p.body.correlationId ≠ prepared.message.correlationId
  reissued : ∀ p ∈ w.reissued, p.2.correlationId ≠ prepared.message.correlationId
  confirms : prepared.waiter.isSome = c.confirmPublish

/-- A message with the id of a call can only be the one the call published. -/
theorem Sent.handled {run : MessageRun} (sent : Sent w i c prepared) (good : Good w) (acked : Acked w)
    (hr : run ∈ w.messageRuns) (hid : run.message.correlationId = prepared.message.correlationId) :
    Handled w i prepared run := by
  have arrived := acked.messageRuns run hr
  cases hm : run.message with
  | message m =>
    simp only [hm, World.delivers, List.any_eq_true, decide_eq_true_eq] at arrived
    obtain ⟨p, hp, hb⟩ := arrived
    obtain ⟨hi, he⟩ := sent.messages p hp (by rw [hb, ← hid, hm])
    refine ⟨hr, ?_, p, hp, hi, he⟩
    rw [hm, ← he, hb]
    rfl
  | response r =>
    have hid : r.correlationId = prepared.message.correlationId := by rw [← hid, hm]; rfl
    simp only [hm, World.delivers] at arrived
    rcases Bool.or_eq_true_iff.mp arrived with hq | hp
    · -- a consumer answered with it, under the id of a request
      obtain ⟨h, hh, hr⟩ := List.any_eq_true.mp hq
      rcases World.carries_iff.mp (good.carries hh (by simpa using hr)) with ⟨p, hp, own⟩ | ⟨p, hp, own⟩
      · exact absurd (own.trans hid) (sent.requests p hp)
      · exact absurd (own.trans hid) (sent.reissued p hp)
    · obtain ⟨p, hp, hm'⟩ := List.any_eq_true.mp hp
      split at hm'
      next posted hs =>
        have same : posted.overTheWire = r := by simpa using hm'
        obtain ⟨hi, he⟩ := sent.messages p hp (by rw [hs, ← hid, ← same]; rfl)
        refine ⟨hr, ?_, p, hp, hi, he⟩
        rw [hm, ← he, hs, ← same]
        rfl
      next => cases hm'

/-- An ack with the id of a call can only be about its message. -/
theorem Sent.acknowledges {ack : SentObjectAck} (sent : Sent w i c prepared) (good : Good w)
    (acked : Acked w) (arrived : w.acknowledges ack = true)
    (hid : ack.correlationId = prepared.message.correlationId) : Acknowledges w i prepared ack := by
  obtain ⟨run, hr, ha⟩ := List.any_eq_true.mp arrived
  have attests := attests_of_mem_acks (h := run) (by simpa using ha)
  exact ⟨run, sent.handled good acked hr (attests.correlationId.symm.trans hid), attests⟩

/-- The ack an awaiter holds, read by the call that owns the awaiter, is about its message. -/
theorem Sent.acknowledges_result {u : Nat} {a : Awaiter Guid MediatorRef SentObjectAck Abort}
    {ack : SentObjectAck} (sent : Sent w i c prepared) (good : Good w) (acked : Acked w)
    (kept : Kept ackProtocol (w.targetAckWaiters c.mediator.multiplexer)) (hu : prepared.waiter = some u)
    (ha : (w.targetAckWaiters c.mediator.multiplexer).awaiters[u]? = some a) (hr : a.result = some ack) :
    Acknowledges w i prepared ack := by
  obtain ⟨b, hb, hid⟩ := sent.waiter u hu
  cases ha.symm.trans hb
  exact sent.acknowledges good acked (acked.results ha hr) ((kept.keyed ha hr).trans hid)

end Provenance

section Growth

variable {hosts : Hosts} {w w' : World} {i j : Nat} {x : Occurrence} {t t' : Thread} {prepared : Prepared}

theorem RequestCall.Step.messageRuns {c c' : RequestCall} (hs : c.Step hosts w i x w' c') :
    w'.messageRuns = w.messageRuns := by
  cases hs with
  | @published _ _ _ _ taken | @failed _ _ _ _ taken | @escaped _ _ _ _ taken => cases taken <;> rfl
  | _ => rfl

theorem SendCall.Step.messageRuns {c c' : SendCall} (hs : c.Step hosts w i x w' c') :
    w'.messageRuns = w.messageRuns := by
  cases hs with
  | prepared =>
    unfold addWaiter
    split <;> rfl
  | @published _ _ _ _ taken | @unconfirmed _ _ _ _ taken | @escaped _ _ _ _ taken => cases taken <;> rfl
  | @failed _ _ _ _ taken => split <;> cases taken <;> rfl
  | _ => rfl

/-- What was not handled before is the message of the delivery that stepped. -/
theorem Thread.Step.messageRuns (hs : t.Step hosts w i x w' t') :
    (∀ h ∈ w.messageRuns, h ∈ w'.messageRuns) ∧
      ∀ h ∈ w'.messageRuns, h ∈ w.messageRuns ∨ ∃ m, t = .delivery m (.message h.message) false := by
  have stays : w'.messageRuns = w.messageRuns → (∀ h ∈ w.messageRuns, h ∈ w'.messageRuns) ∧
      ∀ h ∈ w'.messageRuns, h ∈ w.messageRuns ∨ ∃ m, t = .delivery m (.message h.message) false :=
    fun same => ⟨fun h hh => same ▸ hh, fun h hh => Or.inl (same ▸ hh)⟩
  cases hs with
  | request hs => exact stays hs.messageRuns
  | send hs => exact stays hs.messageRuns
  | @delivered m o environment =>
    cases o with
    | request q => exact stays rfl
    | message message =>
      refine ⟨fun h hh => List.mem_cons_of_mem _ hh, fun h hh => ?_⟩
      rcases List.mem_cons.mp hh with rfl | hh
      · exact Or.inr ⟨m, rfl⟩
      · exact Or.inl hh
  | response | ack => exact stays rfl
  | disposal hs => exact stays hs.quiet.messageRuns

theorem Grows.delivers (g : Grows i w w') {m : IMessage} (h : w.delivers (.message m) = true) :
    w'.delivers (.message m) = true := by
  cases m with
  | message m =>
    obtain ⟨p, hp, hb⟩ := List.any_eq_true.mp h
    exact List.any_eq_true.mpr ⟨p, g.messages p hp, hb⟩
  | response r => exact g.responds h

theorem World.acknowledges_of_kept (kept : ∀ h ∈ w.messageRuns, h ∈ w'.messageRuns) {ack : SentObjectAck}
    (h : w.acknowledges ack = true) : w'.acknowledges ack = true := by
  obtain ⟨run, hr, ha⟩ := List.any_eq_true.mp h
  exact List.any_eq_true.mpr ⟨run, kept run hr, ha⟩

theorem Handled.grows {run : MessageRun} (g : Grows i w w') (kept : ∀ h ∈ w.messageRuns, h ∈ w'.messageRuns)
    (h : Handled w j prepared run) : Handled w' j prepared run := by
  obtain ⟨recorded, message, p, hp, own⟩ := h
  exact ⟨kept _ recorded, message, p, g.messages p hp, own⟩

theorem Confirmed.grows {result : SendResult} (g : Grows i w w')
    (kept : ∀ h ∈ w.messageRuns, h ∈ w'.messageRuns) (h : Confirmed w j prepared result) :
    Confirmed w' j prepared result := by
  cases h with
  | consumed handled consumed => exact .consumed (handled.grows g kept) consumed
  | failed handled failed => exact .failed (handled.grows g kept) failed
  | notSent => exact .notSent
  | timedOut => exact .timedOut

/-- A thread cannot take away what another send call knows of its own id. -/
theorem Sent.grows {c : SendCall} (g : Grows i w w') (good : Good w) (hij : j ≠ i)
    (evolves : (w.targetAckWaiters c.mediator.multiplexer).Evolves
      (w'.targetAckWaiters c.mediator.multiplexer))
    (h : Sent w j c prepared) : Sent w' j c prepared := by
  refine ⟨g.issued _ h.drawn, fun u hu => (h.waiter u hu).evolves evolves, fun p hp hid => ?_,
    fun p hp hid => ?_, fun p hp hid => ?_, h.confirms⟩
  · rcases g.sent p hp with hp | ⟨_, hi⟩
    · exact h.messages p hp hid
    · exact absurd (good.owner h.drawn (hid ▸ hi)) hij
  · rcases g.published p hp with hp | ⟨_, hi⟩
    · exact h.requests p hp hid
    · exact absurd (good.owner h.drawn (hid ▸ hi)) hij
  · rcases g.written p hp with old | ⟨_, fresh⟩
    · exact h.reissued p old hid
    · exact World.not_mem_issued (hid ▸ fresh) j h.drawn

end Growth

section Ownership

variable {hosts : Hosts} {w w' : World} {i : Nat} {x : Occurrence} {c c' : SendCall} {prepared : Prepared}

theorem Sent.goesTo (h : Sent w i c prepared) (phase : SendPhase) : Sent w i (c.goesTo phase) prepared :=
  ⟨h.drawn, h.waiter, h.messages, h.requests, h.reissued, h.confirms⟩

theorem Sent.removeWaiter (h : Sent w i c prepared) : Sent (c.removeWaiter w prepared.message) i c prepared := by
  refine ⟨h.drawn, fun u hu => ?_, h.messages, h.requests, h.reissued, h.confirms⟩
  rw [SendCall.removeWaiter, World.targetAckWaiters_setTargetAckWaiters_self]
  exact (h.waiter u hu).evolves (evolves_remove _ _)

theorem Sent.handOver {s : MultiplexerState} {taken : Bool} (h : Sent w i c prepared)
    (same : s.targetAckWaiters = w.targetAckWaiters c.mediator.multiplexer) :
    Sent (c.handOver w i prepared prepared.message s taken) i c prepared := by
  have waiter : ∀ u, prepared.waiter = some u →
      Knows ((c.handOver w i prepared prepared.message s taken).targetAckWaiters c.mediator.multiplexer)
        prepared.message.correlationId u := by
    intro u hu
    rw [SendCall.targetAckWaiters_handOver same]
    exact h.waiter u hu
  cases taken with
  | false => exact ⟨h.drawn, waiter, h.messages, h.requests, h.reissued, h.confirms⟩
  | true =>
    refine ⟨h.drawn, waiter, fun p hp hid => ?_, h.requests, h.reissued, h.confirms⟩
    rcases List.mem_cons.mp hp with rfl | hp
    · exact ⟨rfl, rfl⟩
    · exact h.messages p hp hid

/-- A send call that draws its id owns it from then on. -/
theorem SendCall.Step.sent_prepared {id : Guid} {address : Address} (good : Good w)
    (fresh : w.fresh id = true) (phase : SendPhase) :
    Sent (c.addWaiter w i id) i (c.goesTo phase) (c.preparedAs hosts w id address) := by
  have message : (c.preparedAs hosts w id address).message.correlationId = id := by
    simp only [preparedAs, IMessage.issued]
    cases c.message <;> rfl
  have same : (c.addWaiter w i id).messages = w.messages ∧ (c.addWaiter w i id).requests = w.requests ∧
      (c.addWaiter w i id).reissued = w.reissued := by
    unfold addWaiter
    split <;> exact ⟨rfl, rfl, rfl⟩
  constructor
  · rw [message]
    exact List.mem_cons_self
  · intro u hu
    cases confirm : c.confirmPublish with
    | false => simp [preparedAs, confirm] at hu
    | true =>
      simp only [preparedAs, confirm, if_true, Option.some.injEq] at hu
      have knows : Knows ((c.addWaiter w i id).targetAckWaiters c.mediator.multiplexer) id
          (w.targetAckWaiters c.mediator.multiplexer).awaiters.length := by
        rw [targetAckWaiters_addWaiter confirm]
        exact ⟨_, awaiters_add_new _ _ _, rfl⟩
      rw [message, ← hu]
      exact knows
  · intro p hp hid
    rw [message] at hid
    exact absurd (hid ▸ good.messages p (same.1 ▸ hp)) (World.not_mem_issued fresh _)
  · intro p hp hid
    rw [message] at hid
    exact absurd (hid ▸ good.requests p (same.2.1 ▸ hp)) (World.not_mem_issued fresh _)
  · intro p hp hid
    rw [message] at hid
    obtain ⟨j, hj⟩ := good.reissued p (same.2.2 ▸ hp)
    exact World.not_mem_issued fresh j (hid ▸ hj)
  · cases confirm : c.confirmPublish <;> simp [preparedAs, goesTo, confirm]

/-- A send call keeps what it knows of its id, whatever it does. -/
theorem SendCall.Step.sent (hs : c.Step hosts w i x w' c') (good : Good w)
    (old : ∀ prepared, c.phase.prepared = some prepared → Sent w i c prepared)
    (hp : c'.phase.prepared = some prepared) : Sent w' i c' prepared := by
  cases hs with
  | prelude _ after => simp [SendCall.goesTo, after.prepared] at hp
  | prepared before fresh =>
    cases hp
    exact sent_prepared good fresh _
  | published before same after =>
    rcases after with ⟨_, _, rfl⟩ | ⟨_, rfl⟩ <;> cases hp <;>
      exact ((old _ (by rw [before]; rfl)).handOver same.2).goesTo _
  | unconfirmed before same | escaped before same =>
    cases hp
    exact ((old _ (by rw [before]; rfl)).handOver same.2).goesTo _
  | @failed _ _ _ s taken _ before same =>
    cases hp
    have kept : Sent (c.handOver w i prepared prepared.message s taken) i c prepared :=
      (old _ (by rw [before]; rfl)).handOver same.2
    split
    · exact kept.removeWaiter.goesTo _
    · exact kept.goesTo _
  | answered before =>
    unfold readAck at hp ⊢
    split at hp <;> cases hp <;> exact (old _ (by rw [before]; rfl)).goesTo _
  | delayed before | rejected before | aborted before | timedOut before =>
    cases hp
    exact (old _ (by rw [before]; rfl)).goesTo _
  | cancelled before =>
    cases hp
    exact (old _ (by rw [before]; rfl)).removeWaiter.goesTo _

/-- The awaiter a call waits on is the one it prepared. -/
def SendPhase.WaitsOnOwn : SendPhase → Prop
  | .delaying prepared waiter | .waiting _ prepared waiter => prepared.waiter = some waiter
  | _ => True

theorem SendCall.Step.waitsOnOwn (hs : c.Step hosts w i x w' c') (h : c.phase.WaitsOnOwn) :
    c'.phase.WaitsOnOwn := by
  cases hs with
  | @prelude _ phase _ after => cases phase <;> trivial
  | published _ _ after => rcases after with ⟨_, hw, rfl⟩ | ⟨_, rfl⟩ <;> first | exact hw | trivial
  | delayed before => rw [before] at h; exact h
  | answered =>
    unfold readAck
    split <;> trivial
  | _ => trivial

/-- Only the awaited ack gives a confirmed call a result that tells of a consumer. -/
theorem SendCall.Step.confirmed (hs : c.Step hosts w i x w' c') (good : Good w) (acked : Acked w)
    (kept : Kept ackProtocol (w.targetAckWaiters c.mediator.multiplexer)) (waits : c.phase.WaitsOnOwn)
    (own : ∀ prepared, c.phase.prepared = some prepared → Sent w i c prepared)
    (confirms : c'.confirmPublish = true) {o : Option Prepared} {result : SendResult}
    (he : c'.phase = .ended o (.returned result)) :
    ∃ prepared, o = some prepared ∧ Confirmed w' i prepared result := by
  cases hs with
  | @prelude _ phase before after =>
    have he : phase = .ended o (.returned result) := he
    rw [he] at after
    cases o <;> exact after.elim
  | published before _ after => rcases after with ⟨_, _, rfl⟩ | ⟨_, rfl⟩ <;> cases he
  | @unconfirmed _ _ prepared _ _ before _ unwanted =>
    have wanted := (own prepared (by rw [before]; rfl)).confirms
    have confirms : c.confirmPublish = true := confirms
    rw [unwanted, confirms] at wanted
    cases wanted
  | failed => cases he; exact ⟨_, rfl, .notSent⟩
  | timedOut => cases he; exact ⟨_, rfl, .timedOut⟩
  | @answered prepared _ waiter before =>
    have sent := own prepared (by rw [before]; rfl)
    have hw : prepared.waiter = some waiter := by rw [before] at waits; exact waits
    unfold readAck at he
    split at he
    next ack hr =>
      cases he
      obtain ⟨a, ha, hv⟩ := Option.bind_eq_some_iff.mp hr
      exact ⟨prepared, rfl, (sent.acknowledges_result good acked kept hw ha hv).confirmed⟩
    next => cases he
  | _ => cases he

end Ownership

section Runs

variable {hosts : Hosts} {w w' : World} {i : Nat} {x : Occurrence} {t t' : Thread}

/-- What holds of the acks where a thread stands. -/
def Thread.AtAcks (w : World) (i : Nat) : Thread → Prop
  | .send c => c.phase.WaitsOnOwn ∧ (∀ prepared, c.phase.prepared = some prepared → Sent w i c prepared) ∧
      ∀ o result, c.phase = .ended o (.returned result) → c.confirmPublish = true →
        ∃ prepared, o = some prepared ∧ Confirmed w i prepared result
  | .delivery _ (.message m) _ => w.delivers (.message m) = true
  | .ack _ handler => ∀ v, handler.reply = some v → w.acknowledges v = true
  | _ => True

theorem Thread.atAcks_of_start (h : t.start w = true) : t.AtAcks w i := by
  cases t with
  | send c =>
    simp only [Thread.start] at h
    split at h
    next he => simp [AtAcks, he, SendPhase.WaitsOnOwn, SendPhase.prepared]
    next => cases h
  | delivery m o done =>
    cases o with
    | request => trivial
    | message => exact (Bool.and_eq_true_iff.mp h).1
  | ack k handler =>
    cases handler with
    | received v => rintro _ ⟨⟩; exact h
    | _ => cases h
  | _ => trivial

theorem Thread.AtAcks.grows {j : Nat} (h : t.AtAcks w j) (g : Grows i w w')
    (kept : ∀ h ∈ w.messageRuns, h ∈ w'.messageRuns) (good : Good w) (hij : j ≠ i)
    (evolves : ∀ n, (w.targetAckWaiters n).Evolves (w'.targetAckWaiters n)) : t.AtAcks w' j := by
  cases t with
  | send c =>
    refine ⟨h.1, fun prepared hp => (h.2.1 prepared hp).grows g good hij (evolves _), ?_⟩
    intro o result he confirms
    obtain ⟨prepared, ho, confirmed⟩ := h.2.2 o result he confirms
    exact ⟨prepared, ho, confirmed.grows g kept⟩
  | delivery m o done =>
    cases o with
    | request => trivial
    | message => exact g.delivers h
  | ack k handler => exact fun v hv => World.acknowledges_of_kept kept (h v hv)
  | _ => trivial

theorem Thread.ack_of_handler {n : Nat} {handler : Handler SentObjectAck}
    (h : t.ackParty n = .handler handler) : t = .ack n handler := by
  cases t with
  | send c =>
    simp only [ackParty, SendCall.party] at h
    split at h
    · split at h
      · split at h <;> cases h
      all_goals cases h
    · cases h
  | ack k handler =>
    simp only [ackParty] at h
    split at h
    next hk => cases h; exact hk ▸ rfl
    next => cases h
  | disposal d =>
    simp only [ackParty, Disposal.ackParty] at h
    split at h
    · split at h <;> cases h
    · cases h
  | _ => cases h

theorem Acked.initial : Acked .initial := by
  constructor <;> simp [World.initial, World.targetAckWaiters, Registry.empty]

/-- A thread that moves the awaiters leaves only acks that did arrive. -/
theorem Acked.step (acked : Acked w) (known : Known w) (g : Grows i w w') (h : t.AtAcks w i)
    (hs : t.Step hosts w i x w' t') : Acked w' := by
  obtain ⟨kept, handled⟩ := hs.messageRuns
  constructor
  · intro r hr
    rcases handled r hr with hr | ⟨m, rfl⟩
    · exact g.delivers (acked.messageRuns r hr)
    · exact g.delivers h
  · intro n u a v ha hv
    refine World.acknowledges_of_kept kept ?_
    cases hs.movesAcks known.unused n with
    | stays same => exact acked.results (same ▸ ha) hv
    | steps y step =>
      rcases (Party.step_of_next step).result ha hv with ⟨b, hb, hbv⟩ | ⟨z, hz | hz⟩
      · exact acked.results hb hbv
      · cases Thread.ack_of_handler hz
        exact h v rfl
      · cases Thread.ack_of_handler hz
        exact h v rfl

theorem Thread.Step.atAcks_own (hs : t.Step hosts w i x w' t') (good : Good w) (acked : Acked w)
    (kept : ∀ n, Kept ackProtocol (w.targetAckWaiters n)) (g : Grows i w w') (h : t.AtAcks w i) :
    t'.AtAcks w' i := by
  cases hs with
  | send hs =>
    obtain ⟨waits, own, _⟩ := h
    exact ⟨hs.waitsOnOwn waits, fun prepared hp => hs.sent good own hp, fun o result he confirms =>
      hs.confirmed good acked (kept _) waits own confirms he⟩
  | @delivered m o environment =>
    cases o with
    | request => trivial
    | message => exact g.delivers h
  | ack hn =>
    exact fun v hv => World.acknowledges_of_kept (fun _ h => h) (h v (Handler.reply_next hn hv))
  | request | response | disposal => trivial

theorem acked_of_reachable {c : Config World Thread} (h : Reachable (system hosts) System.init c) :
    Acked c.shared ∧ ∀ (i : Nat) (t : Thread), c.pool[i]? = some t → t.AtAcks c.shared i := by
  refine h.invariant (P := fun c => Acked c.shared ∧ ∀ (i : Nat) (t : Thread), c.pool[i]? = some t →
    t.AtAcks c.shared i) ⟨Acked.initial, by simp [System.init]⟩ ?_
  intro c d a hc linked _ hd
  obtain ⟨acked, at_⟩ := linked
  obtain ⟨good, links⟩ := linked_of_reachable hc.reachable
  cases a with
  | start t =>
    obtain ⟨hs, rfl⟩ := act_start hd
    refine ⟨acked, fun i u hu => ?_⟩
    rcases pool_append_cases hu with hu | ⟨_, rfl⟩
    · exact at_ i u hu
    · exact Thread.atAcks_of_start hs
  | step i x =>
    have evolves := acks_evolve hc.reachable hd
    obtain ⟨t, s, t', ht, (hn : t.next hosts c.shared i x = some (s, t')), rfl⟩ := act_step hd
    have hs := Thread.step_of_next hn
    have own := at_ i t ht
    have g := hs.grows (links i t ht)
    refine ⟨acked.step (known_of_reachable hc.reachable) g own hs, fun j u hu => ?_⟩
    rcases pool_set_cases ht hu with ⟨rfl, rfl⟩ | ⟨hj, hu⟩
    · exact hs.atAcks_own good acked (fun n => (acks_kept hc.reachable n).1) g own
    · exact (at_ j u hu).grows g hs.messageRuns.1 good hj evolves

end Runs

/-- A confirmed call returns the truth about its own message: a success only after some `Consume` of it,
exception data only after a failed run for it, always just one of the four outcomes, and no handler works
on its awaiter with an ack for another message. -/
theorem send_confirmed {hosts : Hosts} {c : Config World Thread}
    (h : Reachable (system hosts) System.init c) :
    (∀ (i : Nat) call o result, c.pool[i]? = some (.send call) → call.confirmPublish = true →
      call.phase = .ended o (.returned result) → ∃ prepared, o = some prepared ∧
        (result.success = true → ∃ run, Handled c.shared i prepared run ∧ run.Consumed) ∧
        (∀ e, result.exceptionData = some e → ∃ run, Handled c.shared i prepared run ∧ run.Failed) ∧
        ∃! v, result.shows v) ∧
    (∀ (j : Nat) n handler ack u, c.pool[j]? = some (.ack n handler) → handler.target = some (ack, u) →
      ∀ (i : Nat) call prepared, c.pool[i]? = some (.send call) → call.phase.prepared = some prepared →
        call.mediator.multiplexer = n → prepared.waiter = some u →
          Acknowledges c.shared i prepared ack) := by
  obtain ⟨good, _⟩ := linked_of_reachable h
  obtain ⟨acked, at_⟩ := acked_of_reachable h
  refine ⟨fun i call o result hi confirms he => ?_, fun j n handler ack u hj ht i call prepared hi hp hn hu => ?_⟩
  · obtain ⟨prepared, ho, confirmed⟩ := (at_ i _ hi).2.2 o result he confirms
    refine ⟨prepared, ho, fun hs => ?_, fun e hd => ?_, confirmed.verdict⟩
    · cases confirmed with
      | consumed handled consumed => exact ⟨_, handled, consumed⟩
      | _ => cases hs
    · cases confirmed with
      | failed handled failed => exact ⟨_, handled, failed⟩
      | _ => cases hd
  · have sent := (at_ i _ hi).2.1 prepared hp
    obtain ⟨b, hb, hid⟩ := sent.waiter u hu
    obtain ⟨a, ha, hkey⟩ := Handler.knows_target ((acks_kept h n).2 j (.handler handler)
      (by simp [ackView, hj, Thread.ackParty])) ht
    subst hn
    cases ha.symm.trans hb
    have reply : handler.reply = some ack := by
      cases handler <;> first | (cases ht; rfl) | cases ht
    exact sent.acknowledges good acked (at_ j _ hj ack reply) (hkey.symm.trans hid)

def Thread.returned : Thread → Option (SendCall × Option Prepared × SendResult)
  | .send call => match call.phase with
    | .ended o (.returned result) => some (call, o, result)
    | _ => none
  | _ => none

theorem Thread.eq_of_returned {t : Thread} {call : SendCall} {o : Option Prepared} {result : SendResult}
    (h : t.returned = some (call, o, result)) :
    t = .send call ∧ call.phase = .ended o (.returned result) := by
  cases t with
  | send c =>
    simp only [returned] at h
    split at h
    next hp => cases h; exact ⟨rfl, hp⟩
    next => cases h
  | _ => cases h

def testSentMessage : IMessage :=
  (IMessage.message testMessage).issued testMediator.getInstanceInformation ⟨9⟩ true

/-- A message is published, consumed and acknowledged, and its call returns. -/
def testConfirmedRun : List (Action Thread Occurrence) :=
  .start (.send testSend) :: steps 0 ([.checked false, .drew ⟨9⟩] ++ publishes) ++
    [.start (.delivery ⟨0, 0⟩ (.message testSentMessage) false)] ++
    steps 1 [.handled (testEnvironment (.message testSentMessage))] ++
    [.start (.ack 0 (.received ⟨⟨9⟩, true, none, testMediator.instanceId.value⟩))] ++
    steps 2 [.go, .go, .go] ++ steps 0 [.completed]

theorem testSend_confirmed :
    ∃ c, (system testHosts).run (fun _ _ => true) System.init testConfirmedRun = some c ∧
      ∃ prepared run, Handled c.shared 0 prepared run ∧ run.Consumed := by
  have h : ((system testHosts).run (fun _ _ => true) System.init testConfirmedRun).any (fun c =>
      (c.pool[0]?.bind Thread.returned).any fun r => r.1.confirmPublish && r.2.2.success) = true := by decide +kernel
  obtain ⟨c, hc, ha⟩ := (Option.any_eq_true _ _).mp h
  obtain ⟨⟨call, o, result⟩, hb, hr⟩ := (Option.any_eq_true _ _).mp ha
  obtain ⟨t, ht, returned⟩ := Option.bind_eq_some_iff.mp hb
  obtain ⟨rfl, hp⟩ := Thread.eq_of_returned returned
  obtain ⟨confirms, success⟩ := Bool.and_eq_true_iff.mp hr
  obtain ⟨prepared, _, consumed, _⟩ := (send_confirmed (.of_run .start (fun _ _ _ => trivial) hc)).1
    0 call o result ht confirms hp
  obtain ⟨run, handled, ran⟩ := consumed success
  exact ⟨c, hc, prepared, run, handled, ran⟩

end RabbitMediator
