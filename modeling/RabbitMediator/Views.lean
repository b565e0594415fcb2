import RabbitMediator.RendezvousRuns
import RabbitMediator.System

namespace RabbitMediator

open Interleaving Registry Rendezvous

abbrev ResponseParty := Party Guid MediatorRef Response Abort

abbrev AckParty := Party Guid MediatorRef SentObjectAck Abort

/-- A call with an awaiter is its client until it ends. -/
def RequestCall.party (c : RequestCall) : ResponseParty :=
  match c.phase with
  | .publishing _ issued | .delaying issued | .waiting issued =>
    .client issued.request.correlationId issued.waiter
  | _ => .idle

def SendCall.party (c : SendCall) : AckParty :=
  match c.phase with
  | .publishing _ prepared =>
    match prepared.waiter with
    | some waiter => .client prepared.message.correlationId waiter
    | none => .idle
  | .delaying prepared waiter | .waiting _ prepared waiter =>
    .client prepared.message.correlationId waiter
  | _ => .idle

def Disposal.responseParty (d : Disposal) : ResponseParty :=
  match d.phase with
  | .abortingResponses walk => .aborter d.ownerPredicate .disposed walk
  | _ => .idle

def Disposal.ackParty (d : Disposal) : AckParty :=
  match d.phase with
  | .abortingAcks walk => .aborter d.ownerPredicate .disposed walk
  | _ => .idle

/-- What a thread is at the response awaiters of multiplexer `n`. -/
def Thread.responseParty (n : Nat) : Thread → ResponseParty
  | .request call => if call.mediator.multiplexer = n then call.party else .idle
  | .response k handler => if k = n then .handler handler else .idle
  | .disposal d => if d.multiplexer = n then d.responseParty else .idle
  | _ => .idle

/-- What a thread is at the ack awaiters of multiplexer `n`. -/
def Thread.ackParty (n : Nat) : Thread → AckParty
  | .send call => if call.mediator.multiplexer = n then call.party else .idle
  | .ack k handler => if k = n then .handler handler else .idle
  | .disposal d => if d.multiplexer = n then d.ackParty else .idle
  | _ => .idle

def responseView (n : Nat) (c : Config World Thread) : Config ResponseWaiters ResponseParty :=
  ⟨c.shared.responseWaiters n, c.pool.map (Thread.responseParty n)⟩

def ackView (n : Nat) (c : Config World Thread) : Config TargetAckWaiters AckParty :=
  ⟨c.shared.targetAckWaiters n, c.pool.map (Thread.ackParty n)⟩

/-- The call goes with an exception that leaves its awaiter where it is. -/
def RequestCall.abandons (c : RequestCall) (x : Occurrence) : Bool :=
  match c.phase with
  | .publishing _ _ => x.failure.any fun e => !e.isRabbitMQClientException
  | .delaying issued => !issued.timeOut.timerAccepts
  | _ => false

/-- The call goes without removing its awaiter: by an exception, or because its timer elapsed. -/
def SendCall.abandons (hosts : Hosts) (w : World) (c : SendCall) (x : Occurrence) : Bool :=
  match c.phase, x with
  | .publishing _ prepared, x =>
    prepared.waiter.isSome && x.failure.any fun e => !e.isRabbitMQClientException
  | .delaying _ _, _ => !(w.mediators c.mediator).registered || !(c.useTimeout hosts).timerAccepts
  | .waiting _ _ _, .elapsed cancelled => !cancelled
  | _, _ => false

/-- What the registries need to know of a move: which ids are new, and when a client just goes. -/
def Fair {κ ω ρ ε : Type} (issued : κ → Prop) (abandons : Prop) : Input κ ω ρ ε → Prop
  | .enter id _ => issued id
  | .abandon => abandons
  | _ => True

theorem Fair.weaken {κ ω ρ ε : Type} {issued : κ → Prop} {abandons : Prop} {y : Input κ ω ρ ε}
    (h : Fair issued False y) : Fair issued abandons y := by
  cases y with
  | abandon => exact h.elim
  | _ => exact h

section RequestCalls

variable {hosts : Hosts} {w w' : World} {i : Nat} {c c' : RequestCall} {x : Occurrence}

theorem RequestCall.responseWaiters_handOver {issued : Issued} {s : MultiplexerState} {taken : Bool}
    (same : s.responseWaiters = w.responseWaiters c.mediator.multiplexer) (n : Nat) :
    (c.handOver w i issued s taken).responseWaiters n = w.responseWaiters n := by
  have h := World.responseWaiters_setMultiplexer same n
  cases taken <;> exact h

theorem RequestCall.targetAckWaiters_handOver {issued : Issued} {s : MultiplexerState} {taken : Bool}
    (same : s.targetAckWaiters = w.targetAckWaiters c.mediator.multiplexer) (n : Nat) :
    (c.handOver w i issued s taken).targetAckWaiters n = w.targetAckWaiters n := by
  have h := World.targetAckWaiters_setMultiplexer same n
  cases taken <;> exact h

theorem RequestCall.party_of_unissued (c : RequestCall) {phase : RequestPhase} (h : phase.Unissued) :
    (c.goesTo phase).party = .idle := by
  cases phase <;> first | rfl | exact h.elim

theorem RequestCall.Step.mediator (hs : c.Step hosts w i x w' c') : c'.mediator = c.mediator := by
  cases hs <;> rfl

/-- A request call has nothing to do with acks, nor with the awaiters of other multiplexers. -/
theorem RequestCall.Step.targetAckWaiters (hs : c.Step hosts w i x w' c') (n : Nat) :
    w'.targetAckWaiters n = w.targetAckWaiters n := by
  cases hs with
  | issued => exact World.targetAckWaiters_setResponseWaiters _
  | published _ same | escaped _ same => exact targetAckWaiters_handOver same.2 n
  | failed _ same =>
    exact (World.targetAckWaiters_setResponseWaiters _).trans (targetAckWaiters_handOver same.2 n)
  | gaveUp => exact World.targetAckWaiters_setResponseWaiters _
  | _ => rfl

theorem RequestCall.Step.responseWaiters_ne (hs : c.Step hosts w i x w' c') {n : Nat}
    (hn : n ≠ c.mediator.multiplexer) : w'.responseWaiters n = w.responseWaiters n := by
  cases hs with
  | issued => exact World.responseWaiters_setResponseWaiters_ne _ hn
  | published _ same | escaped _ same => exact responseWaiters_handOver same.1 n
  | failed _ same =>
    exact (World.responseWaiters_setResponseWaiters_ne _ hn).trans (responseWaiters_handOver same.1 n)
  | gaveUp => exact World.responseWaiters_setResponseWaiters_ne _ hn
  | _ => rfl

/-- At the awaiters of its own multiplexer, each step of a call is a step of its party or none. -/
theorem RequestCall.Step.moves (hs : c.Step hosts w i x w' c')
    (unused : ∀ id, w.fresh id = true → ((w.responseWaiters c.mediator.multiplexer).awaiters.all
      fun a => a.correlationId ≠ id) = true) :
    Moves responseProtocol (Fair (fun id => (id, i) ∈ w'.issued) (c.abandons x = true))
      (w.responseWaiters c.mediator.multiplexer) (w'.responseWaiters c.mediator.multiplexer)
      c.party c'.party := by
  cases hs with
  | prelude before after =>
    exact .stays rfl ((party_of_unissued c after).trans (party_of_unissued c before).symm)
  | @issued id address before fresh =>
    have idle : c.party = .idle := by simp [party, before]
    refine .steps (.enter id c.mediator) ?_ List.mem_cons_self
    rw [idle, responseWaiters_addWaiter]
    exact if_pos (unused id fresh)
  | published before same after =>
    refine .stays (responseWaiters_handOver same.1 _) ?_
    rcases after with rfl | ⟨next, rfl⟩ <;> simp [party, goesTo, before]
  | failed before same =>
    refine .steps .leave ?_ trivial
    simp [party, before, Party.next, goesTo, removeWaiter, responseWaiters_handOver same.1]
  | escaped before same why unknown =>
    refine .steps .abandon ?_ (by simp [Fair, abandons, before, why, unknown])
    simp [party, before, Party.next, throws, goesTo, responseWaiters_handOver same.1]
  | delayed before => exact .stays rfl (by simp [party, goesTo, before])
  | rejected before why =>
    refine .steps .abandon ?_ ?_
    · simp [party, before, Party.next, throws, goesTo]
    · simp only [Fair, abandons, before, Bool.not_eq_true']
      by_contra h
      simp [TimeSpan.timer_ok_iff.mpr (by simpa using h)] at why
  | answered before done =>
    refine .steps .answered ?_ trivial
    simp [party, before, Party.next, goesTo, done]
  | aborted before done =>
    refine .steps .answered ?_ trivial
    simp [party, before, Party.next, throws, goesTo, done]
  | gaveUp before =>
    refine .steps .leave ?_ trivial
    simp [party, before, Party.next, goesTo, removeWaiter]

end RequestCalls

section SendCalls

variable {hosts : Hosts} {w w' : World} {i : Nat} {c c' : SendCall} {x : Occurrence}
  {current written : Prepared → IMessage}

theorem SendCall.responseWaiters_handOver {prepared : Prepared} {m : IMessage} {s : MultiplexerState} {taken : Bool}
    (same : s.responseWaiters = w.responseWaiters c.mediator.multiplexer) (n : Nat) :
    (c.handOver w i prepared m s taken).responseWaiters n = w.responseWaiters n := by
  have h := World.responseWaiters_setMultiplexer same n
  cases taken <;> exact h

theorem SendCall.targetAckWaiters_handOver {prepared : Prepared} {m : IMessage} {s : MultiplexerState} {taken : Bool}
    (same : s.targetAckWaiters = w.targetAckWaiters c.mediator.multiplexer) (n : Nat) :
    (c.handOver w i prepared m s taken).targetAckWaiters n = w.targetAckWaiters n := by
  have h := World.targetAckWaiters_setMultiplexer same n
  cases taken <;> exact h

theorem SendCall.party_of_unprepared (c : SendCall) {phase : SendPhase} (h : phase.Unprepared) :
    (c.goesTo phase).party = .idle := by
  cases phase <;> first | rfl | exact h.elim

theorem SendCall.party_readAck (c : SendCall) (prepared : Prepared) (waiter : Nat) (r : TargetAckWaiters) :
    (c.readAck prepared waiter r).party = .idle := by
  unfold readAck
  split <;> rfl

theorem SendCall.mediator_readAck (c : SendCall) (prepared : Prepared) (waiter : Nat) (r : TargetAckWaiters) :
    (c.readAck prepared waiter r).mediator = c.mediator := by
  unfold readAck
  split <;> rfl

theorem SendCall.StepWith.mediator (hs : c.StepWith current written hosts w i x w' c') : c'.mediator = c.mediator := by
  cases hs with
  | answered => exact mediator_readAck c _ _ _
  | _ => rfl

/-- A send call has nothing to do with responses, nor with the awaiters of other multiplexers. -/
theorem SendCall.StepWith.responseWaiters (hs : c.StepWith current written hosts w i x w' c') (n : Nat) :
    w'.responseWaiters n = w.responseWaiters n := by
  cases hs with
  | prepared =>
    unfold addWaiter
    split
    · exact World.responseWaiters_setTargetAckWaiters _
    · rfl
  | published _ same | unconfirmed _ same | escaped _ same => exact responseWaiters_handOver same.1 n
  | failed _ same =>
    split
    · exact (World.responseWaiters_setTargetAckWaiters _).trans (responseWaiters_handOver same.1 n)
    · exact responseWaiters_handOver same.1 n
  | cancelled => exact World.responseWaiters_setTargetAckWaiters _
  | _ => rfl

theorem SendCall.StepWith.targetAckWaiters_ne (hs : c.StepWith current written hosts w i x w' c') {n : Nat}
    (hn : n ≠ c.mediator.multiplexer) : w'.targetAckWaiters n = w.targetAckWaiters n := by
  cases hs with
  | prepared =>
    unfold addWaiter
    split
    · exact World.targetAckWaiters_setTargetAckWaiters_ne _ hn
    · rfl
  | published _ same | unconfirmed _ same | escaped _ same => exact targetAckWaiters_handOver same.2 n
  | failed _ same =>
    split
    · exact (World.targetAckWaiters_setTargetAckWaiters_ne _ hn).trans
        (targetAckWaiters_handOver same.2 n)
    · exact targetAckWaiters_handOver same.2 n
  | cancelled => exact World.targetAckWaiters_setTargetAckWaiters_ne _ hn
  | _ => rfl

/-- The call ends by `TryRemove` with the id that its message object carries. -/
def SendCall.removes (c : SendCall) (x : Occurrence) : Bool :=
  match c.phase, x with
  | .publishing _ prepared, x => prepared.waiter.isSome && x.failure.any Exception.isRabbitMQClientException
  | .waiting _ _ _, .elapsed cancelled => cancelled
  | _, _ => false

/-- At the awaiters of its own multiplexer, each step of a call is a step of its party or none, or else the call goes
with the entry that its message object names by then. -/
theorem SendCall.StepWith.moves (hs : c.StepWith current written hosts w i x w' c')
    (unused : ∀ id, w.fresh id = true → ((w.targetAckWaiters c.mediator.multiplexer).awaiters.all
      fun a => a.correlationId ≠ id) = true) :
    Moves ackProtocol (Fair (fun id => (id, i) ∈ w'.issued) (c.abandons hosts w x = true))
      (w.targetAckWaiters c.mediator.multiplexer) (w'.targetAckWaiters c.mediator.multiplexer)
      c.party c'.party ∨
    ∃ prepared u, c.phase.prepared = some prepared ∧ c.party = .client prepared.message.correlationId u ∧
      c'.party = .idle ∧ c.removes x = true ∧ w'.targetAckWaiters c.mediator.multiplexer =
        (w.targetAckWaiters c.mediator.multiplexer).remove (current prepared).correlationId := by
  cases hs with
  | prelude before after =>
    exact Or.inl (.stays rfl ((party_of_unprepared c after).trans (party_of_unprepared c before).symm))
  | @prepared id address before fresh =>
    have idle : c.party = .idle := by simp [party, before]
    have message : (c.preparedAs hosts w id address).message.correlationId = id := by
      simp only [preparedAs, IMessage.issued]
      cases c.message <;> rfl
    cases hc : c.confirmPublish with
    | false =>
      refine Or.inl (.stays (by simp only [addWaiter, hc]; rfl) ?_)
      rw [idle]
      simp [party, goesTo, preparedAs, hc]
    | true =>
      refine Or.inl (.steps (.enter id c.mediator) ?_ List.mem_cons_self)
      rw [idle, targetAckWaiters_addWaiter hc]
      simp only [party, goesTo, message]
      simp only [preparedAs, hc, if_true]
      exact if_pos (unused id fresh)
  | published before same after =>
    refine Or.inl (.stays (targetAckWaiters_handOver same.2 _) ?_)
    rcases after with ⟨waiter, hw, rfl⟩ | ⟨next, rfl⟩
    · simp [party, goesTo, before, hw]
    · simp [party, goesTo, before]
  | unconfirmed before same unwanted =>
    refine Or.inl (.stays (targetAckWaiters_handOver same.2 _) ?_)
    simp [party, before, unwanted, returns, goesTo]
  | @failed _ operation prepared s taken e before same why known =>
    cases hw : prepared.waiter with
    | none =>
      refine Or.inl (.stays ?_ (by simp [party, before, hw, returns, goesTo]))
      simpa using targetAckWaiters_handOver same.2 _
    | some waiter =>
      refine Or.inr ⟨prepared, waiter, by rw [before]; rfl, by simp [party, before, hw], rfl, ?_, ?_⟩
      · simp [removes, before, hw, why, known]
      · simp [removeWaiter, targetAckWaiters_handOver same.2]
  | @escaped _ operation prepared s taken e before same why unknown =>
    cases hw : prepared.waiter with
    | none =>
      exact Or.inl (.stays (targetAckWaiters_handOver same.2 _) (by simp [party, before, hw, throws, goesTo]))
    | some waiter =>
      refine Or.inl (.steps .abandon ?_ (by simp [Fair, abandons, before, hw, why, unknown]))
      simp [party, before, hw, Party.next, throws, goesTo, targetAckWaiters_handOver same.2]
  | delayed before => exact Or.inl (.stays rfl (by simp [party, goesTo, before]))
  | rejected before why =>
    refine Or.inl (.steps .abandon ?_ ?_)
    · simp [party, before, Party.next, throws, goesTo]
    · rcases why with h | h <;> simp [Fair, abandons, before, h]
  | answered before done =>
    refine Or.inl (.steps .answered ?_ trivial)
    rw [party_readAck]
    simp [party, before, Party.next, done]
  | aborted before done =>
    refine Or.inl (.steps .answered ?_ trivial)
    simp [party, before, Party.next, throws, goesTo, done]
  | @cancelled prepared timeOut waiter before =>
    refine Or.inr ⟨prepared, waiter, by rw [before]; rfl, by simp [party, before], rfl, ?_, ?_⟩
    · simp [removes, before]
    · simp [removeWaiter]
  | timedOut before =>
    refine Or.inl (.steps .abandon ?_ (by simp [Fair, abandons, before]))
    simp [party, before, Party.next, returns, goesTo]

/-- A call whose message object nobody else sends removes its own entry. -/
theorem SendCall.Step.moves (hs : c.Step hosts w i x w' c')
    (unused : ∀ id, w.fresh id = true → ((w.targetAckWaiters c.mediator.multiplexer).awaiters.all
      fun a => a.correlationId ≠ id) = true) :
    Moves ackProtocol (Fair (fun id => (id, i) ∈ w'.issued) (c.abandons hosts w x = true))
      (w.targetAckWaiters c.mediator.multiplexer) (w'.targetAckWaiters c.mediator.multiplexer)
      c.party c'.party := by
  rcases SendCall.StepWith.moves hs unused with moves | ⟨prepared, u, _, client, idle, _, same⟩
  · exact moves
  · rw [client, idle, same]
    exact .steps .leave rfl trivial

end SendCalls

section Disposals

variable {w w' : World} {d d' : Disposal}

theorem Disposal.Step.multiplexer (hs : d.Step w w' d') : d'.multiplexer = d.multiplexer := by
  simp only [Disposal.multiplexer, hs.subject]

theorem Disposal.Step.responseWaiters_ne (hs : d.Step w w' d') {n : Nat} (hn : n ≠ d.multiplexer) :
    w'.responseWaiters n = w.responseWaiters n := by
  cases hs with
  | prelude _ _ _ same => exact (same n).1
  | responses => exact World.responseWaiters_setResponseWaiters_ne _ hn
  | acks => exact World.responseWaiters_setTargetAckWaiters _
  | _ => rfl

theorem Disposal.Step.targetAckWaiters_ne (hs : d.Step w w' d') {n : Nat} (hn : n ≠ d.multiplexer) :
    w'.targetAckWaiters n = w.targetAckWaiters n := by
  cases hs with
  | prelude _ _ _ same => exact (same n).2
  | responses => exact World.targetAckWaiters_setResponseWaiters _
  | acks => exact World.targetAckWaiters_setTargetAckWaiters_ne _ hn
  | _ => rfl

theorem Disposal.Step.movesResponses (hs : d.Step w w' d') (issued : Guid → Prop) :
    Moves responseProtocol (Fair issued False) (w.responseWaiters d.multiplexer)
      (w'.responseWaiters d.multiplexer) d.responseParty d'.responseParty := by
  cases hs with
  | prelude before after _ same =>
    refine .stays (same _).1 ?_
    rcases before with h | h <;> rcases after with rfl | rfl | rfl <;> simp [responseParty, goesTo, h]
  | started before =>
    exact .steps (.abort d.ownerPredicate .disposed)
      (by simp [responseParty, before, Party.next, goesTo]; rfl) trivial
  | @responses walk walk' entry r before h =>
    exact .steps (.advance entry) (by
      simp only [responseParty, before, Party.next, h, Option.map_some, goesTo,
        World.responseWaiters_setResponseWaiters_self]
      rfl) trivial
  | switched before done =>
    exact .steps .finish (by simp [responseParty, before, Party.next, done, goesTo]) trivial
  | acks before =>
    exact .stays (World.responseWaiters_setTargetAckWaiters _) (by simp [responseParty, before, goesTo])
  | finished before => exact .stays rfl (by simp [responseParty, before, goesTo])

theorem Disposal.Step.movesAcks (hs : d.Step w w' d') (issued : Guid → Prop) :
    Moves ackProtocol (Fair issued False) (w.targetAckWaiters d.multiplexer)
      (w'.targetAckWaiters d.multiplexer) d.ackParty d'.ackParty := by
  cases hs with
  | prelude before after _ same =>
    refine .stays (same _).2 ?_
    rcases before with h | h <;> rcases after with rfl | rfl | rfl <;> simp [ackParty, goesTo, h]
  | started before => exact .stays rfl (by simp [ackParty, before, goesTo])
  | responses before =>
    exact .stays (World.targetAckWaiters_setResponseWaiters _) (by simp [ackParty, before, goesTo])
  | switched before done =>
    exact .steps (.abort d.ownerPredicate .disposed)
      (by simp [ackParty, before, Party.next, goesTo]; rfl) trivial
  | @acks walk walk' entry r before h =>
    exact .steps (.advance entry) (by
      simp only [ackParty, before, Party.next, h, Option.map_some, goesTo,
        World.targetAckWaiters_setTargetAckWaiters_self]
      rfl) trivial
  | finished before done =>
    exact .steps .finish (by simp [ackParty, before, Party.next, done, goesTo]) trivial

end Disposals

section Threads

variable {hosts : Hosts} {w w' : World} {i n : Nat} {t t' : Thread} {x : Occurrence}

def Thread.abandonsResponse : Thread → Occurrence → Bool
  | .request call, x => call.abandons x
  | _, _ => false

def Thread.abandonsAck (hosts : Hosts) (w : World) : Thread → Occurrence → Bool
  | .send call, x => call.abandons hosts w x
  | _, _ => false

/-- A fresh id is no awaiter's. -/
def Unused (w : World) : Prop :=
  ∀ id n, w.fresh id = true →
    ((w.responseWaiters n).awaiters.all fun a => a.correlationId ≠ id) = true ∧
    ((w.targetAckWaiters n).awaiters.all fun a => a.correlationId ≠ id) = true

theorem Thread.Step.movesResponses (hs : t.Step hosts w i x w' t') (unused : Unused w) (n : Nat) :
    Moves responseProtocol (Fair (fun id => (id, i) ∈ w'.issued) (t.abandonsResponse x = true))
      (w.responseWaiters n) (w'.responseWaiters n) (t.responseParty n) (t'.responseParty n) := by
  cases hs with
  | request h =>
    simp only [responseParty, h.mediator]
    split
    next hm => exact hm ▸ h.moves fun id hf => (unused id _ hf).1
    next hm => exact .stays (h.responseWaiters_ne (Ne.symm hm)) rfl
  | send h => exact .stays (h.responseWaiters n) rfl
  | @delivered m o environment => cases o <;> exact .stays rfl rfl
  | @response k handler handler' r h =>
    simp only [responseParty]
    split
    next hm =>
      subst hm
      exact .steps .handle (by simp [Party.next, h]) trivial
    next hm => exact .stays (World.responseWaiters_setResponseWaiters_ne _ (Ne.symm hm)) rfl
  | ack => exact .stays (World.responseWaiters_setTargetAckWaiters _) rfl
  | disposal h =>
    simp only [responseParty, h.multiplexer]
    split
    next hm => exact hm ▸ (h.movesResponses _).imp fun _ h => h.weaken
    next hm => exact .stays (h.responseWaiters_ne (Ne.symm hm)) rfl

theorem Thread.Step.movesAcks (hs : t.Step hosts w i x w' t') (unused : Unused w) (n : Nat) :
    Moves ackProtocol (Fair (fun id => (id, i) ∈ w'.issued) (t.abandonsAck hosts w x = true))
      (w.targetAckWaiters n) (w'.targetAckWaiters n) (t.ackParty n) (t'.ackParty n) := by
  cases hs with
  | request h => exact .stays (h.targetAckWaiters n) rfl
  | send h =>
    simp only [ackParty, h.mediator]
    split
    next hm => exact hm ▸ h.moves fun id hf => (unused id _ hf).2
    next hm => exact .stays (h.targetAckWaiters_ne (Ne.symm hm)) rfl
  | @delivered m o environment => cases o <;> exact .stays rfl rfl
  | response => exact .stays (World.targetAckWaiters_setResponseWaiters _) rfl
  | @ack k handler handler' r h =>
    simp only [ackParty]
    split
    next hm =>
      subst hm
      exact .steps .handle (by simp [Party.next, h]) trivial
    next hm => exact .stays (World.targetAckWaiters_setTargetAckWaiters_ne _ (Ne.symm hm)) rfl
  | disposal h =>
    simp only [ackParty, h.multiplexer]
    split
    next hm => exact hm ▸ (h.movesAcks _).imp fun _ h => h.weaken
    next hm => exact .stays (h.targetAckWaiters_ne (Ne.symm hm)) rfl

end Threads
end RabbitMediator
