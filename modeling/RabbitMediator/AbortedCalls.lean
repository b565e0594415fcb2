import RabbitMediator.CallOwners

namespace RabbitMediator

open Interleaving Registry Rendezvous

/-- Whether an awaiter is one of `m`'s. -/
abbrev ownedBy (m : MediatorRef) (owner : MediatorRef) : Bool := owner = m

section Walks

variable {hosts : Hosts} {w w' : World} {i : Nat} {x : Occurrence} {d d' : Disposal} {m : MediatorRef}

/-- The disposal of `m` that took it off the multiplexer sees to all of its entries. -/
structure Disposal.Covers (w : World) (m : MediatorRef) (d : Disposal) : Prop where
  subject : d.subject = .mediator m
  past : d.phase ≠ .entered ∧ d.phase ≠ .disposing
  responses : ∀ walk, d.phase = .abortingResponses walk →
    Rendezvous.Covers (ownedBy m) (w.responseWaiters m.multiplexer) walk.pending
  acks : ∀ walk, d.phase = .abortingAcks walk → Clear (ownedBy m) (w.responseWaiters m.multiplexer) ∧
    Rendezvous.Covers (ownedBy m) (w.targetAckWaiters m.multiplexer) walk.pending
  ended : d.phase = .ended → Clear (ownedBy m) (w.responseWaiters m.multiplexer) ∧
    Clear (ownedBy m) (w.targetAckWaiters m.multiplexer)

theorem Disposal.ownerPredicate_of_subject (h : d.subject = .mediator m) : d.ownerPredicate = ownedBy m := by
  funext owner
  simp [ownerPredicate, h]

theorem Disposal.multiplexer_of_subject (h : d.subject = .mediator m) : d.multiplexer = m.multiplexer := by
  simp [multiplexer, h]

/-- What the other threads do leaves the walk its entries, as long as no call of `m` adds one. -/
theorem Disposal.Covers.stable (h : d.Covers w m)
    (responses : ∀ pending, Rendezvous.Covers (ownedBy m) (w.responseWaiters m.multiplexer) pending →
      Rendezvous.Covers (ownedBy m) (w'.responseWaiters m.multiplexer) pending)
    (acks : ∀ pending, Rendezvous.Covers (ownedBy m) (w.targetAckWaiters m.multiplexer) pending →
      Rendezvous.Covers (ownedBy m) (w'.targetAckWaiters m.multiplexer) pending) : d.Covers w' m :=
  ⟨h.subject, h.past, fun walk hp => responses _ (h.responses walk hp),
    fun walk hp => ⟨responses _ (h.acks walk hp).1, acks _ (h.acks walk hp).2⟩,
    fun hp => ⟨responses _ (h.ended hp).1, acks _ (h.ended hp).2⟩⟩

theorem pending_of_isDone {walk : Aborter Guid} (h : walk.isDone = true) : walk.pending = [] := by
  cases walk <;> first | rfl | cases h

theorem Disposal.Covers.of_aborting (subject : d.subject = .mediator m) (phase : d.phase = .aborting) :
    d.Covers w m := by
  constructor <;> simp [subject, phase]

theorem Disposal.Covers.of_abortingResponses {walk : Aborter Guid} (subject : d.subject = .mediator m)
    (phase : d.phase = .abortingResponses walk)
    (covers : Rendezvous.Covers (ownedBy m) (w.responseWaiters m.multiplexer) walk.pending) :
    d.Covers w m := by
  constructor <;> simp [subject, phase, covers]

theorem Disposal.Covers.of_abortingAcks {walk : Aborter Guid} (subject : d.subject = .mediator m)
    (phase : d.phase = .abortingAcks walk) (clear : Clear (ownedBy m) (w.responseWaiters m.multiplexer))
    (covers : Rendezvous.Covers (ownedBy m) (w.targetAckWaiters m.multiplexer) walk.pending) :
    d.Covers w m := by
  constructor <;> simp [subject, phase, clear, covers]

theorem Disposal.Covers.of_ended (subject : d.subject = .mediator m) (phase : d.phase = .ended)
    (clear : Clear (ownedBy m) (w.responseWaiters m.multiplexer))
    (clear' : Clear (ownedBy m) (w.targetAckWaiters m.multiplexer)) : d.Covers w m := by
  constructor <;> simp [subject, phase, clear, clear']

/-- The walks of a disposal go on to see to all entries of its mediator. -/
theorem Disposal.Covers.step (h : d.Covers w m) (hs : d.Step w w' d')
    (responses : (w.responseWaiters m.multiplexer).Valid) (acks : (w.targetAckWaiters m.multiplexer).Valid)
    (fitsResponses : d.responseParty.Fits responseProtocol (w.responseWaiters m.multiplexer))
    (fitsAcks : d.ackParty.Fits ackProtocol (w.targetAckWaiters m.multiplexer)) : d'.Covers w' m := by
  have own := multiplexer_of_subject h.subject
  have mine := ownerPredicate_of_subject h.subject
  cases hs with
  | prelude before => exact (before.elim h.past.1 h.past.2).elim
  | started before =>
    refine .of_abortingResponses h.subject rfl ?_
    rw [own]
    exact covers_start _ _
  | @responses walk walk' entry r before hn =>
    refine .of_abortingResponses h.subject rfl ?_
    rw [own, mine] at hn
    rw [own, World.responseWaiters_setResponseWaiters_self]
    simp only [responseParty, before, mine] at fitsResponses
    exact Aborter.covers_next responses fitsResponses hn (h.responses walk before)
  | @switched walk before done =>
    have clear := h.responses walk before
    rw [pending_of_isDone done] at clear
    refine .of_abortingAcks h.subject rfl clear ?_
    rw [own]
    exact covers_start _ _
  | @acks walk walk' entry r before hn =>
    obtain ⟨clear, covers⟩ := h.acks walk before
    refine .of_abortingAcks h.subject rfl ?_ ?_
    · rw [own, World.responseWaiters_setTargetAckWaiters]
      exact clear
    · rw [own, mine] at hn
      rw [own, World.targetAckWaiters_setTargetAckWaiters_self]
      simp only [ackParty, before, mine] at fitsAcks
      exact Aborter.covers_next acks fitsAcks hn covers
  | @finished walk before done =>
    obtain ⟨clear, covers⟩ := h.acks walk before
    rw [pending_of_isDone done] at covers
    exact .of_ended h.subject rfl clear covers

end Walks

section Runs

variable {hosts : Hosts}

/-- At the step, an awaiter is added only for a mediator that is still registered. -/
def AddsWhileRegistered (c : Config World Thread) (a : Action Thread Occurrence) : Prop :=
  ∀ i id t m, a = .step i (.drew id) → c.pool[i]? = some t → t.adds = some m →
    (c.shared.mediators m).registered = true

/-- The entries of a mediator that is no longer registered do not become more. -/
theorem covers_act {c d : Config World Thread} {a : Action Thread Occurrence}
    (h : Reachable (system hosts) System.init c) (allowed : AddsWhileRegistered c a)
    (hd : (system hosts).act c a = some d) {m : MediatorRef} (gone : (c.shared.mediators m).registered = false)
    (n : Nat) (pending : List Guid) :
    (Rendezvous.Covers (ownedBy m) (c.shared.responseWaiters n) pending →
      Rendezvous.Covers (ownedBy m) (d.shared.responseWaiters n) pending) ∧
    (Rendezvous.Covers (ownedBy m) (c.shared.targetAckWaiters n) pending →
      Rendezvous.Covers (ownedBy m) (d.shared.targetAckWaiters n) pending) := by
  have unused := (known_of_reachable h).unused
  have responses := (responses_kept h n).1.valid
  have acks := (acks_kept h n).1.valid
  have movesOn := responses_evolve h hd n
  have movesOn' := acks_evolve h hd n
  cases a with
  | start t =>
    obtain ⟨_, rfl⟩ := act_start hd
    exact ⟨id, id⟩
  | step i x =>
    obtain ⟨t, s, t', ht, hn, rfl⟩ := act_step hd
    constructor
    · refine fun covers => covers.evolves responses movesOn fun id u b hl hb hm => ?_
      rcases Thread.newResponse hn unused hl with old | ⟨⟨drawn, rfl⟩, k, b', adds, hb', own⟩
      · exact old
      · cases hb.symm.trans hb'
        have registered := allowed i drawn t k rfl ht adds
        simp only [ownedBy, own, decide_eq_true_eq] at hm
        simp [hm, gone] at registered
    · refine fun covers => covers.evolves acks movesOn' fun id u b hl hb hm => ?_
      rcases Thread.newAck hn unused hl with old | ⟨⟨drawn, rfl⟩, k, b', adds, hb', own⟩
      · exact old
      · cases hb.symm.trans hb'
        have registered := allowed i drawn t k rfl ht adds
        simp only [ownedBy, own, decide_eq_true_eq] at hm
        simp [hm, gone] at registered

/-- A mediator that is no longer registered has a disposal which sees to its entries. -/
theorem covered_of_unregistered {c : Config World Thread}
    (h : ReachableWhere (system hosts) AddsWhileRegistered System.init c) {m : MediatorRef}
    (gone : (c.shared.mediators m).registered = false) :
    ∃ (j : Nat) (d : Disposal), c.pool[j]? = some (.disposal d) ∧ d.Covers c.shared m := by
  revert gone
  refine h.invariant (P := fun c => (c.shared.mediators m).registered = false →
    ∃ (j : Nat) (d : Disposal), c.pool[j]? = some (.disposal d) ∧ d.Covers c.shared m)
    (by simp [System.init, World.initial]) ?_
  intro c d a hc ih allowed hd gone
  cases a with
  | start t =>
    obtain ⟨_, rfl⟩ := act_start hd
    obtain ⟨j, e, hj, covers⟩ := ih gone
    exact ⟨j, e, pool_append_of_old hj, covers⟩
  | step i x =>
    have others := covers_act (m := m) hc.reachable allowed hd
    obtain ⟨t, s, t', ht, (hn : t.next hosts c.shared i x = some (s, t')), rfl⟩ := act_step hd
    cases before : (c.shared.mediators m).registered with
    | false =>
      obtain ⟨j, e, hj, covers⟩ := ih before
      by_cases hji : j = i
      · subst hji
        cases hj.symm.trans ht
        cases Thread.step_of_next hn with
        | @disposal _ e' _ _ hs =>
          have own := Disposal.multiplexer_of_subject covers.subject
          refine ⟨j, e', pool_set_self ht, covers.step hs (responses_kept hc.reachable _).1.valid
            (acks_kept hc.reachable _).1.valid ?_ ?_⟩
          · exact (responses_kept hc.reachable _).2 j _ (by simp [responseView, ht, Thread.responseParty, own])
          · exact (acks_kept hc.reachable _).2 j _ (by simp [ackView, ht, Thread.ackParty, own])
      · exact ⟨j, e, by rw [pool_set_other hji, hj], covers.stable (fun p => (others before _ p).1)
          (fun p => (others before _ p).2)⟩
    | true =>
      rcases Thread.next_registered hn m with same | ⟨⟨e, rfl, subject, rfl⟩, _⟩
      · simp [same, before] at gone
      · exact ⟨i, _, pool_set_self ht, .of_aborting subject rfl⟩

/-- A disposal that is past its `TryRemove` finds its mediator gone. -/
theorem unregistered_of_past {c : Config World Thread} (h : Reachable (system hosts) System.init c)
    {m : MediatorRef} {j : Nat} {d : Disposal} (hj : c.pool[j]? = some (.disposal d))
    (subject : d.subject = .mediator m) (past : d.phase ≠ .entered ∧ d.phase ≠ .disposing) :
    (c.shared.mediators m).registered = false := by
  revert j d
  refine h.invariant (P := fun c => ∀ {j : Nat} {d : Disposal}, c.pool[j]? = some (.disposal d) →
    d.subject = .mediator m → d.phase ≠ .entered ∧ d.phase ≠ .disposing →
    (c.shared.mediators m).registered = false) (by simp [System.init]) ?_
  intro c d a _ ih _ hd j e hj subject past
  cases a with
  | start t =>
    obtain ⟨hs, rfl⟩ := act_start hd
    rcases pool_append_cases hj with hj | ⟨_, rfl⟩
    · exact ih hj subject past
    · simp only [system, Thread.start] at hs
      split at hs
      next entered => exact absurd entered past.1
      next => cases hs
  | step i x =>
    obtain ⟨t, s, t', ht, (hn : t.next hosts c.shared i x = some (s, t')), rfl⟩ := act_step hd
    have stays : (c.shared.mediators m).registered = false → (s.mediators m).registered = false := by
      intro gone
      rcases Thread.next_registered hn m with same | ⟨_, gone⟩
      · exact same.trans gone
      · exact gone
    rcases pool_set_cases ht hj with ⟨rfl, rfl⟩ | ⟨_, hj⟩
    · cases t with
      | disposal e' =>
        obtain ⟨⟨_, _⟩, hs, he⟩ := Option.map_eq_some_iff.mp hn
        cases he
        have same := (Disposal.step_of_next hs).subject
        rcases Disposal.next_past hs (same ▸ subject) past with before | gone
        · exact stays (ih ht (same ▸ subject) before)
        · exact gone
      | _ => cases Thread.step_of_next hn
    · exact stays (ih hj subject past)

theorem responseView_reachable {c : Config World Thread} (h : Reachable (system hosts) System.init c) (n : Nat) :
    Reachable (parties responseProtocol) Rendezvous.start (responseView n c) :=
  response_simulation n (fun _ _ => trivial) (fun _ _ _ => trivial) h

theorem ackView_reachable {c : Config World Thread} (h : Reachable (system hosts) System.init c) (n : Nat) :
    Reachable (parties ackProtocol) Rendezvous.start (ackView n c) :=
  ack_simulation n (fun _ _ => trivial) (fun _ _ _ => trivial) h

/-- The disposal is between its `TryRemove` and the end of `AbortWaiters`, where no await stands. -/
def Disposal.aborts (d : Disposal) : Bool :=
  match d.phase with
  | .aborting | .abortingResponses _ | .abortingAcks _ => true
  | _ => false

/-- A disposal of the mediator has completed, and each of them stands at an await or is over. -/
structure DisposalCompleted (c : Config World Thread) (m : MediatorRef) : Prop where
  completed : ∃ (j : Nat) (d : Disposal), c.pool[j]? = some (.disposal d) ∧ d.subject = .mediator m ∧
    d.phase = .ended
  awaits : ∀ (j : Nat) (d : Disposal), c.pool[j]? = some (.disposal d) → d.subject = .mediator m →
    d.aborts = false

/-- No entry belongs to the mediator, and its calls that still wait are completed, or somebody is about to
complete them. -/
structure CallsFailed (c : Config World Thread) (m : MediatorRef) : Prop where
  responses : ∀ id u a, (c.shared.responseWaiters m.multiplexer).entries.lookup id = some u →
    (c.shared.responseWaiters m.multiplexer).awaiters[u]? = some a → a.owner ≠ m
  acks : ∀ id u a, (c.shared.targetAckWaiters m.multiplexer).entries.lookup id = some u →
    (c.shared.targetAckWaiters m.multiplexer).awaiters[u]? = some a → a.owner ≠ m
  requests : ∀ (i : Nat) call issued, c.pool[i]? = some (.request call) → call.mediator = m →
    call.phase = .waiting issued →
    (c.shared.responseWaiters m.multiplexer).completion issued.waiter ≠ .pending ∨
      ∃ (j : Nat) (p : ResponseParty), (responseView m.multiplexer c).pool[j]? = some p ∧ p.serves issued.waiter
  sends : ∀ (i : Nat) call timeOut prepared waiter, c.pool[i]? = some (.send call) → call.mediator = m →
    call.phase = .waiting timeOut prepared waiter →
    (c.shared.targetAckWaiters m.multiplexer).completion waiter ≠ .pending ∨
      ∃ (j : Nat) (p : AckParty), (ackView m.multiplexer c).pool[j]? = some p ∧ p.serves waiter

/-- What others than `m` wait on stays, with its entry. -/
def SparesOthers {ρ : Type} (m : MediatorRef) (r r' : Registry Guid MediatorRef ρ Abort) : Prop :=
  ∀ u a, r.awaiters[u]? = some a → a.owner ≠ m →
    r'.awaiters[u]? = some a ∧ ∀ id, r.entries.lookup id = some u → r'.entries.lookup id = some u

theorem clear_of_completed {c : Config World Thread}
    (h : ReachableWhere (system hosts) AddsWhileRegistered System.init c) {m : MediatorRef}
    (disposed : DisposalCompleted c m) : Clear (ownedBy m) (c.shared.responseWaiters m.multiplexer) ∧
      Clear (ownedBy m) (c.shared.targetAckWaiters m.multiplexer) := by
  obtain ⟨j, d, hj, subject, ended⟩ := disposed.completed
  have gone := unregistered_of_past h.reachable hj subject (by simp [ended])
  obtain ⟨k, e, hk, covers⟩ := covered_of_unregistered h gone
  have still := disposed.awaits k e hk covers.subject
  have past := covers.past
  refine covers.ended ?_
  cases hp : e.phase <;> simp_all [Disposal.aborts]

theorem callsFailed_of_completed {c : Config World Thread}
    (h : ReachableWhere (system hosts) AddsWhileRegistered System.init c) {m : MediatorRef}
    (disposed : DisposalCompleted c m) : CallsFailed c m := by
  obtain ⟨responses, acks⟩ := clear_of_completed h disposed
  have view := responseView_reachable h.reachable m.multiplexer
  have view' := ackView_reachable h.reachable m.multiplexer
  constructor
  · rintro id u a hl ha rfl
    exact absurd (responses id u a hl ha (by simp)) (by simp)
  · rintro id u a hl ha rfl
    exact absurd (acks id u a hl ha (by simp)) (by simp)
  · rintro i call issued hi rfl waits
    have party : call.party = .client issued.request.correlationId issued.waiter := by
      simp [RequestCall.party, waits]
    obtain ⟨a, ha, own⟩ := request_owner h.reachable hi party
    have client : (responseView call.mediator.multiplexer c).pool[i]? =
        some (.client issued.request.correlationId issued.waiter) := by
      simp [responseView, hi, Thread.responseParty, party]
    refine (client_served view client).resolve_left fun hl => ?_
    exact absurd (responses _ _ a hl ha (by simp [own])) (by simp)
  · rintro i call timeOut prepared waiter hi rfl waits
    have party : call.party = .client prepared.message.correlationId waiter := by
      simp [SendCall.party, waits]
    obtain ⟨a, ha, own⟩ := send_owner h.reachable hi party
    have client : (ackView call.mediator.multiplexer c).pool[i]? =
        some (.client prepared.message.correlationId waiter) := by
      simp [ackView, hi, Thread.ackParty, party]
    refine (client_served view' client).resolve_left fun hl => ?_
    exact absurd (acks _ _ a hl ha (by simp [own])) (by simp)

/-- A step of a disposal leaves the awaiters of all other mediators alone. -/
theorem disposal_spares_others {c e : Config World Thread} (h : Reachable (system hosts) System.init c)
    {k : Nat} {d : Disposal} {m : MediatorRef} {x : Occurrence} (hk : c.pool[k]? = some (.disposal d))
    (subject : d.subject = .mediator m) (he : (system hosts).act c (.step k x) = some e) (n : Nat) :
    SparesOthers m (c.shared.responseWaiters n) (e.shared.responseWaiters n) ∧
      SparesOthers m (c.shared.targetAckWaiters n) (e.shared.targetAckWaiters n) := by
  have same : ∀ {ρ : Type} (r : Registry Guid MediatorRef ρ Abort), SparesOthers m r r :=
    fun r u a ha _ => ⟨ha, fun _ h => h⟩
  obtain ⟨t, s, t', ht, (hn : t.next hosts c.shared k x = some (s, t')), rfl⟩ := act_step he
  cases hk.symm.trans ht
  obtain ⟨⟨_, d'⟩, hs, hd⟩ := Option.map_eq_some_iff.mp hn
  cases hd
  have own := Disposal.multiplexer_of_subject subject
  have mine := Disposal.ownerPredicate_of_subject subject
  cases Disposal.step_of_next hs with
  | prelude _ _ _ kept =>
    obtain ⟨responses, acks⟩ := kept n
    exact ⟨by rw [responses]; exact same _, by rw [acks]; exact same _⟩
  | started | switched | finished => exact ⟨same _, same _⟩
  | @responses walk walk' entry r before hw =>
    refine ⟨?_, by rw [World.targetAckWaiters_setResponseWaiters]; exact same _⟩
    by_cases hm : n = d.multiplexer
    · subst hm
      have party : (responseView d.multiplexer c).pool[k]? = some (.aborter d.ownerPredicate .disposed walk) := by
        simp [responseView, ht, Thread.responseParty, Disposal.responseParty, before]
      rw [World.responseWaiters_setResponseWaiters_self]
      intro u a ha other
      exact Aborter.spares_others (responses_kept h _).1.valid ((responses_kept h _).2 k _ party)
        (rightful_of_reachable (responseView_reachable h _) party) hw ha (by simp [mine, other])
    · rw [World.responseWaiters_setResponseWaiters_ne _ hm]
      exact same _
  | @acks walk walk' entry r before hw =>
    refine ⟨by rw [World.responseWaiters_setTargetAckWaiters]; exact same _, ?_⟩
    by_cases hm : n = d.multiplexer
    · subst hm
      have party : (ackView d.multiplexer c).pool[k]? = some (.aborter d.ownerPredicate .disposed walk) := by
        simp [ackView, ht, Thread.ackParty, Disposal.ackParty, before]
      rw [World.targetAckWaiters_setTargetAckWaiters_self]
      intro u a ha other
      exact Aborter.spares_others (acks_kept h _).1.valid ((acks_kept h _).2 k _ party)
        (rightful_of_reachable (ackView_reachable h _) party) hw ha (by simp [mine, other])
    · rw [World.targetAckWaiters_setTargetAckWaiters_ne _ hm]
      exact same _

/-- In every run in which awaiters are added only for registered mediators, a completed disposal has failed
all calls of its mediator, and none of its steps touches an awaiter of another one. -/
theorem disposal_fails_own_calls {c : Config World Thread}
    (h : ReachableWhere (system hosts) AddsWhileRegistered System.init c) (m : MediatorRef) :
    (DisposalCompleted c m → CallsFailed c m) ∧
    ∀ (k : Nat) d x e, c.pool[k]? = some (.disposal d) → d.subject = .mediator m →
      (system hosts).act c (.step k x) = some e → ∀ n,
        SparesOthers m (c.shared.responseWaiters n) (e.shared.responseWaiters n) ∧
        SparesOthers m (c.shared.targetAckWaiters n) (e.shared.targetAckWaiters n) :=
  ⟨callsFailed_of_completed h, fun _ _ _ _ hk subject he => disposal_spares_others h.reachable hk subject he⟩

end Runs

/-- Awaiters are added only for registered mediators. -/
def addsRegistered (c : Config World Thread) : Action Thread Occurrence → Bool
  | .step i (.drew _) => (c.pool[i]?.bind Thread.adds).all fun m => (c.shared.mediators m).registered
  | _ => true

theorem addsWhileRegistered_of_check (c : Config World Thread) (a : Action Thread Occurrence)
    (h : addsRegistered c a = true) : AddsWhileRegistered c a := by
  rintro i id t m rfl ht adds
  simpa [addsRegistered, ht, adds] using h

def Thread.disposalOf (m : MediatorRef) : Thread → Option Disposal
  | .disposal d => if d.subject = .mediator m then some d else none
  | _ => none

theorem Thread.eq_of_disposalOf {m : MediatorRef} {t : Thread} {d : Disposal} (h : t.disposalOf m = some d) :
    t = .disposal d ∧ d.subject = .mediator m := by
  unfold disposalOf at h
  split at h
  next =>
    split at h
    next own => cases h; exact ⟨rfl, own⟩
    next => cases h
  next => cases h

def Disposal.isOver (d : Disposal) : Bool :=
  match d.phase with
  | .ended => true
  | _ => false

theorem Disposal.phase_of_isOver {d : Disposal} (h : d.isOver = true) : d.phase = .ended := by
  unfold isOver at h
  split at h
  next he => exact he
  next => cases h

/-- The disposal of the first mediator, at thread number `i`, with the ids its walk over the responses meets. -/
def disposes (i : Nat) (met : List Occurrence) : List (Action Thread Occurrence) :=
  .start (.disposal ⟨.mediator ⟨0, 0⟩, .entered⟩) ::
    steps i ([.go, .go, .go] ++ met ++ [.visited none, .go, .visited none, .go])

def disposalIsOver (c : Config World Thread) : Bool :=
  (c.pool.any fun t => (t.disposalOf ⟨0, 0⟩).any Disposal.isOver) &&
    c.pool.all fun t => (t.disposalOf ⟨0, 0⟩).all fun d => !d.aborts

theorem disposalCompleted_of_check {c : Config World Thread} (h : disposalIsOver c = true) :
    DisposalCompleted c ⟨0, 0⟩ := by
  obtain ⟨done, awaits⟩ := Bool.and_eq_true_iff.mp h
  constructor
  · obtain ⟨t, ht, ended⟩ := List.any_eq_true.mp done
    obtain ⟨j, hj⟩ := List.mem_iff_getElem?.mp ht
    obtain ⟨d, hd, isOver⟩ := (Option.any_eq_true _ _).mp ended
    obtain ⟨rfl, subject⟩ := Thread.eq_of_disposalOf hd
    exact ⟨j, d, hj, subject, d.phase_of_isOver isOver⟩
  · intro j d hj subject
    have := List.all_eq_true.mp awaits _ (List.mem_of_getElem? hj)
    simpa [Thread.disposalOf, subject] using this

theorem testDisposal_fails_calls : ∃ c, (system testHosts).run addsRegistered System.init
    (testRequestRun ++ disposes 1 [.visited (some ⟨7⟩), .visited none, .visited none]) = some c ∧
    CallsFailed c ⟨0, 0⟩ := by
  have h : ((system testHosts).run addsRegistered System.init (testRequestRun ++
      disposes 1 [.visited (some ⟨7⟩), .visited none, .visited none])).any disposalIsOver = true := by decide
  obtain ⟨c, hc, done⟩ := (Option.any_eq_true _ _).mp h
  exact ⟨c, hc, (disposal_fails_own_calls (.of_run .start addsWhileRegistered_of_check hc) ⟨0, 0⟩).1
    (disposalCompleted_of_check done)⟩

/-- The mediator is disposed after the call has ensured its receiver, and before the call adds its awaiter. -/
def testLateRun : List (Action Thread Occurrence) :=
  .start (.request testCall) :: steps 0 (issues ⟨7⟩).dropLast ++ disposes 1 [] ++ steps 0 [.drew ⟨7⟩]

theorem late_call_keeps_waiting :
    ¬∀ hosts c, Reachable (system hosts) System.init c → ∀ m,
      (DisposalCompleted c m → CallsFailed c m) ∧
      ∀ (k : Nat) d x e, c.pool[k]? = some (.disposal d) → d.subject = .mediator m →
        (system hosts).act c (.step k x) = some e → ∀ n,
          SparesOthers m (c.shared.responseWaiters n) (e.shared.responseWaiters n) ∧
          SparesOthers m (c.shared.targetAckWaiters n) (e.shared.targetAckWaiters n) := by
  intro claim
  have h : ((system testHosts).run (fun _ _ => true) System.init testLateRun).any (fun c =>
      disposalIsOver c && decide ((c.shared.responseWaiters 0).entries.lookup ⟨7⟩ = some 0) &&
        (c.shared.responseWaiters 0).awaiters[0]?.any fun a => a.owner = ⟨0, 0⟩) = true := by decide
  obtain ⟨c, hc, ha⟩ := (Option.any_eq_true _ _).mp h
  obtain ⟨ha, owned⟩ := Bool.and_eq_true_iff.mp ha
  obtain ⟨done, entry⟩ := Bool.and_eq_true_iff.mp ha
  obtain ⟨a, hw, own⟩ := (Option.any_eq_true _ _).mp owned
  have failed := (claim testHosts c (.of_run .start (fun _ _ _ => trivial) hc) ⟨0, 0⟩).1
    (disposalCompleted_of_check done)
  exact failed.responses ⟨7⟩ 0 a (of_decide_eq_true entry) hw (of_decide_eq_true own)

end RabbitMediator
