import RabbitMediator.RendezvousWalks
import RabbitMediator.Waiters

namespace RabbitMediator

open Interleaving Registry Rendezvous

section Registration

variable {hosts : Hosts} {w w' : World} {i : Nat} {x : Occurrence}

theorem EnsureReceiver.next_registered {m : MediatorRef} {t : SentType} {s s' : MediatorState}
    {r r' : EnsureReceiver} (h : r.next hosts m t s x = some (s', r')) : s'.registered = s.registered := by
  unfold EnsureReceiver.next at h
  split at h
  next =>
    split at h
    next => cases h; rfl
    next => split at h <;> cases h <;> rfl
  next => cases h; rfl
  next => cases h; rfl
  next =>
    split at h
    next => cases h
    next => cases h; rfl
  next => cases h; rfl
  next => cases h; rfl
  next => cases h; rfl
  next => cases h; rfl
  next => cases h; rfl
  next => cases h; rfl
  next => cases h

theorem World.registered_setMediator {m : MediatorRef} {s : MediatorState}
    (same : s.registered = (w.mediators m).registered) (k : MediatorRef) :
    ((w.setMediator m s).mediators k).registered = (w.mediators k).registered := by
  by_cases hk : k = m
  · subst hk
    simpa [setMediator] using same
  · simp [setMediator, hk]

/-- A call takes no mediator off its multiplexer. -/
theorem RequestCall.next_registered {c c' : RequestCall} (h : c.next hosts w i x = some (w', c'))
    (m : MediatorRef) : (w'.mediators m).registered = (w.mediators m).registered := by
  unfold next at h
  split at h
  next => cases h; rfl
  next => cases h; rfl
  next receiver x hp =>
    obtain ⟨⟨s, receiver'⟩, hs, he⟩ := Option.map_eq_some_iff.mp h
    cases he
    exact World.registered_setMediator (EnsureReceiver.next_registered hs) m
  next id hp =>
    split at h
    next =>
      have he := Option.some.inj h
      unfold issue at he
      split at he <;> cases he <;> rfl
    next => cases h
  next operation issued hp =>
    obtain ⟨⟨s, taken, step⟩, _, he⟩ := Option.map_eq_some_iff.mp h
    have same : ((c.handOver w i issued s taken).mediators m).registered = (w.mediators m).registered := by
      cases taken <;> rfl
    cases step with
    | continued => cases he; exact same
    | finished => cases he; exact same
    | failed e =>
      simp only [published] at he
      split at he <;> cases he <;> exact same
  next => cases h; rfl
  next =>
    split at h
    next => cases h
    next => cases h; rfl
    next => cases h; rfl
  next =>
    split at h
    next => cases h
    next => cases h; rfl
  next => cases h

theorem SendCall.Step.mediators {c c' : SendCall} (hs : c.Step hosts w i x w' c') :
    w'.mediators = w.mediators := by
  cases hs with
  | prepared =>
    unfold addWaiter
    split <;> rfl
  | @published _ _ _ _ taken | @unconfirmed _ _ _ _ taken | @escaped _ _ _ _ taken => cases taken <;> rfl
  | @failed _ _ _ _ taken => split <;> cases taken <;> rfl
  | _ => rfl

theorem Disposal.next_registered {d d' : Disposal} (h : d.next w x = some (w', d')) (m : MediatorRef) :
    (w'.mediators m).registered = (w.mediators m).registered ∨
      d.subject = .mediator m ∧ d' = d.goesTo .aborting ∧ (w'.mediators m).registered = false := by
  unfold next at h
  split at h
  next =>
    have he := Option.some.inj h
    unfold enter at he
    split at he
    next => cases he; exact Or.inl (World.registered_setMediator (by rfl) m)
    next => cases he; exact Or.inl rfl
  next =>
    have he := Option.some.inj h
    unfold dispose at he
    split at he
    next k hk =>
      split at he
      next =>
        cases he
        by_cases same : m = k
        · exact Or.inr ⟨same ▸ hk, rfl, by simp [World.setMediator, same]⟩
        · exact Or.inl (by simp [World.setMediator, same])
      next => cases he; exact Or.inl rfl
    next => cases he; exact Or.inl rfl
  next => cases h; exact Or.inl rfl
  next =>
    obtain ⟨⟨r, walk'⟩, _, he⟩ := Option.map_eq_some_iff.mp h
    cases he
    exact Or.inl rfl
  next =>
    split at h
    next => cases h; exact Or.inl rfl
    next => cases h
  next =>
    obtain ⟨⟨r, walk'⟩, _, he⟩ := Option.map_eq_some_iff.mp h
    cases he
    exact Or.inl rfl
  next =>
    split at h
    next => cases h; exact Or.inl rfl
    next => cases h
  next => cases h

/-- A disposal gets past its `TryRemove` only with its mediator gone. -/
theorem Disposal.next_past {d d' : Disposal} (h : d.next w x = some (w', d')) {m : MediatorRef}
    (subject : d.subject = .mediator m) (past : d'.phase ≠ .entered ∧ d'.phase ≠ .disposing) :
    (d.phase ≠ .entered ∧ d.phase ≠ .disposing) ∨ (w'.mediators m).registered = false := by
  unfold next at h
  split at h
  next =>
    have he := Option.some.inj h
    simp only [enter, subject, Prod.mk.injEq] at he
    exact absurd (congrArg Disposal.phase he.2.symm) past.2
  next =>
    have he := Option.some.inj h
    simp only [dispose, subject] at he
    split at he
    next =>
      cases he
      exact Or.inr (by simp [World.setMediator])
    next gone =>
      cases he
      exact Or.inr (by simpa using gone)
  all_goals first
    | (cases h; done)
    | (refine Or.inl ?_; simp_all)

/-- Only a disposal takes its mediator off the multiplexer, and goes on to fail its calls. -/
theorem Thread.next_registered {t t' : Thread} (h : t.next hosts w i x = some (w', t')) (m : MediatorRef) :
    (w'.mediators m).registered = (w.mediators m).registered ∨
      (∃ d, t = .disposal d ∧ d.subject = .mediator m ∧ t' = .disposal (d.goesTo .aborting)) ∧
        (w'.mediators m).registered = false := by
  cases t with
  | request c =>
    obtain ⟨⟨s, c'⟩, hs, he⟩ := Option.map_eq_some_iff.mp h
    cases he
    exact Or.inl (RequestCall.next_registered hs m)
  | send c =>
    obtain ⟨⟨s, c'⟩, hs, he⟩ := Option.map_eq_some_iff.mp h
    cases he
    exact Or.inl (by rw [(SendCall.step_of_next hs).mediators])
  | delivery k o done =>
    cases Thread.step_of_next h with
    | delivered => cases o <;> exact Or.inl rfl
  | response n handler =>
    cases Thread.step_of_next h with
    | response => exact Or.inl rfl
  | ack n handler =>
    cases Thread.step_of_next h with
    | ack => exact Or.inl rfl
  | disposal d =>
    obtain ⟨⟨s, d'⟩, hs, he⟩ := Option.map_eq_some_iff.mp h
    cases he
    rcases Disposal.next_registered hs m with same | ⟨own, rfl, gone⟩
    · exact Or.inl same
    · exact Or.inr ⟨⟨d, rfl, own, rfl⟩, gone⟩

end Registration

section Adding

variable {hosts : Hosts} {w w' : World} {i n : Nat} {x : Occurrence} {t t' : Thread}

/-- The call draws its id in its next step, and adds its awaiter under it. -/
def RequestCall.adds (c : RequestCall) : Bool :=
  match c.phase with
  | .issuing => (addressOf (.request c.request.tResponse) (.request c.request)).toBool
  | _ => false

def SendCall.adds (c : SendCall) : Bool :=
  match c.phase with
  | .preparing => c.confirmPublish && (addressOf c.message.type (.message c.message)).toBool
  | _ => false

/-- The mediator for which the thread adds an awaiter in its next step. -/
def Thread.adds : Thread → Option MediatorRef
  | .request call => if call.adds then some call.mediator else none
  | .send call => if call.adds then some call.mediator else none
  | _ => none

theorem RequestCall.adds_of_new {c c' : RequestCall} (h : c.next hosts w i x = some (w', c')) {id : Guid}
    {u : Nat} (hl : (w'.responseWaiters n).entries.lookup id = some u) :
    (w.responseWaiters n).entries.lookup id = some u ∨
      (∃ drawn, x = .drew drawn) ∧ c.adds = true ∧
        ∃ b, (w'.responseWaiters n).awaiters[u]? = some b ∧ b.owner = c.mediator := by
  by_cases hn : n = c.mediator.multiplexer
  · subst hn
    cases step_of_next h with
    | @issued drawn address before fresh =>
      rw [responseWaiters_addWaiter] at hl ⊢
      rcases ConcurrentDictionary.lookup_tryAdd_cases hl with hl | ⟨rfl, rfl, _⟩
      · exact Or.inl hl
      · refine Or.inr ⟨⟨_, rfl⟩, ?_, _, awaiters_add_new _ _ _, rfl⟩
        simp only [next, before, fresh, if_true, issue] at h
        split at h
        next => simp [throws, goesTo] at h
        next haddress => simp [adds, before, haddress, Except.toBool]
    | published _ same | escaped _ same =>
      rw [responseWaiters_handOver same.1] at hl
      exact Or.inl hl
    | failed _ same =>
      rw [removeWaiter, World.responseWaiters_setResponseWaiters_self, responseWaiters_handOver same.1] at hl
      exact Or.inl (ConcurrentDictionary.lookup_of_lookup_erase hl).2
    | gaveUp =>
      rw [removeWaiter, World.responseWaiters_setResponseWaiters_self] at hl
      exact Or.inl (ConcurrentDictionary.lookup_of_lookup_erase hl).2
    | _ => exact Or.inl hl
  · rw [(step_of_next h).responseWaiters_ne hn] at hl
    exact Or.inl hl

theorem SendCall.adds_of_new {c c' : SendCall} (h : c.next hosts w i x = some (w', c')) {id : Guid}
    {u : Nat} (hl : (w'.targetAckWaiters n).entries.lookup id = some u) :
    (w.targetAckWaiters n).entries.lookup id = some u ∨
      (∃ drawn, x = .drew drawn) ∧ c.adds = true ∧
        ∃ b, (w'.targetAckWaiters n).awaiters[u]? = some b ∧ b.owner = c.mediator := by
  by_cases hn : n = c.mediator.multiplexer
  · subst hn
    cases step_of_next h with
    | @prepared drawn address before fresh =>
      cases hc : c.confirmPublish with
      | false =>
        have same : (c.addWaiter w i drawn).targetAckWaiters c.mediator.multiplexer =
            w.targetAckWaiters c.mediator.multiplexer := by
          simp only [addWaiter, hc]
          rfl
        exact Or.inl (same ▸ hl)
      | true =>
        rw [targetAckWaiters_addWaiter hc] at hl ⊢
        rcases ConcurrentDictionary.lookup_tryAdd_cases hl with hl | ⟨rfl, rfl, _⟩
        · exact Or.inl hl
        · refine Or.inr ⟨⟨_, rfl⟩, ?_, _, awaiters_add_new _ _ _, rfl⟩
          simp only [next, nextWith, before, fresh, if_true, prepare] at h
          split at h
          next => simp [throws, goesTo] at h
          next haddress => simp [adds, before, hc, haddress, Except.toBool]
    | published _ same | unconfirmed _ same | escaped _ same =>
      rw [targetAckWaiters_handOver same.2] at hl
      exact Or.inl hl
    | failed _ same =>
      split at hl
      next =>
        rw [removeWaiter, World.targetAckWaiters_setTargetAckWaiters_self, targetAckWaiters_handOver same.2] at hl
        exact Or.inl (ConcurrentDictionary.lookup_of_lookup_erase hl).2
      next =>
        rw [targetAckWaiters_handOver same.2] at hl
        exact Or.inl hl
    | cancelled =>
      rw [removeWaiter, World.targetAckWaiters_setTargetAckWaiters_self] at hl
      exact Or.inl (ConcurrentDictionary.lookup_of_lookup_erase hl).2
    | _ => exact Or.inl hl
  · rw [(step_of_next h).targetAckWaiters_ne hn] at hl
    exact Or.inl hl

/-- New entries are those of calls that add them. -/
theorem Thread.newResponse (h : t.next hosts w i x = some (w', t')) (unused : Unused w) {id : Guid} {u : Nat}
    (hl : (w'.responseWaiters n).entries.lookup id = some u) :
    (w.responseWaiters n).entries.lookup id = some u ∨
      (∃ drawn, x = .drew drawn) ∧ ∃ m b, t.adds = some m ∧
        (w'.responseWaiters n).awaiters[u]? = some b ∧ b.owner = m := by
  cases t with
  | request c =>
    obtain ⟨⟨s, c'⟩, hs, he⟩ := Option.map_eq_some_iff.mp h
    cases he
    rcases RequestCall.adds_of_new hs hl with old | ⟨drawn, adds, b, hb, own⟩
    · exact Or.inl old
    · exact Or.inr ⟨drawn, _, b, if_pos adds, hb, own⟩
  | _ =>
    left
    have hs := Thread.step_of_next h
    cases hs.movesResponses unused n with
    | stays same => exact same ▸ hl
    | steps y step =>
      refine ((Party.step_of_next step).entry hl).resolve_right fun client => ?_
      obtain ⟨call, rfl, _⟩ := Thread.request_of_client client
      cases hs

theorem Thread.newAck (h : t.next hosts w i x = some (w', t')) (unused : Unused w) {id : Guid} {u : Nat}
    (hl : (w'.targetAckWaiters n).entries.lookup id = some u) :
    (w.targetAckWaiters n).entries.lookup id = some u ∨
      (∃ drawn, x = .drew drawn) ∧ ∃ m b, t.adds = some m ∧
        (w'.targetAckWaiters n).awaiters[u]? = some b ∧ b.owner = m := by
  cases t with
  | send c =>
    obtain ⟨⟨s, c'⟩, hs, he⟩ := Option.map_eq_some_iff.mp h
    cases he
    rcases SendCall.adds_of_new hs hl with old | ⟨drawn, adds, b, hb, own⟩
    · exact Or.inl old
    · exact Or.inr ⟨drawn, _, b, if_pos adds, hb, own⟩
  | _ =>
    left
    have hs := Thread.step_of_next h
    cases hs.movesAcks unused n with
    | stays same => exact same ▸ hl
    | steps y step =>
      refine ((Party.step_of_next step).entry hl).resolve_right fun client => ?_
      obtain ⟨call, rfl, _⟩ := Thread.send_of_client client
      cases hs

end Adding

section Owners

variable {hosts : Hosts} {w w' : World} {i : Nat} {x : Occurrence} {id : Guid} {u : Nat}

/-- A call waits on the awaiter it has waited on, or on one it has just added for its mediator. -/
theorem RequestCall.Step.owner {c c' : RequestCall} (hs : c.Step hosts w i x w' c')
    (hp : c'.party = .client id u) : c.party = .client id u ∨
      ∃ a, (w'.responseWaiters c.mediator.multiplexer).awaiters[u]? = some a ∧ a.owner = c.mediator := by
  cases hs with
  | prelude _ after => simp [party_of_unissued c after] at hp
  | @issued drawn address before fresh =>
    cases hp
    rw [responseWaiters_addWaiter]
    exact Or.inr ⟨_, awaiters_add_new _ _ _, rfl⟩
  | published before _ after =>
    left
    rcases after with rfl | ⟨next, rfl⟩ <;> simpa [party, goesTo, before] using hp
  | delayed before => exact Or.inl (by simpa [party, goesTo, before] using hp)
  | _ => cases hp

theorem SendCall.Step.owner {c c' : SendCall} (hs : c.Step hosts w i x w' c')
    (hp : c'.party = .client id u) : c.party = .client id u ∨
      ∃ a, (w'.targetAckWaiters c.mediator.multiplexer).awaiters[u]? = some a ∧ a.owner = c.mediator := by
  cases hs with
  | prelude _ after => simp [party_of_unprepared c after] at hp
  | @prepared drawn address before fresh =>
    cases hc : c.confirmPublish with
    | false => simp [party, goesTo, preparedAs, hc] at hp
    | true =>
      simp only [party, goesTo, preparedAs, hc, if_true, Party.client.injEq] at hp
      rw [targetAckWaiters_addWaiter hc, ← hp.2]
      exact Or.inr ⟨_, awaiters_add_new _ _ _, rfl⟩
  | published before _ after =>
    left
    rcases after with ⟨waiter, hw, rfl⟩ | ⟨next, rfl⟩
    · simpa [party, goesTo, before, hw] using hp
    · simpa [party, goesTo, before] using hp
  | delayed before => exact Or.inl (by simpa [party, goesTo, before] using hp)
  | answered => simp [party_readAck] at hp
  | _ => cases hp

/-- Threads that only ever wait on awaiters of their own mediators do so in every run. -/
theorem owner_of_waiting {ρ : Type} (table : World → Nat → Registry Guid MediatorRef ρ Abort)
    (waits : Thread → MediatorRef → Nat → Prop)
    (evolves : ∀ {c d a}, Reachable (system hosts) System.init c → (system hosts).act c a = some d →
      ∀ n, (table c.shared n).Evolves (table d.shared n))
    (starting : ∀ {w t m u}, t.start w = true → ¬waits t m u)
    (steps : ∀ {w i t x w' t' m u}, t.Step hosts w i x w' t' → waits t' m u → waits t m u ∨
      ∃ b, (table w' m.multiplexer).awaiters[u]? = some b ∧ b.owner = m)
    {c : Config World Thread} (h : Reachable (system hosts) System.init c) {t : Thread} {m : MediatorRef}
    (hi : c.pool[i]? = some t) (hw : waits t m u) :
    ∃ a, (table c.shared m.multiplexer).awaiters[u]? = some a ∧ a.owner = m := by
  revert i t
  refine h.invariant (P := fun c => ∀ {i : Nat} {t : Thread}, c.pool[i]? = some t → waits t m u →
    ∃ a, (table c.shared m.multiplexer).awaiters[u]? = some a ∧ a.owner = m) (by simp [System.init]) ?_
  intro c d a hc ih _ hd i t hi hw
  have stays : (∃ a, (table c.shared m.multiplexer).awaiters[u]? = some a ∧ a.owner = m) →
      ∃ a, (table d.shared m.multiplexer).awaiters[u]? = some a ∧ a.owner = m := by
    rintro ⟨a, ha, own⟩
    obtain ⟨b, hb, hab⟩ := (evolves hc hd m.multiplexer).keep ha
    exact ⟨b, hb, hab.owner.trans own⟩
  cases a with
  | start t =>
    obtain ⟨hs, rfl⟩ := act_start hd
    rcases pool_append_cases hi with hi | ⟨_, rfl⟩
    · exact ih hi hw
    · exact absurd hw (starting hs)
  | step j x =>
    obtain ⟨s, w, s', hs, hn, rfl⟩ := act_step hd
    rcases pool_set_cases hs hi with ⟨rfl, rfl⟩ | ⟨_, hi⟩
    · exact (steps (Thread.step_of_next hn) hw).elim (fun before => stays (ih hs before)) id
    · exact stays (ih hi hw)

theorem request_owner {c : Config World Thread} (h : Reachable (system hosts) System.init c)
    {call : RequestCall} (hi : c.pool[i]? = some (.request call)) (hp : call.party = .client id u) :
    ∃ a, (c.shared.responseWaiters call.mediator.multiplexer).awaiters[u]? = some a ∧
      a.owner = call.mediator := by
  refine owner_of_waiting World.responseWaiters
    (fun t m u => ∃ call, t = .request call ∧ call.mediator = m ∧ call.party = .client id u)
    responses_evolve ?_ ?_ h hi ⟨call, rfl, rfl, hp⟩
  · rintro w _ m u hs ⟨call, rfl, _, waits⟩
    simp [RequestCall.party, RequestCall.phase_of_start hs] at waits
  · rintro w i t x w' _ m u hs ⟨call, rfl, rfl, waits⟩
    cases hs with
    | request hs =>
      rw [hs.mediator]
      exact (hs.owner waits).imp_left fun before => ⟨_, rfl, rfl, before⟩

theorem send_owner {c : Config World Thread} (h : Reachable (system hosts) System.init c)
    {call : SendCall} (hi : c.pool[i]? = some (.send call)) (hp : call.party = .client id u) :
    ∃ a, (c.shared.targetAckWaiters call.mediator.multiplexer).awaiters[u]? = some a ∧
      a.owner = call.mediator := by
  refine owner_of_waiting World.targetAckWaiters
    (fun t m u => ∃ call, t = .send call ∧ call.mediator = m ∧ call.party = .client id u)
    acks_evolve ?_ ?_ h hi ⟨call, rfl, rfl, hp⟩
  · rintro w _ m u hs ⟨call, rfl, _, waits⟩
    simp [SendCall.party, SendCall.phase_of_start hs] at waits
  · rintro w i t x w' _ m u hs ⟨call, rfl, rfl, waits⟩
    cases hs with
    | send hs =>
      rw [hs.mediator]
      exact (hs.owner waits).imp_left fun before => ⟨_, rfl, rfl, before⟩

end Owners
end RabbitMediator
