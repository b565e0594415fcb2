import RabbitMediator.Views

namespace RabbitMediator

open Interleaving Registry Rendezvous

variable {hosts : Hosts} {w w' : World} {i n : Nat} {t t' : Thread} {x : Occurrence}

/-- A call of `Send` draws its id in one of its steps, and in no other. -/
theorem SendCall.StepWith.issued {current written : Prepared → IMessage} {c c' : SendCall}
    (hs : c.StepWith current written hosts w i x w' c') :
    w'.issued = w.issued ∨ ∃ id, w.fresh id = true ∧ w'.issued = (id, i) :: w.issued := by
  cases hs with
  | @prepared id address before fresh =>
    refine Or.inr ⟨id, fresh, ?_⟩
    unfold SendCall.addWaiter
    split <;> rfl
  | @published _ _ _ _ taken => exact Or.inl (by cases taken <;> rfl)
  | @unconfirmed _ _ _ _ taken => exact Or.inl (by cases taken <;> rfl)
  | @failed _ _ _ _ taken => exact Or.inl (by split <;> cases taken <;> rfl)
  | @escaped _ _ _ _ taken => exact Or.inl (by cases taken <;> rfl)
  | _ => exact Or.inl rfl

/-- An id is drawn once, by the thread that will use it. -/
theorem Thread.Step.issued (hs : t.Step hosts w i x w' t') :
    w'.issued = w.issued ∨ ∃ id, w.fresh id = true ∧ w'.issued = (id, i) :: w.issued := by
  cases hs with
  | request h =>
    cases h with
    | @issued id address before fresh => exact Or.inr ⟨id, fresh, rfl⟩
    | @published _ _ _ _ taken => exact Or.inl (by cases taken <;> rfl)
    | @failed _ _ _ _ taken => exact Or.inl (by cases taken <;> rfl)
    | @escaped _ _ _ _ taken => exact Or.inl (by cases taken <;> rfl)
    | _ => exact Or.inl rfl
  | send h => exact SendCall.StepWith.issued h
  | @delivered m o environment => cases o <;> exact Or.inl rfl
  | response | ack => exact Or.inl rfl
  | disposal h => exact Or.inl h.quiet.issued

/-- Every awaiter waits under an id that was drawn. -/
structure Known (w : World) : Prop where
  response : ∀ {n u : Nat} {a : Awaiter Guid MediatorRef Response Abort},
    (w.responseWaiters n).awaiters[u]? = some a → ∃ j, (a.correlationId, j) ∈ w.issued
  ack : ∀ {n u : Nat} {a : Awaiter Guid MediatorRef SentObjectAck Abort},
    (w.targetAckWaiters n).awaiters[u]? = some a → ∃ j, (a.correlationId, j) ∈ w.issued

theorem World.not_mem_issued {id : Guid} (h : w.fresh id = true) (j : Nat) : (id, j) ∉ w.issued := by
  intro hm
  simpa using List.all_eq_true.mp h _ hm

theorem Known.unused (known : Known w) : Unused w := by
  intro id n fresh
  constructor <;> refine List.all_eq_true.mpr fun a ha => ?_
  · obtain ⟨u, hu⟩ := List.getElem?_of_mem ha
    obtain ⟨j, hj⟩ := known.response hu
    simp only [ne_eq, decide_not, Bool.not_eq_true', decide_eq_false_iff_not]
    rintro rfl
    exact World.not_mem_issued fresh j hj
  · obtain ⟨u, hu⟩ := List.getElem?_of_mem ha
    obtain ⟨j, hj⟩ := known.ack hu
    simp only [ne_eq, decide_not, Bool.not_eq_true', decide_eq_false_iff_not]
    rintro rfl
    exact World.not_mem_issued fresh j hj

theorem mem_issued_of_drawn (drawn : w'.issued = w.issued ∨ ∃ id, w.fresh id = true ∧ w'.issued = (id, i) :: w.issued)
    {id : Guid} {j : Nat} (hm : (id, j) ∈ w.issued) : (id, j) ∈ w'.issued := by
  rcases drawn with he | ⟨_, _, he⟩
  · exact he ▸ hm
  · exact he ▸ List.mem_cons_of_mem _ hm

/-- Each awaiter waits under an old id, or under one that thread `i` has drawn. -/
def Draws {ω ρ ε : Type} (i : Nat) (w' : World) (r r' : Registry Guid ω ρ ε) : Prop :=
  ∀ (u : Nat) (a : Awaiter Guid ω ρ ε), r'.awaiters[u]? = some a →
    (∃ (v : Nat) (b : Awaiter Guid ω ρ ε), r.awaiters[v]? = some b ∧ b.correlationId = a.correlationId) ∨
      (a.correlationId, i) ∈ w'.issued

theorem draws_refl {ω ρ ε : Type} (r : Registry Guid ω ρ ε) : Draws i w' r r :=
  fun u a ha => Or.inl ⟨u, a, ha, rfl⟩

theorem draws_of_moves {ω ρ ε : Type} {P : Protocol Guid ρ} {abandons : Prop} {r r' : Registry Guid ω ρ ε}
    {p p' : Party Guid ω ρ ε} (hm : Moves P (Fair (fun id => (id, i) ∈ w'.issued) abandons) r r' p p') :
    Draws i w' r r' := by
  intro u a ha
  cases hm with
  | stays registry => exact Or.inl ⟨u, a, registry ▸ ha, rfl⟩
  | steps y step input =>
    rcases (Party.step_of_next step).correlationId ha with ⟨v, b, hb, hid⟩ | ⟨owner, rfl⟩
    · exact Or.inl ⟨v, b, hb, hid⟩
    · exact Or.inr input

theorem Known.draws (known : Known w)
    (drawn : w'.issued = w.issued ∨ ∃ id, w.fresh id = true ∧ w'.issued = (id, i) :: w.issued)
    (responses : ∀ n, Draws i w' (w.responseWaiters n) (w'.responseWaiters n))
    (acks : ∀ n, Draws i w' (w.targetAckWaiters n) (w'.targetAckWaiters n)) : Known w' := by
  constructor
  · intro n u a ha
    rcases responses n u a ha with ⟨v, b, hb, hid⟩ | new
    · obtain ⟨j, hj⟩ := known.response hb
      exact ⟨j, hid ▸ mem_issued_of_drawn drawn hj⟩
    · exact ⟨i, new⟩
  · intro n u a ha
    rcases acks n u a ha with ⟨v, b, hb, hid⟩ | new
    · obtain ⟨j, hj⟩ := known.ack hb
      exact ⟨j, hid ▸ mem_issued_of_drawn drawn hj⟩
    · exact ⟨i, new⟩

theorem Known.step (known : Known w) (hs : t.Step hosts w i x w' t') : Known w' :=
  known.draws hs.issued (fun n => draws_of_moves (hs.movesResponses known.unused n))
    fun n => draws_of_moves (hs.movesAcks known.unused n)

theorem known_initial : Known .initial :=
  ⟨by simp [World.responseWaiters, World.initial, Registry.empty],
    by simp [World.targetAckWaiters, World.initial, Registry.empty]⟩

theorem known_of_reachable {c : Config World Thread} (h : Reachable (system hosts) System.init c) :
    Known c.shared := by
  refine h.invariant (P := fun c => Known c.shared) known_initial ?_
  intro c d a _ known _ hd
  cases a with
  | start t =>
    obtain ⟨_, rfl⟩ := act_start hd
    exact known
  | step i x =>
    obtain ⟨t, s, t', _, hn, rfl⟩ := act_step hd
    exact known.step (Thread.step_of_next hn)

section Simulating

variable {allowed : Config World Thread → Action Thread Occurrence → Prop}

/-- A run of the system, seen at one table, is a run of the parties of that table. -/
theorem simulates {ω ρ : Type} {P : Protocol Guid ρ} {party : Thread → Party Guid ω ρ Abort}
    (table : World → Registry Guid ω ρ Abort) (abandons : World → Thread → Occurrence → Bool)
    {allowed' : Config (Registry Guid ω ρ Abort) (Party Guid ω ρ Abort) →
      Action (Party Guid ω ρ Abort) (Input Guid ω ρ Abort) → Prop}
    (first : table .initial = .empty)
    (starting : ∀ w t, t.start w = true → (parties P).start (table w) (party t) = true)
    (moves : ∀ {w w' i t t' x}, Unused w → t.Step hosts w i x w' t' →
      Moves P (Fair (fun id => (id, i) ∈ w'.issued) (abandons w t x = true)) (table w) (table w')
        (party t) (party t'))
    (starts : ∀ c p, allowed' c (.start p))
    (steps : ∀ {c i x t y}, allowed c (.step i x) → c.pool[i]? = some t →
      (y = .abandon → abandons c.shared t x = true) →
      allowed' ⟨table c.shared, c.pool.map party⟩ (.step i y))
    {c : Config World Thread} (h : ReachableWhere (system hosts) allowed System.init c) :
    ReachableWhere (parties P) allowed' Rendezvous.start ⟨table c.shared, c.pool.map party⟩ := by
  have start : Rendezvous.start = (⟨table System.init.shared, System.init.pool.map party⟩ :
      Config (Registry Guid ω ρ Abort) (Party Guid ω ρ Abort)) := by
    simp only [System.init, first]
    rfl
  rw [start]
  refine ReachableWhere.view table party starting starts ?_ h
  intro c i x t s t' hc ha ht hn
  cases moves (known_of_reachable hc.reachable).unused (Thread.step_of_next hn) with
  | stays registry same => exact Or.inl ⟨registry, same⟩
  | steps y step input => exact Or.inr ⟨y, step, steps ha ht (by rintro rfl; exact input)⟩

theorem start_of_idle {ω ρ : Type} {P : Protocol Guid ρ} {r : Registry Guid ω ρ Abort} {p : Party Guid ω ρ Abort}
    (h : p = .idle) : (parties P).start r p = true := by
  rw [h]
  rfl

/-- Who starts elsewhere is idle here. -/
theorem start_of_here {ω ρ : Type} {P : Protocol Guid ρ} {r : Registry Guid ω ρ Abort} {p : Party Guid ω ρ Abort}
    (k n : Nat) (h : (parties P).start r p = true) : (parties P).start r (if k = n then p else .idle) = true := by
  split
  · exact h
  · rfl

theorem RequestCall.phase_of_start {call : RequestCall} (h : (Thread.request call).start w = true) :
    call.phase = .entered := by
  simp only [Thread.start] at h
  split at h
  next he => exact he
  next => cases h

theorem SendCall.phase_of_start {call : SendCall} (h : (Thread.send call).start w = true) :
    call.phase = .entered := by
  simp only [Thread.start] at h
  split at h
  next he => exact he
  next => cases h

theorem Disposal.phase_of_start {d : Disposal} (h : (Thread.disposal d).start w = true) : d.phase = .entered := by
  simp only [Thread.start] at h
  split at h
  next he => exact he
  next => cases h

theorem responseParty_start (n : Nat) {t : Thread} (h : t.start w = true) :
    (parties responseProtocol).start (w.responseWaiters n) (t.responseParty n) = true := by
  cases t with
  | request call => exact start_of_here _ n (start_of_idle (by simp [RequestCall.party, RequestCall.phase_of_start h]))
  | response k handler =>
    cases handler with
    | received r => exact start_of_here k n rfl
    | _ => cases h
  | disposal d => exact start_of_here _ n (start_of_idle (by simp [Disposal.responseParty, Disposal.phase_of_start h]))
  | _ => rfl

theorem ackParty_start (n : Nat) {t : Thread} (h : t.start w = true) :
    (parties ackProtocol).start (w.targetAckWaiters n) (t.ackParty n) = true := by
  cases t with
  | send call => exact start_of_here _ n (start_of_idle (by simp [SendCall.party, SendCall.phase_of_start h]))
  | ack k handler =>
    cases handler with
    | received a => exact start_of_here k n rfl
    | _ => cases h
  | disposal d => exact start_of_here _ n (start_of_idle (by simp [Disposal.ackParty, Disposal.phase_of_start h]))
  | _ => rfl

theorem response_simulation (n : Nat)
    {allowed' : Config ResponseWaiters ResponseParty → Action ResponseParty
      (Input Guid MediatorRef Response Abort) → Prop}
    (starts : ∀ c p, allowed' c (.start p))
    (steps : ∀ {c i x t y}, allowed c (.step i x) → c.pool[i]? = some t →
      (y = .abandon → t.abandonsResponse x = true) → allowed' (responseView n c) (.step i y))
    {c : Config World Thread} (h : ReachableWhere (system hosts) allowed System.init c) :
    ReachableWhere (parties responseProtocol) allowed' Rendezvous.start (responseView n c) :=
  simulates (fun w => w.responseWaiters n) (fun _ t x => t.abandonsResponse x) rfl
    (fun _ _ => responseParty_start n) (fun unused hs => hs.movesResponses unused n) starts steps h

theorem ack_simulation (n : Nat)
    {allowed' : Config TargetAckWaiters AckParty → Action AckParty
      (Input Guid MediatorRef SentObjectAck Abort) → Prop}
    (starts : ∀ c p, allowed' c (.start p))
    (steps : ∀ {c i x t y}, allowed c (.step i x) → c.pool[i]? = some t →
      (y = .abandon → t.abandonsAck hosts c.shared x = true) → allowed' (ackView n c) (.step i y))
    {c : Config World Thread} (h : ReachableWhere (system hosts) allowed System.init c) :
    ReachableWhere (parties ackProtocol) allowed' Rendezvous.start (ackView n c) :=
  simulates (fun w => w.targetAckWaiters n) (fun w t x => t.abandonsAck hosts w x) rfl
    (fun _ _ => ackParty_start n) (fun unused hs => hs.movesAcks unused n) starts steps h

theorem responses_kept {c : Config World Thread} (h : Reachable (system hosts) System.init c) (n : Nat) :
    Kept responseProtocol (c.shared.responseWaiters n) ∧ ∀ (i : Nat) (p : ResponseParty),
      (responseView n c).pool[i]? = some p → p.Fits responseProtocol (c.shared.responseWaiters n) :=
  kept_of_reachable (response_simulation n (fun _ _ => trivial) (fun _ _ _ => trivial) h)

theorem acks_kept {c : Config World Thread} (h : Reachable (system hosts) System.init c) (n : Nat) :
    Kept ackProtocol (c.shared.targetAckWaiters n) ∧ ∀ (i : Nat) (p : AckParty),
      (ackView n c).pool[i]? = some p → p.Fits ackProtocol (c.shared.targetAckWaiters n) :=
  kept_of_reachable (ack_simulation n (fun _ _ => trivial) (fun _ _ _ => trivial) h)

/-- Between two configurations of a run, the awaiters only move on. -/
theorem responses_evolve {c d : Config World Thread} {a : Action Thread Occurrence}
    (h : Reachable (system hosts) System.init c) (hd : (system hosts).act c a = some d) (n : Nat) :
    (c.shared.responseWaiters n).Evolves (d.shared.responseWaiters n) := by
  cases a with
  | start t =>
    obtain ⟨_, rfl⟩ := act_start hd
    exact .refl _
  | step i x =>
    obtain ⟨t, s, t', ht, hn, rfl⟩ := act_step hd
    cases (Thread.step_of_next hn).movesResponses (known_of_reachable h).unused n with
    | stays same => exact same ▸ .refl _
    | steps y step =>
      obtain ⟨kept, fits⟩ := responses_kept h n
      exact ((Party.step_of_next step).keeps kept (fits i _ (by simp [responseView, ht]))).1.evolves

theorem acks_evolve {c d : Config World Thread} {a : Action Thread Occurrence}
    (h : Reachable (system hosts) System.init c) (hd : (system hosts).act c a = some d) (n : Nat) :
    (c.shared.targetAckWaiters n).Evolves (d.shared.targetAckWaiters n) := by
  cases a with
  | start t =>
    obtain ⟨_, rfl⟩ := act_start hd
    exact .refl _
  | step i x =>
    obtain ⟨t, s, t', ht, hn, rfl⟩ := act_step hd
    cases (Thread.step_of_next hn).movesAcks (known_of_reachable h).unused n with
    | stays same => exact same ▸ .refl _
    | steps y step =>
      obtain ⟨kept, fits⟩ := acks_kept h n
      exact ((Party.step_of_next step).keeps kept (fits i _ (by simp [ackView, ht]))).1.evolves

end Simulating
end RabbitMediator
