import RabbitMediator.Simulation

namespace RabbitMediator

open Interleaving Registry Rendezvous

/-- At the step, no handler finds an awaiter that another one found and has not completed yet, and
`AbortWaiters` sets its exception on none that a handler found and has not completed yet. -/
def ClaimsAlone (c : Config World Thread) (a : Action Thread Occurrence) : Prop :=
  ∀ i x, a = .step i x → ∀ n, Exclusive responseProtocol (responseView n c) i ∧
    Exclusive ackProtocol (ackView n c) i

/-- No waiter is completed twice: in every run whose steps claim alone, no `SetResult` throws, and what
an awaiter was completed with stays. -/
theorem completed_once {hosts : Hosts} {c : Config World Thread}
    (h : ReachableWhere (system hosts) ClaimsAlone System.init c) :
    (∀ (i n w : Nat), c.pool[i]? ≠ some (.response n (.faulted w)) ∧
      c.pool[i]? ≠ some (.ack n (.faulted w))) ∧
    ∀ a d, (system hosts).act c a = some d → ∀ n w,
      ((c.shared.responseWaiters n).completion w ≠ .pending →
        (d.shared.responseWaiters n).completion w = (c.shared.responseWaiters n).completion w) ∧
      ((c.shared.targetAckWaiters n).completion w ≠ .pending →
        (d.shared.targetAckWaiters n).completion w = (c.shared.targetAckWaiters n).completion w) := by
  refine ⟨fun i n w => ⟨fun hi => ?_, fun hi => ?_⟩, fun a d hd n w => ⟨?_, ?_⟩⟩
  · have alone := alone_of_exclusive (P := responseProtocol) (response_simulation n
      (by rintro _ _ _ _ ⟨⟩) (fun claims _ _ j y he => by cases he; exact (claims _ _ rfl n).1) h)
    exact alone.unfaulted (i := i) (w := w) (by simp [responseView, hi, Thread.responseParty])
  · have alone := alone_of_exclusive (P := ackProtocol) (ack_simulation n
      (by rintro _ _ _ _ ⟨⟩) (fun claims _ _ j y he => by cases he; exact (claims _ _ rfl n).2) h)
    exact alone.unfaulted (i := i) (w := w) (by simp [ackView, hi, Thread.ackParty])
  · exact (responses_evolve h.reachable hd n).completion_eq
  · exact (acks_evolve h.reachable hd n).completion_eq

/-- The thread is no handler between its lookup and its end. -/
def Thread.free : Thread → Bool
  | .response _ (.found _ _) | .response _ (.removed _ _) | .response _ (.ready _ _) => false
  | .ack _ (.found _ _) | .ack _ (.removed _ _) | .ack _ (.ready _ _) => false
  | _ => true

theorem Thread.not_holds_of_free {t : Thread} (h : t.free = true) (n w : Nat) :
    ¬(t.responseParty n).holds w ∧ ¬(t.ackParty n).holds w := by
  cases t with
  | request call =>
    refine ⟨?_, fun h => h⟩
    simp only [responseParty, RequestCall.party]
    split
    · split <;> exact fun h => h
    · exact fun h => h
  | send call =>
    refine ⟨fun h => h, ?_⟩
    simp only [ackParty, SendCall.party]
    split
    · split
      · split <;> exact fun h => h
      all_goals exact fun h => h
    · exact fun h => h
  | delivery m o done => exact ⟨fun h => h, fun h => h⟩
  | response k handler =>
    refine ⟨?_, fun h => h⟩
    simp only [responseParty]
    split
    · cases handler <;> first | exact fun h => h | cases h
    · exact fun h => h
  | ack k handler =>
    refine ⟨fun h => h, ?_⟩
    simp only [ackParty]
    split
    · cases handler <;> first | exact fun h => h | cases h
    · exact fun h => h
  | disposal d =>
    constructor
    · simp only [responseParty, Disposal.responseParty]
      split
      · split <;> exact fun h => h
      · exact fun h => h
    · simp only [ackParty, Disposal.ackParty]
      split
      · split <;> exact fun h => h
      · exact fun h => h

/-- All threads but the one that steps are free. -/
def othersFree (c : Config World Thread) : Action Thread Occurrence → Bool
  | .start _ => true
  | .step i _ => (List.range c.pool.length).all fun j => j = i || c.pool[j]?.all Thread.free

theorem claimsAlone_of_check (c : Config World Thread) (a : Action Thread Occurrence)
    (h : othersFree c a = true) : ClaimsAlone c a := by
  rintro i x rfl n
  have free : ∀ {j : Nat} {t : Thread}, j ≠ i → c.pool[j]? = some t → t.free = true := by
    intro j t hj ht
    have := List.all_eq_true.mp h j (List.mem_range.mpr (List.getElem?_eq_some_iff.mp ht).1)
    simpa [hj, ht] using this
  constructor <;> intro p w hp claims j q hq
  · by_cases hj : j = i
    · subst hj
      cases hp.symm.trans hq
      exact claims.not_holds w
    · simp only [responseView, List.getElem?_map, Option.map_eq_some_iff] at hq
      obtain ⟨t, ht, rfl⟩ := hq
      exact (Thread.not_holds_of_free (free hj ht) n w).1
  · by_cases hj : j = i
    · subst hj
      cases hp.symm.trans hq
      exact claims.not_holds w
    · simp only [ackView, List.getElem?_map, Option.map_eq_some_iff] at hq
      obtain ⟨t, ht, rfl⟩ := hq
      exact (Thread.not_holds_of_free (free hj ht) n w).2

/-- The response of `testAnswerRun` completes the awaiter of its call. -/
theorem testAnswer_completed_once :
    ∃ c, (system testHosts).run othersFree System.init (testAnswerRun ++ steps 2 [.go, .go, .go, .go]) =
        some c ∧
      (c.shared.responseWaiters 0).completion 0 ≠ .pending ∧
      ∀ a d, (system testHosts).act c a = some d →
        (d.shared.responseWaiters 0).completion 0 = (c.shared.responseWaiters 0).completion 0 := by
  have h : ((system testHosts).run othersFree System.init
      (testAnswerRun ++ steps 2 [.go, .go, .go, .go])).any
      (fun c => (c.shared.responseWaiters 0).completion 0 ≠ .pending) = true := by decide +kernel
  obtain ⟨c, hc, hp⟩ := (Option.any_eq_true _ _).mp h
  have hp : (c.shared.responseWaiters 0).completion 0 ≠ .pending := by simpa using hp
  exact ⟨c, hc, hp, fun a d hd =>
    ((completed_once (.of_run .start claimsAlone_of_check hc)).2 a d hd 0 0).1 hp⟩

/-- The handler of a response finds the awaiter, the mediator is disposed, and the handler goes on. -/
def testDisposedRun : List (Action Thread Occurrence) :=
  testAnswerRun ++ steps 2 [.go] ++ [.start (.disposal ⟨.mediator ⟨0, 0⟩, .entered⟩)] ++
    steps 3 [.go, .go, .go, .visited (some ⟨7⟩), .visited none, .visited none] ++ steps 2 [.go, .go, .go]

/-- The thread is a handler of a response whose `SetResult` has thrown. -/
def Thread.threwAt (n w : Nat) : Thread → Bool
  | .response k (.faulted u) => k = n && u = w
  | _ => false

theorem disposal_makes_setResult_throw :
    ¬∀ hosts c, Reachable (system hosts) System.init c → ∀ (i n w : Nat),
      c.pool[i]? ≠ some (.response n (.faulted w)) := by
  intro claim
  have h : ((system testHosts).run (fun _ _ => true) System.init testDisposedRun).any (fun c =>
      c.pool[2]?.any (Thread.threwAt 0 0)) = true := by decide +kernel
  obtain ⟨c, hc, hf⟩ := (Option.any_eq_true _ _).mp h
  obtain ⟨t, ht, hf⟩ := (Option.any_eq_true _ _).mp hf
  have never := claim testHosts c (.of_run .start (fun _ _ _ => trivial) hc) 2 0 0
  unfold Thread.threwAt at hf
  split at hf
  next k u =>
    obtain ⟨rfl, rfl⟩ : k = 0 ∧ u = 0 := by simpa using hf
    exact never ht
  next => cases hf

end RabbitMediator
