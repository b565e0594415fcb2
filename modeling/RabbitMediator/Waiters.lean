import RabbitMediator.RendezvousStrays
import RabbitMediator.Simulation

namespace RabbitMediator

open Interleaving Registry Rendezvous

section Responses

/-- The correlation id of a call that has neither returned nor thrown. -/
def RequestCall.pendingId (c : RequestCall) : Option Guid :=
  match c.phase with
  | .publishing _ issued | .delaying issued | .waiting issued => some issued.request.correlationId
  | _ => none

theorem RequestCall.pendingId_of_party {c : RequestCall} {id : Guid} {u : Nat} (h : c.party = .client id u) :
    c.pendingId = some id := by
  unfold RequestCall.party at h
  unfold RequestCall.pendingId
  split at h <;> cases h <;> simp_all

/-- At the step, a call of `Request` goes with an exception that does not remove its entry only when the
entry has gone already. -/
def TidyRequests (c : Config World Thread) (a : Action Thread Occurrence) : Prop :=
  ∀ i x call id, a = .step i x → c.pool[i]? = some (.request call) → call.abandons x = true →
    call.pendingId = some id → id ∉ (c.shared.responseWaiters call.mediator.multiplexer).entries

theorem Thread.request_of_client {n : Nat} {t : Thread} {id : Guid} {u : Nat}
    (h : t.responseParty n = .client id u) :
    ∃ call, t = .request call ∧ call.mediator.multiplexer = n ∧ call.pendingId = some id := by
  cases t with
  | request call =>
    simp only [responseParty] at h
    split at h
    next hm => exact ⟨call, rfl, hm, RequestCall.pendingId_of_party h⟩
    next => cases h
  | response k handler =>
    simp only [responseParty] at h
    split at h <;> cases h
  | disposal d =>
    simp only [responseParty, Disposal.responseParty] at h
    split at h
    · split at h <;> cases h
    · cases h
  | _ => cases h

/-- No response waiter outlives its call, in every run in which no call leaves its entry behind. -/
theorem response_waiter_pending {hosts : Hosts} {c : Config World Thread}
    (h : ReachableWhere (system hosts) TidyRequests System.init c) {n : Nat} {id : Guid}
    (he : id ∈ (c.shared.responseWaiters n).entries) :
    ∃ (i : Nat) (call : RequestCall), c.pool[i]? = some (.request call) ∧
      call.mediator.multiplexer = n ∧ call.pendingId = some id := by
  have view : ReachableWhere (parties responseProtocol) Attended Rendezvous.start (responseView n c) := by
    refine response_simulation n (fun _ _ => trivial) (fun {c i x t y} tidy ht abandons => ?_) h
    cases y with
    | abandon =>
      intro id u hp
      simp only [responseView, List.getElem?_map, ht, Option.map_some, Option.some.injEq] at hp
      obtain ⟨call, rfl, rfl, hid⟩ := Thread.request_of_client hp
      exact AList.lookup_eq_none.mpr (tidy i x call id rfl ht (abandons rfl) hid)
    | _ => trivial
  obtain ⟨u, hu⟩ := Option.isSome_iff_exists.mp (AList.lookup_isSome.mpr he)
  obtain ⟨i, hi⟩ := client_of_entry view hu
  simp only [responseView, List.getElem?_map, Option.map_eq_some_iff] at hi
  obtain ⟨t, ht, hp⟩ := hi
  obtain ⟨call, rfl, hm, hid⟩ := Thread.request_of_client hp
  exact ⟨i, call, ht, hm, hid⟩

/-- The check that no call goes with its entry left behind. -/
def nobodyAbandons (c : Config World Thread) : Action Thread Occurrence → Bool
  | .start _ => true
  | .step i x => match c.pool[i]? with
    | some (.request call) => !call.abandons x
    | some (.send call) => !call.abandons testHosts c.shared x
    | _ => true

theorem tidyRequests_of_check (c : Config World Thread) (a : Action Thread Occurrence)
    (h : nobodyAbandons c a = true) : TidyRequests c a := by
  rintro i x call id rfl hp ha
  simp [nobodyAbandons, hp, ha] at h

theorem testRequest_waiter_pending :
    ∃ c, (system testHosts).run nobodyAbandons System.init testRequestRun = some c ∧
      ∃ (i : Nat) (call : RequestCall), c.pool[i]? = some (.request call) ∧
        call.mediator.multiplexer = 0 ∧ call.pendingId = some ⟨7⟩ := by
  have h : ((system testHosts).run nobodyAbandons System.init testRequestRun).any
      (fun c => ⟨7⟩ ∈ (c.shared.responseWaiters 0).entries) = true := by decide
  obtain ⟨c, hc, he⟩ := (Option.any_eq_true _ _).mp h
  exact ⟨c, hc, response_waiter_pending (.of_run .start tidyRequests_of_check hc) (by simpa using he)⟩

/-- The token is cancelled while the topology channel is opened. -/
def testCancelledRun : List (Action Thread Occurrence) :=
  .start (.request testCall) :: steps 0 (issues ⟨7⟩ ++ [.go, .ended (.error operationCanceled)])

theorem cancelled_request_leaves_waiter :
    ¬∀ hosts c, Reachable (system hosts) System.init c → ∀ n id,
      id ∈ (c.shared.responseWaiters n).entries → ∃ (i : Nat) (call : RequestCall),
        c.pool[i]? = some (.request call) ∧ call.mediator.multiplexer = n ∧ call.pendingId = some id := by
  intro claim
  have h : ((system testHosts).run (fun _ _ => true) System.init testCancelledRun).any (fun c =>
      decide (⟨7⟩ ∈ (c.shared.responseWaiters 0).entries) &&
        c.pool.all fun t => t.requestCall.all fun call => call.pendingId ≠ some ⟨7⟩) = true := by decide
  obtain ⟨c, hc, hl⟩ := (Option.any_eq_true _ _).mp h
  obtain ⟨he, hn⟩ := Bool.and_eq_true_iff.mp hl
  obtain ⟨i, call, hi, _, hid⟩ := claim testHosts c (.of_run .start (fun _ _ _ => trivial) hc) 0 ⟨7⟩
    (by simpa using he)
  simpa [Thread.requestCall, hid] using List.all_eq_true.mp hn _ (List.mem_of_getElem? hi)

end Responses

section Acks

def SendCall.pendingId (c : SendCall) : Option Guid :=
  match c.phase with
  | .publishing _ prepared | .delaying prepared _ | .waiting _ prepared _ =>
    some prepared.message.correlationId
  | _ => none

def Thread.sendCall : Thread → Option SendCall
  | .send call => some call
  | _ => none

theorem SendCall.pendingId_of_party {c : SendCall} {id : Guid} {u : Nat} (h : c.party = .client id u) :
    c.pendingId = some id := by
  unfold SendCall.party at h
  unfold SendCall.pendingId
  split at h
  next => split at h <;> cases h; simp_all
  next => cases h; simp_all
  next => cases h; simp_all
  next => cases h

/-- Whether a thread is a call of `Send` never changes. -/
theorem Thread.Step.sendCall {hosts : Hosts} {w w' : World} {i : Nat} {t t' : Thread} {x : Occurrence}
    (hs : t.Step hosts w i x w' t') : t'.sendCall.isSome = t.sendCall.isSome := by
  cases hs <;> rfl

theorem Thread.send_of_client {n : Nat} {t : Thread} {id : Guid} {u : Nat}
    (h : t.ackParty n = .client id u) :
    ∃ call, t = .send call ∧ call.mediator.multiplexer = n ∧ call.pendingId = some id := by
  cases t with
  | send call =>
    simp only [ackParty] at h
    split at h
    next hm => exact ⟨call, rfl, hm, SendCall.pendingId_of_party h⟩
    next => cases h
  | ack k handler =>
    simp only [ackParty] at h
    split at h <;> cases h
  | disposal d =>
    simp only [ackParty, Disposal.ackParty] at h
    split at h
    · split at h <;> cases h
    · cases h
  | _ => cases h

end Acks
end RabbitMediator
