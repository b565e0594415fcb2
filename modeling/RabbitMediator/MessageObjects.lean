import RabbitMediator.Waiters

namespace RabbitMediator.MessageObjects

open Interleaving Registry Rendezvous

/-- The multiplexers, and what each message object says. A caller may hand one object to several calls of
`Send`, each of which writes its own sender and id into it. -/
structure State where
  world : World
  objects : Nat → IMessage

/-- What runs at the same time. A call of `Send` keeps its message object, and what the object said when it
was serialized. -/
inductive Holder
  | send (call : SendCall) (object : Nat) (serialized : Option IMessage)
  /-- Anybody else who writes into an object, as `SendResponse` does with the response of a consumer. -/
  | writer (object : Nat) (message : IMessage) (done : Bool)
  | other (thread : Thread)

/-- The call with what its message object says while it has not read everything from it. -/
def readBy (s : State) (call : SendCall) (object : Nat) : SendCall :=
  { call with message := match call.phase with
    | .entered | .preparing => s.objects object
    | _ => call.message }

/-- What the objects say after a step of a call, which writes into its own once it has drawn its id. -/
def State.objectsAfter (s : State) (call call' : SendCall) (object : Nat) : Nat → IMessage :=
  match call.phase, call'.phase with
  | .preparing, .publishing _ prepared => Function.update s.objects object prepared.message
  | _, _ => s.objects

def State.serializedAfter (s : State) (call : SendCall) (object : Nat) (serialized : Option IMessage) :
    Occurrence → Option IMessage
  | .ended (.ok _) => match call.phase with
    | .publishing .serialize _ => some (s.objects object)
    | _ => serialized
  | _ => serialized

namespace Holder

def start (s : State) : Holder → Bool
  | .send call object serialized =>
    (Thread.send call).start s.world && decide (call.message = s.objects object) && serialized.isNone
  | .writer _ _ done => !done
  | .other thread => thread.sendCall.isNone && thread.start s.world

def next (hosts : Hosts) (s : State) (i : Nat) : Holder → Occurrence → Option (State × Holder)
  | .send call object serialized, x =>
    ((readBy s call object).nextWith (fun _ => s.objects object) (fun prepared => serialized.getD prepared.message)
      hosts s.world i x).map fun p =>
        (⟨p.1, s.objectsAfter call p.2 object⟩, .send p.2 object (s.serializedAfter call object serialized x))
  | .writer object message false, .go =>
    -- the class of an object never changes
    if message.type = (s.objects object).type then
      some ({ s with objects := Function.update s.objects object message }, .writer object message true)
    else none
  | .other thread, x =>
    if thread.sendCall.isNone then
      (thread.next hosts s.world i x).map fun p => ({ s with world := p.1 }, .other p.2)
    else none
  | _, _ => none

/-- Everything that can happen in one step. -/
inductive Step (hosts : Hosts) (s : State) (i : Nat) : Holder → Occurrence → State → Holder → Prop
  | send {call call' object serialized x w}
      (h : (readBy s call object).StepWith (fun _ => s.objects object)
        (fun prepared => serialized.getD prepared.message) hosts s.world i x w call') :
      Step hosts s i (.send call object serialized) x ⟨w, s.objectsAfter call call' object⟩
        (.send call' object (s.serializedAfter call object serialized x))
  | wrote {object message} :
      Step hosts s i (.writer object message false) .go
        { s with objects := Function.update s.objects object message } (.writer object message true)
  | other {t t' x w} (h : t.Step hosts s.world i x w t') (unsent : t.sendCall = none) :
      Step hosts s i (.other t) x { s with world := w } (.other t')

theorem step_of_next {hosts : Hosts} {s s' : State} {i : Nat} {t t' : Holder} {x : Occurrence}
    (h : t.next hosts s i x = some (s', t')) : t.Step hosts s i x s' t' := by
  cases t with
  | send call object serialized =>
    obtain ⟨p, hn, he⟩ := Option.map_eq_some_iff.mp h
    cases he
    exact .send (SendCall.step_of_nextWith hn)
  | writer object message done =>
    cases done <;> cases x <;> simp only [next, reduceCtorEq] at h
    split at h
    next =>
      cases h
      exact .wrote
    next => cases h
  | other t =>
    simp only [next] at h
    split at h
    next unsent =>
      obtain ⟨p, hn, he⟩ := Option.map_eq_some_iff.mp h
      cases he
      exact .other (Thread.step_of_next hn) (Option.isNone_iff_eq_none.mp unsent)
    next => cases h

def sendCall : Holder → Option SendCall
  | .send call _ _ => some call
  | _ => none

/-- What it is at the ack awaiters of multiplexer `n`. -/
def ackParty (n : Nat) : Holder → AckParty
  | .send call _ _ => (Thread.send call).ackParty n
  | .writer _ _ _ => .idle
  | .other thread => thread.ackParty n

end Holder

def system (hosts : Hosts) : Threads State Holder Occurrence where
  start := Holder.start
  next s i t x := t.next hosts s i x

def init (objects : Nat → IMessage) : Config State Holder := ⟨⟨.initial, objects⟩, []⟩

section Registries

variable {hosts : Hosts} {s s' : State} {i : Nat} {t t' : Holder} {x : Occurrence}

theorem Holder.Step.known (known : Known s.world) (hs : t.Step hosts s i x s' t') : Known s'.world := by
  cases hs with
  | @send call call' object serialized _ w h =>
    refine known.draws h.issued (fun n => ?_) fun n => ?_
    · rw [h.responseWaiters n]
      exact draws_refl _
    · by_cases hn : n = call.mediator.multiplexer
      · subst hn
        rcases h.moves fun id fresh => (known.unused id _ fresh).2 with moves | ⟨_, _, _, _, _, _, same⟩
        · exact draws_of_moves moves
        · have same : w.targetAckWaiters call.mediator.multiplexer = _ := same
          rw [same]
          exact draws_refl _
      · rw [h.targetAckWaiters_ne hn]
        exact draws_refl _
  | wrote => exact known
  | other h => exact known.step h

theorem known_of_reachable {objects : Nat → IMessage} {c : Config State Holder}
    (h : Reachable (system hosts) (init objects) c) : Known c.shared.world := by
  refine h.invariant (P := fun c => Known c.shared.world) known_initial ?_
  intro c d a _ known _ hd
  cases a with
  | start t =>
    obtain ⟨_, rfl⟩ := act_start hd
    exact known
  | step i x =>
    obtain ⟨t, s, t', _, hn, rfl⟩ := act_step hd
    exact (Holder.step_of_next hn).known known

theorem Holder.ackParty_start (n : Nat) (h : t.start s = true) :
    (strays ackProtocol).start (s.world.targetAckWaiters n) (t.ackParty n) = true := by
  cases t with
  | send call object serialized =>
    simp only [start, Bool.and_eq_true] at h
    exact RabbitMediator.ackParty_start n h.1.1
  | writer object message done => rfl
  | other t =>
    simp only [start, Bool.and_eq_true] at h
    exact RabbitMediator.ackParty_start n h.2

/-- A call of `Send` is always one that has its message object. -/
theorem unsent_of_reachable {objects : Nat → IMessage} {c : Config State Holder}
    (h : Reachable (system hosts) (init objects) c) {t : Thread} (hi : c.pool[i]? = some (.other t)) :
    t.sendCall = none := by
  revert i t
  refine h.invariant (P := fun c => ∀ {i : Nat} {t : Thread}, c.pool[i]? = some (.other t) → t.sendCall = none)
    (by simp [init]) ?_
  intro c d a _ ih _ hd i t hi
  cases a with
  | start u =>
    obtain ⟨hs, rfl⟩ := act_start hd
    rcases pool_append_cases hi with hi | ⟨_, rfl⟩
    · exact ih hi
    · simp only [system, Holder.start, Bool.and_eq_true, Option.isNone_iff_eq_none] at hs
      exact hs.1
  | step j x =>
    obtain ⟨u, s, u', hu, hn, rfl⟩ := act_step hd
    rcases pool_set_cases hu hi with ⟨rfl, rfl⟩ | ⟨_, hi⟩
    · cases Holder.step_of_next hn with
      | other h unsent => simpa [unsent] using h.sendCall
    · exact ih hi

theorem Holder.send_of_client {n : Nat} {id : Guid} {u : Nat} (h : t.ackParty n = .client id u)
    (unsent : ∀ thread, t = .other thread → thread.sendCall = none) :
    ∃ call object serialized, t = .send call object serialized ∧ call.mediator.multiplexer = n ∧
      call.pendingId = some id := by
  cases t with
  | send call object serialized =>
    obtain ⟨call', he, hm, hid⟩ := Thread.send_of_client (t := .send call) h
    cases he
    exact ⟨call, object, serialized, rfl, hm, hid⟩
  | writer object message done => cases h
  | other t =>
    obtain ⟨call, rfl, _⟩ := Thread.send_of_client (t := t) h
    cases unsent _ rfl

end Registries

section Waiters

/-- At the step, a call of `Send` goes without removing its own entry only when that has gone already. It does
not remove it when its message object carries the id of another call by then. -/
def TidySends (hosts : Hosts) (c : Config State Holder) (a : Action Holder Occurrence) : Prop :=
  ∀ i x call object serialized id, a = .step i x → c.pool[i]? = some (.send call object serialized) →
    call.pendingId = some id →
    (call.abandons hosts c.shared.world x = true ∨
      call.removes x = true ∧ (c.shared.objects object).correlationId ≠ id) →
    id ∉ (c.shared.world.targetAckWaiters call.mediator.multiplexer).entries

/-- How a step goes without removing the entry of the call that takes it. -/
def Holder.Goes (hosts : Hosts) (s : State) (t : Holder) (x : Occurrence) :
    StrayInput Guid MediatorRef SentObjectAck Abort → Prop
  | .own .abandon => ∃ call object serialized, t = .send call object serialized ∧
      call.abandons hosts s.world x = true
  | .stray id => ∃ call object serialized, t = .send call object serialized ∧ call.removes x = true ∧
      (s.objects object).correlationId = id
  | _ => True

/-- At the ack awaiters of a multiplexer, each step is a step of one of its parties or none. -/
theorem Holder.Step.movesAcks {hosts : Hosts} {s s' : State} {i : Nat} {t t' : Holder} {x : Occurrence}
    (hs : t.Step hosts s i x s' t') (unused : Unused s.world) (n : Nat) :
    (s'.world.targetAckWaiters n = s.world.targetAckWaiters n ∧ t'.ackParty n = t.ackParty n) ∨
      ∃ y, (strays ackProtocol).next (s.world.targetAckWaiters n) i (t.ackParty n) y =
        some (s'.world.targetAckWaiters n, t'.ackParty n) ∧ t.Goes hosts s x y := by
  cases hs with
  | @send call call' object serialized _ w hs =>
    have mediator : call'.mediator = call.mediator := hs.mediator
    simp only [ackParty, Thread.ackParty, mediator]
    by_cases hm : call.mediator.multiplexer = n
    · subst hm
      simp only [if_true]
      rcases hs.moves fun id fresh => (unused id _ fresh).2 with
        moves | ⟨prepared, u, _, client, idle, removes, same⟩
      · cases moves with
        | stays registry party => exact Or.inl ⟨registry, party⟩
        | steps y step input =>
          refine Or.inr ⟨.own y, step, ?_⟩
          cases y with
          | abandon => exact ⟨call, object, serialized, rfl, input⟩
          | _ => trivial
      · have client : call.party = _ := client
        refine Or.inr ⟨.stray (s.objects object).correlationId, ?_, call, object, serialized, rfl, removes, rfl⟩
        rw [client, idle]
        exact congrArg (fun r => some (r, Party.idle)) same.symm
    · simp only [if_neg hm, and_true]
      exact Or.inl (hs.targetAckWaiters_ne (Ne.symm hm))
  | wrote => exact Or.inl ⟨rfl, rfl⟩
  | @other t t' _ w hs unsent =>
    cases hs.movesAcks unused n with
    | stays registry party => exact Or.inl ⟨registry, party⟩
    | steps y step input =>
      refine Or.inr ⟨.own y, step, ?_⟩
      cases y with
      | abandon =>
        cases t with
        | send call => cases unsent
        | _ => cases input
      | _ => trivial

theorem TidySends.attended {hosts : Hosts} {c : Config State Holder} {i n : Nat} {t : Holder} {x : Occurrence}
    (tidy : TidySends hosts c (.step i x)) (ht : c.pool[i]? = some t)
    (unsent : ∀ thread, t = .other thread → thread.sendCall = none)
    {y : StrayInput Guid MediatorRef SentObjectAck Abort} (goes : t.Goes hosts c.shared x y) :
    StrayAttended ⟨c.shared.world.targetAckWaiters n, c.pool.map (Holder.ackParty n)⟩ (.step i y) := by
  have here : (c.pool.map (Holder.ackParty n))[i]? = some (t.ackParty n) := by simp [ht]
  cases y with
  | own y =>
    cases y with
    | abandon =>
      intro id u hp
      obtain ⟨call, object, serialized, rfl, rfl, hid⟩ :=
        Holder.send_of_client (Option.some.inj (here.symm.trans hp)) unsent
      obtain ⟨_, _, _, he, abandons⟩ := goes
      cases he
      exact AList.lookup_eq_none.mpr (tidy i x call object serialized id rfl ht hid (Or.inl abandons))
    | _ => trivial
  | stray id' =>
    intro id u hp
    obtain ⟨call, object, serialized, rfl, rfl, hid⟩ :=
      Holder.send_of_client (Option.some.inj (here.symm.trans hp)) unsent
    obtain ⟨_, _, _, he, removes, rfl⟩ := goes
    cases he
    by_cases same : (c.shared.objects object).correlationId = id
    · exact Or.inl same.symm
    · exact Or.inr (AList.lookup_eq_none.mpr
        (tidy i x call object serialized id rfl ht hid (Or.inr ⟨removes, same⟩)))

/-- No ack waiter outlives its call, in every run in which no call leaves its entry behind. -/
theorem ack_waiter_pending {hosts : Hosts} {objects : Nat → IMessage} {c : Config State Holder}
    (h : ReachableWhere (system hosts) (TidySends hosts) (init objects) c) {n : Nat} {id : Guid}
    (he : id ∈ (c.shared.world.targetAckWaiters n).entries) :
    ∃ (i : Nat) (call : SendCall) (object : Nat) (serialized : Option IMessage),
      c.pool[i]? = some (.send call object serialized) ∧ call.mediator.multiplexer = n ∧
        call.pendingId = some id := by
  have view : ReachableWhere (strays ackProtocol) StrayAttended Rendezvous.start
      ⟨c.shared.world.targetAckWaiters n, c.pool.map (Holder.ackParty n)⟩ := by
    have starts : ∀ (c : Config TargetAckWaiters AckParty) p, StrayAttended c (.start p) := fun _ _ => trivial
    refine ReachableWhere.view (fun s => s.world.targetAckWaiters n) (Holder.ackParty n)
      (fun _ _ => Holder.ackParty_start n) starts ?_ h
    intro c i x t s t' hc tidy ht hn
    rcases (Holder.step_of_next hn).movesAcks (known_of_reachable hc.reachable).unused n with
      stays | ⟨y, step, goes⟩
    · exact Or.inl stays
    · have unsent : ∀ thread, t = .other thread → thread.sendCall = none :=
        fun thread he => unsent_of_reachable hc.reachable (he ▸ ht)
      exact Or.inr ⟨y, step, tidy.attended ht unsent goes⟩
  obtain ⟨u, hu⟩ := Option.isSome_iff_exists.mp (AList.lookup_isSome.mpr he)
  obtain ⟨i, hi⟩ := client_of_stray_entry view hu
  simp only [List.getElem?_map, Option.map_eq_some_iff] at hi
  obtain ⟨t, ht, hp⟩ := hi
  obtain ⟨call, object, serialized, rfl, hm, hid⟩ := Holder.send_of_client hp
    fun thread he => unsent_of_reachable h.reachable (he ▸ ht)
  exact ⟨i, call, object, serialized, ht, hm, hid⟩

/-- The check that no call goes with its entry left behind. -/
def tidies (c : Config State Holder) : Action Holder Occurrence → Bool
  | .start _ => true
  | .step i x => match c.pool[i]? with
    | some (.send call object _) => call.pendingId.all fun id =>
      !call.abandons testHosts c.shared.world x &&
        (!call.removes x || decide ((c.shared.objects object).correlationId = id))
    | _ => true

theorem tidySends_of_check (c : Config State Holder) (a : Action Holder Occurrence) (h : tidies c a = true) :
    TidySends testHosts c a := by
  rintro i x call object serialized id rfl hp hid goes
  simp only [tidies, hp, hid, Option.all_some, Bool.and_eq_true, Bool.not_eq_true', Bool.or_eq_true,
    decide_eq_true_eq] at h
  rcases goes with abandons | ⟨removes, other⟩
  · simp [h.1] at abandons
  · rcases h.2 with none | same
    · simp [removes] at none
    · exact absurd same other

def stepsOf (i : Nat) (xs : List Occurrence) : List (Action Holder Occurrence) := xs.map (.step i)

/-- Two calls of `Send` have the same object, and the second is cancelled while both wait. -/
def testSharedRun : List (Action Holder Occurrence) :=
  [.start (.send testSend 0 none), .start (.send testSend 0 none)] ++
    stepsOf 0 [.checked false, .drew ⟨9⟩] ++ stepsOf 1 [.checked false, .drew ⟨10⟩] ++ stepsOf 0 publishes ++
    stepsOf 1 [.go, .ended (.ok ()), .ended (.ok ()), .published ⟨true, .ok ()⟩, .go, .elapsed true]

theorem testSend_waiter_pending :
    ∃ c, (system testHosts).run tidies (init fun _ => .message testMessage) testSharedRun = some c ∧
      ∃ (i : Nat) (call : SendCall) (object : Nat) (serialized : Option IMessage),
        c.pool[i]? = some (.send call object serialized) ∧ call.mediator.multiplexer = 0 ∧
          call.pendingId = some ⟨9⟩ := by
  have h : ((system testHosts).run tidies (init fun _ => .message testMessage) testSharedRun).any
      (fun c => ⟨9⟩ ∈ (c.shared.world.targetAckWaiters 0).entries) = true := by decide +kernel
  obtain ⟨c, hc, he⟩ := (Option.any_eq_true _ _).mp h
  exact ⟨c, hc, ack_waiter_pending (.of_run .start tidySends_of_check hc) (by simpa using he)⟩

/-- The first call is cancelled too, and removes the id of the second. -/
example : ((system testHosts).run (fun _ _ => true) (init fun _ => .message testMessage)
    (testSharedRun ++ stepsOf 0 [.elapsed true])).any
      (fun c => ⟨9⟩ ∈ (c.shared.world.targetAckWaiters 0).entries) = true := by
  decide +kernel

/-- No ack comes before the confirm timeout. -/
theorem unconfirmed_send_leaves_waiter :
    ¬∀ hosts objects c, Reachable (system hosts) (init objects) c → ∀ n id,
      id ∈ (c.shared.world.targetAckWaiters n).entries →
        ∃ (i : Nat) (call : SendCall) (object : Nat) (serialized : Option IMessage),
          c.pool[i]? = some (.send call object serialized) ∧ call.mediator.multiplexer = n ∧
            call.pendingId = some id := by
  intro claim
  have h : ((system testHosts).run (fun _ _ => true) (init fun _ => .message testMessage)
      (.start (.send testSend 0 none) ::
        stepsOf 0 ([.checked false, .drew ⟨9⟩] ++ publishes ++ [.elapsed false]))).any (fun c =>
          decide (⟨9⟩ ∈ (c.shared.world.targetAckWaiters 0).entries) &&
            c.pool.all fun t => t.sendCall.all fun call => call.pendingId ≠ some ⟨9⟩) = true := by
    decide +kernel
  obtain ⟨c, hc, hl⟩ := (Option.any_eq_true _ _).mp h
  obtain ⟨he, hn⟩ := Bool.and_eq_true_iff.mp hl
  obtain ⟨i, call, object, serialized, hi, _, hid⟩ := claim testHosts _ c
    (.of_run .start (fun _ _ _ => trivial) hc) 0 ⟨9⟩ (by simpa using he)
  simpa [Holder.sendCall, hid] using List.all_eq_true.mp hn _ (List.mem_of_getElem? hi)

end Waiters

section OwnObjects

/-- The object that a holder may still read or write. -/
def Holder.object : Holder → Option Nat
  | .send call object _ => match call.phase with
    | .ended _ _ => none
    | _ => some object
  | .writer object _ done => if done then none else some object
  | .other _ => none

/-- Whoever starts has an object that nobody else holds. -/
def OwnObjects (c : Config State Holder) : Action Holder Occurrence → Prop
  | .start t => ∀ (i : Nat) u object, c.pool[i]? = some u → t.object = some object → u.object ≠ some object
  | .step _ _ => True

/-- A call whose object says what the call has read from it or written into it. -/
def Current (s : State) (call : SendCall) (object : Nat) (serialized : Option IMessage) : Prop :=
  match call.phase with
  | .entered | .preparing => s.objects object = call.message ∧ serialized = none
  | .publishing _ prepared | .delaying prepared _ | .waiting _ prepared _ =>
    s.objects object = prepared.message ∧ ∀ m, serialized = some m → m = prepared.message
  | .ended _ _ => True

/-- What is left of a holder when objects are of no interest. A writer is somebody who never does anything. -/
def Holder.plain : Holder → Thread
  | .send call _ _ => .send call
  | .writer _ _ _ => .disposal ⟨.multiplexer 0, .entered⟩
  | .other thread => thread

/-- The call as a call of the plain system. -/
theorem Current.next {hosts : Hosts} {s : State} {i : Nat} {call : SendCall} {object : Nat}
    {serialized : Option IMessage} {x : Occurrence} (current : Current s call object serialized) :
    (readBy s call object).nextWith (fun _ => s.objects object) (fun prepared => serialized.getD prepared.message)
      hosts s.world i x = call.next hosts s.world i x := by
  obtain ⟨mediator, message, confirmPublish, confirmTimeOut, phase⟩ := call
  have written : ∀ prepared : Prepared, (∀ m, serialized = some m → m = prepared.message) →
      serialized.getD prepared.message = prepared.message := by
    intro prepared same
    cases serialized with
    | none => rfl
    | some m => exact same m rfl
  cases phase with
  | entered | preparing =>
    obtain ⟨same, _⟩ := current
    simp only [readBy, same]
    cases x <;> rfl
  | publishing operation prepared =>
    obtain ⟨same, serial⟩ := current
    simp only [SendCall.next, SendCall.nextWith, readBy, written prepared serial, same]
  | delaying prepared waiter => cases x <;> rfl
  | waiting timeOut prepared waiter =>
    obtain ⟨same, _⟩ := current
    cases x with
    | elapsed cancelled => simp only [SendCall.next, SendCall.nextWith, readBy, same]
    | _ => rfl
  | ended prepared outcome => cases x <;> rfl

variable {hosts : Hosts} {s s' : State} {i : Nat} {t t' : Holder} {x : Occurrence}

theorem State.serializedAfter_cases (s : State) (call : SendCall) (object : Nat) (serialized : Option IMessage)
    (x : Occurrence) : s.serializedAfter call object serialized x = serialized ∨
      (∃ prepared, call.phase = .publishing .serialize prepared) ∧
        s.serializedAfter call object serialized x = some (s.objects object) := by
  unfold serializedAfter
  split
  · split
    next prepared he => exact Or.inr ⟨⟨prepared, he⟩, rfl⟩
    · exact Or.inl rfl
  · exact Or.inl rfl

theorem State.objectsAfter_of_ne (s : State) (call call' : SendCall) {object k : Nat} (h : k ≠ object) :
    s.objectsAfter call call' object k = s.objects k := by
  have written : s.objectsAfter call call' object = s.objects ∨
      ∃ m, s.objectsAfter call call' object = Function.update s.objects object m := by
    unfold objectsAfter
    split
    · exact Or.inr ⟨_, rfl⟩
    · exact Or.inl rfl
  rcases written with same | ⟨m, same⟩
  · rw [same]
  · rw [same, Function.update_of_ne h]

theorem Current.step {call call' : SendCall} {object : Nat} {serialized : Option IMessage} {w : World}
    (current : Current s call object serialized) (hn : call.next hosts s.world i x = some (w, call')) :
    Current ⟨w, s.objectsAfter call call' object⟩ call' object (s.serializedAfter call object serialized x) := by
  obtain ⟨mediator, message, confirmPublish, confirmTimeOut, phase⟩ := call
  -- what was serialized is what the call has written
  have serial : ∀ {operation prepared m}, phase = .publishing operation prepared →
      s.serializedAfter ⟨mediator, message, confirmPublish, confirmTimeOut, phase⟩ object serialized x = some m →
      m = prepared.message := by
    intro operation prepared m hp hm
    subst hp
    rcases s.serializedAfter_cases _ object serialized x with same | ⟨_, same⟩
    · exact current.2 m (same ▸ hm)
    · exact (Option.some.inj (same.symm.trans hm)).symm.trans current.1
  cases SendCall.step_of_next hn with
  | @prelude _ phase' before after =>
    cases phase with
    | entered | preparing =>
      cases phase' with
      | entered | preparing =>
        refine ⟨current.1, ?_⟩
        rcases s.serializedAfter_cases _ object serialized x with same | ⟨⟨_, hp⟩, _⟩
        · exact same.trans current.2
        · cases hp
      | ended prepared outcome => trivial
      | _ => exact after.elim
    | ended prepared outcome => cases x <;> cases hn
    | _ => exact before.elim
  | prepared before fresh =>
    cases before
    exact ⟨Function.update_self _ _ _, fun m hm => absurd (current.2.symm.trans hm) (by simp)⟩
  | published before same after =>
    cases before
    rcases after with ⟨waiter, _, rfl⟩ | ⟨next, rfl⟩
    · exact ⟨current.1, fun m hm => serial rfl hm⟩
    · exact ⟨current.1, fun m hm => serial rfl hm⟩
  | delayed before =>
    cases before
    exact current
  | answered before =>
    unfold SendCall.readAck
    split <;> trivial
  | _ => trivial

theorem Current.congr {call : SendCall} {object : Nat} {serialized : Option IMessage}
    (current : Current s call object serialized)
    (same : (Holder.send call object serialized).object = some object → s'.objects object = s.objects object) :
    Current s' call object serialized := by
  unfold Current at current ⊢
  split at current
  all_goals first
    | trivial
    | exact ⟨(same (by simp [Holder.object, *])).trans current.1, current.2⟩

/-- A holder has one object, and writes into no other. -/
theorem Holder.object_of_next (h : t.next hosts s i x = some (s', t')) :
    (t'.object = none ∨ t'.object = t.object) ∧ ∀ k, t.object ≠ some k → s'.objects k = s.objects k := by
  cases t with
  | send call object serialized =>
    obtain ⟨⟨w, call'⟩, hn, he⟩ := Option.map_eq_some_iff.mp h
    cases he
    have running : (Holder.send call object serialized).object = some object := by
      simp only [Holder.object]
      split
      next hp => simp [readBy, SendCall.nextWith, hp] at hn
      next => rfl
    rw [running]
    constructor
    · simp only [Holder.object]
      split
      · exact Or.inl rfl
      · exact Or.inr rfl
    · intro k hk
      exact s.objectsAfter_of_ne call call' fun he => hk (he ▸ rfl)
  | writer object message done =>
    cases Holder.step_of_next h with
    | wrote =>
      refine ⟨Or.inl rfl, fun k hk => Function.update_of_ne (fun he => hk ?_) _ _⟩
      rw [he]
      rfl
  | other t =>
    cases Holder.step_of_next h with
    | other => exact ⟨Or.inl rfl, fun _ _ => rfl⟩

/-- No object has two holders, and each says what its call has read from it or written into it. -/
structure Own (c : Config State Holder) : Prop where
  apart : ∀ {i j : Nat} {t u : Holder} {object : Nat}, c.pool[i]? = some t → c.pool[j]? = some u →
    t.object = some object → u.object = some object → i = j
  current : ∀ {i : Nat} {call : SendCall} {object : Nat} {serialized : Option IMessage},
    c.pool[i]? = some (.send call object serialized) → Current c.shared call object serialized

theorem Own.start {c : Config State Holder} (own : Own c) (hs : t.start c.shared = true)
    (alone : OwnObjects c (.start t)) : Own ⟨c.shared, c.pool ++ [t]⟩ := by
  constructor
  · intro i j u v object hi hj hu hv
    rcases pool_append_cases hi with hio | ⟨rfl, rfl⟩ <;> rcases pool_append_cases hj with hjo | ⟨rfl, rfl⟩
    · exact own.apart hio hjo hu hv
    · exact absurd hu (alone i u object hio hv)
    · exact absurd hv (alone j v object hjo hu)
    · rfl
  · intro i call object serialized hi
    rcases pool_append_cases hi with hi | ⟨_, rfl⟩
    · exact own.current hi
    · simp only [Holder.start, Bool.and_eq_true, decide_eq_true_eq, Option.isNone_iff_eq_none] at hs
      have entered := SendCall.phase_of_start hs.1.1
      simp only [Current, entered]
      exact ⟨hs.1.2.symm, hs.2⟩

theorem Own.step {c : Config State Holder} (own : Own c) (ht : c.pool[i]? = some t)
    (hn : t.next hosts c.shared i x = some (s', t')) : Own ⟨s', c.pool.set i t'⟩ := by
  obtain ⟨kept, others⟩ := Holder.object_of_next hn
  have mine : ∀ {object}, t'.object = some object → t.object = some object := by
    intro object ho
    rcases kept with none | same
    · cases none.symm.trans ho
    · exact same ▸ ho
  constructor
  · intro j k u v object hj hk hu hv
    rcases pool_set_cases ht hj with ⟨rfl, rfl⟩ | ⟨_, hjo⟩ <;>
      rcases pool_set_cases ht hk with ⟨rfl, rfl⟩ | ⟨_, hko⟩
    · rfl
    · exact own.apart ht hko (mine hu) hv
    · exact own.apart hjo ht hu (mine hv)
    · exact own.apart hjo hko hu hv
  · intro j call object serialized hj
    rcases pool_set_cases ht hj with ⟨rfl, rfl⟩ | ⟨hji, hj⟩
    · cases t with
      | send call₀ object₀ serialized₀ =>
        have current := own.current ht
        obtain ⟨⟨w, call'⟩, hs, he⟩ := Option.map_eq_some_iff.mp hn
        cases he
        exact current.step (current.next.symm.trans hs)
      | writer => cases Holder.step_of_next hn
      | other => cases Holder.step_of_next hn
    · refine (own.current hj).congr fun held => others object fun here => hji ?_
      exact own.apart hj ht held here

theorem own_of_reachable {objects : Nat → IMessage} {c : Config State Holder}
    (h : ReachableWhere (system hosts) OwnObjects (init objects) c) : Own c := by
  refine h.invariant ⟨by simp [init], by simp [init]⟩ ?_
  intro c d a _ own alone hd
  cases a with
  | start t =>
    obtain ⟨hs, rfl⟩ := act_start hd
    exact own.start hs alone
  | step i x =>
    obtain ⟨t, s, t', ht, hn, rfl⟩ := act_step hd
    exact own.step ht hn

/-- While no object has two holders, the objects can be forgotten: the run is one of the plain system. -/
theorem plain_of_ownObjects {objects : Nat → IMessage} {c : Config State Holder}
    (h : ReachableWhere (system hosts) OwnObjects (init objects) c) :
    Reachable (RabbitMediator.system hosts) System.init ⟨c.shared.world, c.pool.map Holder.plain⟩ := by
  refine ReachableWhere.view State.world Holder.plain ?_ (fun _ _ => trivial) ?_ h
  · intro s t hs
    cases t with
    | send call object serialized =>
      simp only [system, Holder.start, Bool.and_eq_true] at hs
      exact hs.1.1
    | writer => rfl
    | other t =>
      simp only [system, Holder.start, Bool.and_eq_true] at hs
      exact hs.2
  · intro c i x t s t' hc _ ht hn
    cases t with
    | send call object serialized =>
      obtain ⟨⟨w, call'⟩, hs, he⟩ := Option.map_eq_some_iff.mp hn
      cases he
      refine Or.inr ⟨x, ?_, trivial⟩
      have plain := ((own_of_reachable hc).current ht).next.symm.trans hs
      simp only [RabbitMediator.system, Holder.plain, Thread.next, plain, Option.map_some]
    | writer object message done =>
      cases Holder.step_of_next hn with
      | wrote => exact Or.inl ⟨rfl, rfl⟩
    | other t =>
      simp only [system, Holder.next] at hn
      split at hn
      next =>
        obtain ⟨p, hs, he⟩ := Option.map_eq_some_iff.mp hn
        cases he
        exact Or.inr ⟨x, hs, trivial⟩
      next => cases hn

end OwnObjects

end RabbitMediator.MessageObjects
