import RabbitMediator.Recovery

namespace RabbitMediator

open Interleaving

/-- A call that publishes. -/
inductive PublisherCall
  | request (call : RequestCall)
  | send (call : SendCall)

namespace PublisherCall

def multiplexer : PublisherCall → Nat
  | .request call => call.mediator.multiplexer
  | .send call => call.mediator.multiplexer

/-- The operation of the publication it awaits, and where it publishes to. -/
def publication : PublisherCall → Option (PublishOperation × Address)
  | .request call => match call.phase with
    | .publishing operation issued => some (operation, issued.address)
    | _ => none
  | .send call => match call.phase with
    | .publishing operation prepared => some (operation, prepared.address)
    | _ => none

def start : PublisherCall → Bool
  | .request call => match call.phase with
    | .entered => true
    | _ => false
  | .send call => match call.phase with
    | .entered => true
    | _ => false

def next (hosts : Hosts) (w : World) (i : Nat) (x : Occurrence) : PublisherCall → Option (World × PublisherCall)
  | .request call => (call.next hosts w i x).map fun p => (p.1, .request p.2)
  | .send call => (call.next hosts w i x).map fun p => (p.1, .send p.2)

end PublisherCall

/-- `_declaredSendExchanges` of a multiplexer. -/
def World.declaredSendExchanges (w : World) (n : Nat) : List String := (w.multiplexers n).declaredSendExchanges

/-- The multiplexers and their broker. `recovering` are those whose handler has not run since the last loss. -/
structure Publishers where
  world : World
  broker : Broker
  recovering : Nat → Bool

/-- What runs at the same time. `taken` says that the broker has carried out the declare that is awaited. -/
inductive PublishersThread
  | publisher (call : PublisherCall) (taken : Bool)
  | network

inductive PublishersInput
  | occurred (x : Occurrence)
  /-- The broker carries out the declare that is awaited. -/
  | took
  /-- The broker has lost all but these queues. -/
  | lost (queues : AList fun _ : String => Broker.Queue)
  /-- `RecoverySucceeded` of a multiplexer, with its tables and the calls to the broker that fail. -/
  | recovered (n : Nat) (instances : ConcurrentDictionary String MediatorRef)
    (tables : MediatorRef → MediatorLife) (fails : Rebinding → Broker.Command → Bool)
  /-- Some receiver declares or binds. -/
  | received (connection : String) (k : Broker.Command)

namespace PublishersThread

def start : PublishersThread → Bool
  | .publisher call taken => call.start && !taken
  | .network => true

/-- The declare has returned. -/
def declared (call : PublisherCall) : Occurrence → Option String
  | .ended (.ok _) => match call.publication with
    | some (.exchangeDeclare, address) => some address.exchangeName
    | _ => none
  | _ => none

def next (hosts : Hosts) (s : Publishers) (i : Nat) :
    PublishersThread → PublishersInput → Option (Publishers × PublishersThread)
  | .publisher call taken, .occurred x =>
    if (declared call x).isSome && !taken then none
    else (call.next hosts s.world i x).map fun p => ({ s with world := p.1 }, .publisher p.2 false)
  | .publisher call false, .took =>
    match call.publication with
    | some (.exchangeDeclare, address) =>
      (Broker.execute (hosts.instanceId call.multiplexer).value s.broker address.ensureSendExchange).toOption.map
        fun b => ({ s with broker := b }, .publisher call true)
    | _ => none
  | .network, .lost queues => some ({ s with broker := ⟨∅, queues, []⟩, recovering := fun _ => true }, .network)
  | .network, .recovered n instances tables fails =>
    if s.recovering n then
      some ({ s with
        broker := (rebindAllQueuesAfterRecovery hosts n instances tables fails s.broker).1
        recovering := Function.update s.recovering n false }, .network)
    else none
  | .network, .received connection k =>
    (Broker.execute connection s.broker k).toOption.map fun b => ({ s with broker := b }, .network)
  | _, _ => none

/-- The exchange that the call goes on to publish to without another look. -/
def relies : PublishersThread → Option String
  | .publisher call taken => match call.publication with
    | some (.exchangeDeclare, address) => if taken then some address.exchangeName else none
    | some (.serialize, address) | some (.sendChannel, address) | some (.basicPublish, address) =>
      some address.exchangeName
    | _ => none
  | .network => none

end PublishersThread

def publishers (hosts : Hosts) : Threads Publishers PublishersThread PublishersInput where
  start _ t := t.start
  next s i t x := t.next hosts s i x

def Publishers.init : Config Publishers PublishersThread := ⟨⟨.initial, .empty, fun _ => false⟩, []⟩

/-- A call relies on an exchange without declaring it: it finds the name in the cache, or it publishes. -/
inductive ReliesOn (s : Publishers) : PublishersThread → PublishersInput → Nat → String → Prop
  | cached {call taken address} (before : call.publication = some (.lookUpExchange, address))
      (cached : address.exchangeName ∈ s.world.declaredSendExchanges call.multiplexer) :
      ReliesOn s (.publisher call taken) (.occurred .go) call.multiplexer address.exchangeName
  | publishes {call taken address publication} (before : call.publication = some (.basicPublish, address)) :
      ReliesOn s (.publisher call taken) (.occurred (.published publication)) call.multiplexer address.exchangeName

/-- No call relies on an exchange between a loss and the handler of the recovery, and what the handler leaves
undeclared neither is in the cache nor is it relied on by a call that is going on. -/
structure Recovers (hosts : Hosts) (c : Config Publishers PublishersThread)
    (a : Action PublishersThread PublishersInput) : Prop where
  apart : ∀ i x t n name, a = .step i x → c.pool[i]? = some t → ReliesOn c.shared t x n name →
    c.shared.recovering n = false
  declared : ∀ i n instances tables fails name, a = .step i (.recovered n instances tables fails) →
    (name ∈ c.shared.world.declaredSendExchanges n ∨ ∃ (j : Nat) (call : PublisherCall) (taken : Bool),
      c.pool[j]? = some (.publisher call taken) ∧ call.multiplexer = n ∧
      (PublishersThread.publisher call taken).relies = some name) →
    c.shared.broker.hasExchange name = true ∨
      ∃ r ∈ rebindings hosts instances tables, r.exchangeName = name ∧ fails r r.exchangeDeclare = false

section Calls

variable {hosts : Hosts} {w w' : World} {i : Nat} {x : Occurrence} {call call' : PublisherCall}

/-- What a step of a call does to the caches, and where it leaves the publication. -/
structure PublisherCall.Stepped (w : World) (x : Occurrence) (call : PublisherCall) (w' : World)
    (call' : PublisherCall) : Prop where
  multiplexer : call'.multiplexer = call.multiplexer
  caches : ∀ n, w'.declaredSendExchanges n = w.declaredSendExchanges n ∨
    n = call.multiplexer ∧ ∃ name, PublishersThread.declared call x = some name ∧
      w'.declaredSendExchanges n = name :: w.declaredSendExchanges n
  publication : ∀ {operation address}, call'.publication = some (operation, address) →
    operation = .lookUpExchange ∨ ∃ before s taken, call.publication = some (before, address) ∧
      before.next address (w.multiplexers call.multiplexer) x = some (s, taken, .continued operation)

theorem World.declaredSendExchanges_setMultiplexer {n k : Nat} {s : MultiplexerState} :
    (w.setMultiplexer n s).declaredSendExchanges k =
      if k = n then s.declaredSendExchanges else w.declaredSendExchanges k := by
  unfold declaredSendExchanges
  split
  next h => rw [h, multiplexers_setMultiplexer_self]
  next h => rw [multiplexers_setMultiplexer_ne _ h]

@[simp] theorem World.declaredSendExchanges_setResponseWaiters {n k : Nat} {r : ResponseWaiters} :
    (w.setResponseWaiters n r).declaredSendExchanges k = w.declaredSendExchanges k := by
  unfold setResponseWaiters
  rw [declaredSendExchanges_setMultiplexer]
  split
  next h => rw [h, declaredSendExchanges]
  next => rfl

@[simp] theorem World.declaredSendExchanges_setTargetAckWaiters {n k : Nat} {r : TargetAckWaiters} :
    (w.setTargetAckWaiters n r).declaredSendExchanges k = w.declaredSendExchanges k := by
  unfold setTargetAckWaiters
  rw [declaredSendExchanges_setMultiplexer]
  split
  next h => rw [h, declaredSendExchanges]
  next => rfl

theorem PublishOperation.next_cache {address : Address} {s s' : MultiplexerState} {operation : PublishOperation}
    {taken : Bool} {step : PublishStep} (h : operation.next address s x = some (s', taken, step)) :
    s'.declaredSendExchanges = s.declaredSendExchanges ∨ operation = .exchangeDeclare ∧ x = .ended (.ok ()) ∧
      s'.declaredSendExchanges = address.exchangeName :: s.declaredSendExchanges := by
  unfold PublishOperation.next at h
  split at h <;> cases h
  case h_3 => exact Or.inr ⟨rfl, rfl, rfl⟩
  all_goals exact Or.inl rfl

/-- A step outside of the publication. -/
theorem PublisherCall.Stepped.aside (multiplexer : call'.multiplexer = call.multiplexer)
    (caches : ∀ n, w'.declaredSendExchanges n = w.declaredSendExchanges n)
    (publication : ∀ operation address, call'.publication = some (operation, address) → operation = .lookUpExchange) :
    call.Stepped w x w' call' :=
  ⟨multiplexer, fun n => Or.inl (caches n), fun h => Or.inl (publication _ _ h)⟩

/-- A step of the publication. -/
theorem PublisherCall.Stepped.published {operation : PublishOperation} {address : Address} {s : MultiplexerState}
    {taken : Bool} {step : PublishStep} (before : call.publication = some (operation, address))
    (h : operation.next address (w.multiplexers call.multiplexer) x = some (s, taken, step))
    (multiplexer : call'.multiplexer = call.multiplexer)
    (caches : ∀ n, w'.declaredSendExchanges n = (w.setMultiplexer call.multiplexer s).declaredSendExchanges n)
    (publication : ∀ {next address'}, call'.publication = some (next, address') →
      address' = address ∧ step = .continued next) : call.Stepped w x w' call' := by
  refine ⟨multiplexer, fun n => ?_, fun {next address'} hp => ?_⟩
  · rw [caches, World.declaredSendExchanges_setMultiplexer]
    by_cases hn : n = call.multiplexer
    · rw [if_pos hn]
      subst hn
      rcases PublishOperation.next_cache h with same | ⟨rfl, rfl, more⟩
      · exact Or.inl same
      · exact Or.inr ⟨rfl, address.exchangeName, by simp [PublishersThread.declared, before], more⟩
    · exact Or.inl (if_neg hn)
  · obtain ⟨rfl, rfl⟩ := publication hp
    exact Or.inr ⟨operation, s, taken, before, h⟩

theorem SendCall.stepped {c c' : SendCall} (h : c.next hosts w i x = some (w', c')) :
    (PublisherCall.send c).Stepped w x w' (.send c') := by
  have ended {phase : SendPhase} {v : World} (caches : ∀ n, v.declaredSendExchanges n = w.declaredSendExchanges n)
      (quiet : ∀ operation prepared, phase = .publishing operation prepared → operation = .lookUpExchange) :
      (PublisherCall.send c).Stepped w x v (.send (c.goesTo phase)) := by
    refine .aside rfl caches fun operation address hp => ?_
    simp only [PublisherCall.publication, goesTo] at hp
    split at hp <;> cases hp
    next prepared => exact quiet operation prepared rfl
  unfold next nextWith at h
  split at h
  next cancelled hp =>
    cases h
    obtain ⟨phase, he, hu⟩ := enter_unprepared w c cancelled
    rw [he]
    refine ended (fun _ => rfl) fun operation prepared hp => ?_
    rw [hp] at hu
    exact hu.elim
  next id hp =>
    split at h
    next =>
      simp only [Option.some.injEq, prepare] at h
      split at h <;> cases h
      · exact ended (fun _ => rfl) (by simp)
      refine ended (fun n => ?_) (by simp)
      unfold addWaiter
      split
      next => exact World.declaredSendExchanges_setTargetAckWaiters
      next => rfl
    next => cases h
  next _ operation prepared hp =>
    obtain ⟨⟨s, taken, step⟩, hs, he⟩ := Option.map_eq_some_iff.mp h
    have handed (n : Nat) : (c.handOver w i prepared prepared.message s taken).declaredSendExchanges n =
        (w.setMultiplexer c.mediator.multiplexer s).declaredSendExchanges n := by
      unfold handOver
      split <;> rfl
    have before : (PublisherCall.send c).publication = some (operation, prepared.address) := by
      simp [PublisherCall.publication, hp]
    cases step with
    | continued next =>
      cases he
      refine .published before hs rfl handed fun {next' address'} hp => ?_
      cases hp
      exact ⟨rfl, rfl⟩
    | finished =>
      cases he
      refine .published before hs ?_ handed fun {next' address'} hp => ?_
      · split <;> rfl
      · split at hp <;> cases hp
    | failed e =>
      simp only [published] at he
      split at he <;> cases he
      · refine .published before hs rfl (fun n => ?_) fun {next' address'} hp => by cases hp
        split
        · exact World.declaredSendExchanges_setTargetAckWaiters.trans (handed n)
        · exact handed n
      · exact .published before hs rfl handed fun {next' address'} hp => by cases hp
  next prepared waiter hp =>
    cases h
    unfold delay
    split
    next => split <;> exact ended (fun _ => rfl) (by simp)
    next => exact ended (fun _ => rfl) (by simp)
  next timeOut prepared waiter hp =>
    split at h
    next => cases h
    next =>
      cases h
      unfold readAck
      split <;> exact ended (fun _ => rfl) (by simp)
    next => cases h; exact ended (fun _ => rfl) (by simp)
  next timeOut prepared waiter cancelled hp =>
    split at h
    next => cases h
    next =>
      cases cancelled <;> cases h
      · exact ended (fun _ => rfl) (by simp)
      · exact ended (fun _ => World.declaredSendExchanges_setTargetAckWaiters) (by simp)
  next => cases h

theorem RequestCall.stepped {c c' : RequestCall} (h : c.next hosts w i x = some (w', c')) :
    (PublisherCall.request c).Stepped w x w' (.request c') := by
  have ended {phase : RequestPhase} {v : World} (caches : ∀ n, v.declaredSendExchanges n = w.declaredSendExchanges n)
      (quiet : ∀ operation issued, phase = .publishing operation issued → operation = .lookUpExchange) :
      (PublisherCall.request c).Stepped w x v (.request (c.goesTo phase)) := by
    refine .aside rfl caches fun operation address hp => ?_
    simp only [PublisherCall.publication, goesTo] at hp
    split at hp <;> cases hp
    next issued => exact quiet operation issued rfl
  unfold next at h
  split at h
  next cancelled hp =>
    cases h
    unfold enter
    split
    next => exact ended (fun _ => rfl) (by simp)
    next =>
      split
      next => exact ended (fun _ => rfl) (by simp)
      next => split <;> exact ended (fun _ => rfl) (by simp)
  next hp =>
    cases h
    split <;> exact ended (fun _ => rfl) (by simp)
  next receiver hp =>
    obtain ⟨⟨s, receiver'⟩, _, he⟩ := Option.map_eq_some_iff.mp h
    cases he
    cases receiver' <;> exact ended (fun _ => rfl) (by simp)
  next id hp =>
    split at h
    next =>
      simp only [Option.some.injEq, issue] at h
      split at h <;> cases h
      · exact ended (fun _ => rfl) (by simp)
      · exact ended (fun _ => World.declaredSendExchanges_setResponseWaiters) (by simp)
    next => cases h
  next _ operation issued hp =>
    obtain ⟨⟨s, taken, step⟩, hs, he⟩ := Option.map_eq_some_iff.mp h
    have handed (n : Nat) : (c.handOver w i issued s taken).declaredSendExchanges n =
        (w.setMultiplexer c.mediator.multiplexer s).declaredSendExchanges n := by
      unfold handOver
      split <;> rfl
    have before : (PublisherCall.request c).publication = some (operation, issued.address) := by
      simp [PublisherCall.publication, hp]
    cases step with
    | continued next =>
      cases he
      refine .published before hs rfl handed fun {next' address'} hp => ?_
      cases hp
      exact ⟨rfl, rfl⟩
    | finished =>
      cases he
      exact .published before hs rfl handed fun {next' address'} hp => by cases hp
    | failed e =>
      simp only [published] at he
      split at he <;> cases he
      · refine .published before hs rfl (fun n => ?_) fun {next' address'} hp => by cases hp
        exact World.declaredSendExchanges_setResponseWaiters.trans (handed n)
      · exact .published before hs rfl handed fun {next' address'} hp => by cases hp
  next issued hp =>
    cases h
    split <;> exact ended (fun _ => rfl) (by simp)
  next issued hp =>
    split at h
    next => cases h
    next => cases h; exact ended (fun _ => rfl) (by simp)
    next => cases h; exact ended (fun _ => rfl) (by simp)
  next issued cancelled hp =>
    split at h
    next => cases h
    next =>
      cases h
      exact ended (fun _ => World.declaredSendExchanges_setResponseWaiters) (by simp)
  next => cases h

theorem PublisherCall.stepped_of_next (h : call.next hosts w i x = some (w', call')) : call.Stepped w x w' call' := by
  cases call with
  | request c =>
    obtain ⟨p, hp, he⟩ := Option.map_eq_some_iff.mp h
    cases he
    exact RequestCall.stepped hp
  | send c =>
    obtain ⟨p, hp, he⟩ := Option.map_eq_some_iff.mp h
    cases he
    exact SendCall.stepped hp

theorem PublisherCall.publication_of_start (h : call.start = true) : call.publication = none := by
  cases call with
  | request c =>
    obtain ⟨_, _, _, _, _, phase⟩ := c
    cases phase <;> first | rfl | cases h
  | send c =>
    obtain ⟨_, _, _, _, phase⟩ := c
    cases phase <;> first | rfl | cases h

/-- A call comes to rely on an exchange by finding it in the cache or by declaring it. -/
theorem PublisherCall.Stepped.relies (h : call.Stepped w x w' call') {name : String}
    (later : (PublishersThread.publisher call' false).relies = some name) :
    name ∈ w.declaredSendExchanges call.multiplexer ∨ PublishersThread.declared call x = some name ∨
      ∀ taken, (PublishersThread.publisher call taken).relies = some name := by
  have reached : ∃ operation address, call'.publication = some (operation, address) ∧
      address.exchangeName = name ∧ operation ≠ .lookUpExchange ∧ operation ≠ .topologyChannel ∧
      operation ≠ .exchangeDeclare := by
    simp only [PublishersThread.relies] at later
    split at later
    next => cases later
    next address hp => exact ⟨_, address, hp, Option.some.inj later, by simp, by simp, by simp⟩
    next address hp => exact ⟨_, address, hp, Option.some.inj later, by simp, by simp, by simp⟩
    next address hp => exact ⟨_, address, hp, Option.some.inj later, by simp, by simp, by simp⟩
    next => cases later
  obtain ⟨operation, address, hp, rfl, notLooking, notWaiting, notDeclaring⟩ := reached
  obtain ⟨before, s, taken, hb, hn⟩ := (h.publication hp).resolve_left notLooking
  unfold PublishOperation.next at hn
  split at hn
  next =>
    simp only [Option.some.injEq, Prod.mk.injEq, PublishStep.continued.injEq] at hn
    obtain ⟨-, -, rfl⟩ := hn
    split at notWaiting
    next there => exact Or.inl (by simpa [World.declaredSendExchanges] using there)
    next => exact absurd rfl notWaiting
  next result => cases result <;> cases hn; exact absurd rfl notDeclaring
  next => exact Or.inr (Or.inl (by simp [PublishersThread.declared, hb]))
  next => cases hn
  next result => exact Or.inr (Or.inr fun _ => by simp [PublishersThread.relies, hb])
  next result => exact Or.inr (Or.inr fun _ => by simp [PublishersThread.relies, hb])
  next publication =>
    obtain ⟨_, outcome⟩ := publication
    cases outcome <;> cases hn
  next => cases hn

end Calls

section Handler

variable {connection : String} {fails : Rebinding → Broker.Command → Bool} {b : Broker} {name : String}

theorem Rebinding.hasExchange_perform {fails : Broker.Command → Bool} (old : b.hasExchange name = true)
    (ks : List Broker.Command) : (perform connection fails b ks).1.hasExchange name = true := by
  induction ks generalizing b with
  | nil => exact old
  | cons k ks ih =>
    unfold perform
    split
    next => exact old
    next =>
      split
      next => exact old
      next c hc => exact ih (Broker.hasExchange_execute hc old)

theorem Rebinding.hasExchange_attempt (r : Rebinding) (s : Broker × List (Rebinding × Broker.Command))
    (h : s.1.hasExchange name = true ∨ r.exchangeName = name ∧ fails r r.exchangeDeclare = false) :
    (attempt connection fails s r).1.hasExchange name = true := by
  unfold attempt
  rcases h with old | ⟨rfl, passes⟩
  · exact hasExchange_perform old _
  · rw [perform, passes]
    simp only [Bool.false_eq_true, if_false]
    split
    next e refused => exact Broker.hasExchange_of_refused refused
    next c hc => exact hasExchange_perform (Broker.hasExchange_of_declare hc) _

/-- After the loop an exchange is there if it was there before, or if a declare of it did not fail. -/
theorem Rebinding.hasExchange_foldl (rs : List Rebinding) (s : Broker × List (Rebinding × Broker.Command))
    (h : s.1.hasExchange name = true ∨ ∃ r ∈ rs, r.exchangeName = name ∧ fails r r.exchangeDeclare = false) :
    (rs.foldl (attempt connection fails) s).1.hasExchange name = true := by
  induction rs generalizing s with
  | nil => exact h.resolve_right (by simp)
  | cons r rs ih =>
    refine ih _ ?_
    rcases h with old | ⟨r', hr', named, passes⟩
    · exact Or.inl (hasExchange_attempt r s (Or.inl old))
    · rcases List.mem_cons.mp hr' with rfl | hr'
      · exact Or.inl (hasExchange_attempt r' s (Or.inr ⟨named, passes⟩))
      · exact Or.inr ⟨r', hr', named, passes⟩

end Handler

/-- Everything a thread can do in one step. -/
inductive PublishersThread.Step (hosts : Hosts) (s : Publishers) :
    PublishersThread → PublishersInput → Publishers → PublishersThread → Prop
  | called {call taken x w call'} (h : call.Stepped s.world x w call')
      (waited : ∀ name, declared call x = some name → taken = true) :
      Step hosts s (.publisher call taken) (.occurred x) { s with world := w } (.publisher call' false)
  | took {call address b} (before : call.publication = some (.exchangeDeclare, address))
      (done : Broker.execute (hosts.instanceId call.multiplexer).value s.broker address.ensureSendExchange = .ok b) :
      Step hosts s (.publisher call false) .took { s with broker := b } (.publisher call true)
  | lost {queues} : Step hosts s .network (.lost queues)
      { s with broker := ⟨∅, queues, []⟩, recovering := fun _ => true } .network
  | recovered {n instances tables fails} : Step hosts s .network (.recovered n instances tables fails)
      { s with
        broker := (rebindAllQueuesAfterRecovery hosts n instances tables fails s.broker).1
        recovering := Function.update s.recovering n false } .network
  | received {connection k b} (done : Broker.execute connection s.broker k = .ok b) :
      Step hosts s .network (.received connection k) { s with broker := b } .network

/-- Off the recovery of a multiplexer, the exchanges in its cache and those its calls rely on are there. -/
structure Publishers.Backed (c : Config Publishers PublishersThread) : Prop where
  cached : ∀ {n name}, c.shared.recovering n = false → name ∈ c.shared.world.declaredSendExchanges n →
    c.shared.broker.hasExchange name = true
  relied : ∀ {j : Nat} {call taken name}, c.pool[j]? = some (.publisher call taken) →
    c.shared.recovering call.multiplexer = false → (PublishersThread.publisher call taken).relies = some name →
    c.shared.broker.hasExchange name = true

section Runs

variable {hosts : Hosts} {s s' : Publishers} {i : Nat} {t t' : PublishersThread} {x : PublishersInput}
  {c d : Config Publishers PublishersThread} {a : Action PublishersThread PublishersInput}

theorem toOption_eq_some {e : Except Broker.Fault Broker} {b : Broker} (h : e.toOption = some b) : e = .ok b := by
  cases e with
  | error => cases h
  | ok c => exact congrArg _ (Option.some.inj h)

theorem PublishersThread.step_of_next (h : t.next hosts s i x = some (s', t')) : t.Step hosts s x s' t' := by
  unfold next at h
  split at h
  next call taken x =>
    split at h
    next => cases h
    next waited =>
      obtain ⟨p, hp, he⟩ := Option.map_eq_some_iff.mp h
      cases he
      exact .called (PublisherCall.stepped_of_next hp) fun name hn => by simpa [hn] using waited
  next call =>
    split at h
    next address before =>
      obtain ⟨b, hb, he⟩ := Option.map_eq_some_iff.mp h
      cases he
      exact .took before (toOption_eq_some hb)
    next => cases h
  next => cases h; exact .lost
  next => split at h <;> cases h; exact .recovered
  next =>
    obtain ⟨b, hb, he⟩ := Option.map_eq_some_iff.mp h
    cases he
    exact .received (toOption_eq_some hb)
  next => cases h

theorem Publishers.Backed.step (h : Backed c) (ht : c.pool[i]? = some t) (step : t.Step hosts c.shared x s' t')
    (recovers : Recovers hosts c (.step i x)) : Backed ⟨s', c.pool.set i t'⟩ := by
  have others {b : Broker} (kept : ∀ name, c.shared.broker.hasExchange name = true → b.hasExchange name = true)
      {j : Nat} {call : PublisherCall} {taken : Bool} {name : String}
      (hj : (c.pool.set i .network)[j]? = some (.publisher call taken))
      (up : c.shared.recovering call.multiplexer = false)
      (hr : (PublishersThread.publisher call taken).relies = some name) : b.hasExchange name = true := by
    rcases pool_set_cases ht hj with ⟨_, he⟩ | ⟨_, hj⟩
    · cases he
    · exact kept _ (h.relied hj up hr)
  cases step with
  | @called call taken x w call' hs waited =>
    have declared {name : String} (up : c.shared.recovering call.multiplexer = false)
        (hn : PublishersThread.declared call x = some name) : c.shared.broker.hasExchange name = true := by
      have taken := waited name hn
      refine h.relied ht up ?_
      simp only [PublishersThread.declared] at hn
      split at hn
      next =>
        split at hn <;> cases hn
        next before => simp [PublishersThread.relies, before, taken]
      next => cases hn
    refine ⟨fun {n name} up hn => ?_, fun {j call₁ taken₁ name} hj up hr => ?_⟩
    · rcases hs.caches n with same | ⟨rfl, new, hd, more⟩
      · exact h.cached up (same ▸ hn)
      · dsimp only at hn
        rw [more] at hn
        rcases List.mem_cons.mp hn with rfl | old
        · exact declared up hd
        · exact h.cached up old
    · rcases pool_set_cases ht hj with ⟨rfl, he⟩ | ⟨_, hj⟩
      · cases he
        rw [hs.multiplexer] at up
        rcases hs.relies hr with cached | hd | relied
        · exact h.cached up cached
        · exact declared up hd
        · exact h.relied ht up (relied taken)
      · exact h.relied hj up hr
  | @took call address b before done =>
    have kept (name : String) (old : c.shared.broker.hasExchange name = true) : b.hasExchange name = true :=
      Broker.hasExchange_execute done old
    refine ⟨fun up hn => kept _ (h.cached up hn), fun {j call₁ taken₁ name} hj up hr => ?_⟩
    rcases pool_set_cases ht hj with ⟨rfl, he⟩ | ⟨_, hj⟩
    · cases he
      simp only [PublishersThread.relies, before, if_true, Option.some.injEq] at hr
      exact hr ▸ Broker.hasExchange_of_declare done
    · exact kept _ (h.relied hj up hr)
  | lost =>
    refine ⟨fun {n name} up _ => ?_, fun {j call taken name} _ up _ => ?_⟩
    · cases up
    · cases up
  | @recovered n instances tables fails =>
    have kept (name : String) (old : c.shared.broker.hasExchange name = true) :
        (rebindAllQueuesAfterRecovery hosts n instances tables fails c.shared.broker).1.hasExchange name = true :=
      Rebinding.hasExchange_foldl _ _ (Or.inl old)
    refine ⟨fun {n' name} up hn => ?_, fun {j call taken name} hj up hr => ?_⟩
    · by_cases same : n' = n
      · subst same
        exact Rebinding.hasExchange_foldl _ _ (recovers.declared i _ _ _ _ name rfl (Or.inl hn))
      · exact kept _ (h.cached ((Function.update_of_ne same _ _).symm.trans up) hn)
    · by_cases same : call.multiplexer = n
      · rcases pool_set_cases ht hj with ⟨_, he⟩ | ⟨_, hj⟩
        · cases he
        · exact Rebinding.hasExchange_foldl _ _
            (recovers.declared i _ _ _ _ name rfl (Or.inr ⟨j, call, taken, hj, same, hr⟩))
      · exact others kept hj ((Function.update_of_ne same _ _).symm.trans up) hr
  | @received _ _ b done =>
    have kept (name : String) (old : c.shared.broker.hasExchange name = true) : b.hasExchange name = true :=
      Broker.hasExchange_execute done old
    exact ⟨fun up hn => kept _ (h.cached up hn), others kept⟩

theorem Publishers.Backed.started (h : Backed c) (hs : t.start = true) : Backed ⟨c.shared, c.pool ++ [t]⟩ := by
  refine ⟨h.cached, fun {j call taken name} hj up hr => ?_⟩
  rcases pool_append_cases hj with hj | ⟨_, rfl⟩
  · exact h.relied hj up hr
  · have idle := PublisherCall.publication_of_start (Bool.and_eq_true_iff.mp hs).1
    simp [PublishersThread.relies, idle] at hr

theorem backed_of_reachable (h : ReachableWhere (publishers hosts) (Recovers hosts) Publishers.init c) : Publishers.Backed c := by
  refine h.invariant (P := Publishers.Backed) ⟨fun _ hn => ?_, fun hj => ?_⟩ fun c d a _ backed allowed hd => ?_
  · cases hn
  · cases hj
  · cases a with
    | start t =>
      obtain ⟨hs, rfl⟩ := act_start hd
      exact backed.started hs
    | step i x =>
      obtain ⟨t, s, t', ht, hn, rfl⟩ := act_step hd
      exact backed.step ht (PublishersThread.step_of_next hn) allowed

theorem Publishers.Backed.relies (h : Backed c) (ht : c.pool[i]? = some t) {n : Nat} {name : String}
    (relies : ReliesOn c.shared t x n name) (up : c.shared.recovering n = false) :
    c.shared.broker.hasExchange name = true := by
  cases relies with
  | cached before there => exact h.cached up there
  | publishes before => exact h.relied ht up (by simp [PublishersThread.relies, before])

/-- Every publish goes to an exchange that is there. A name comes into the cache only through a declare that
the broker has carried out and that has returned. -/
theorem publish_declared (hosts : Hosts) :
    (∀ c, ReachableWhere (publishers hosts) (Recovers hosts) Publishers.init c →
      ∀ i x t d n name, Recovers hosts c (.step i x) → c.pool[i]? = some t →
        (publishers hosts).act c (.step i x) = some d → ReliesOn c.shared t x n name →
        c.shared.broker.hasExchange name = true) ∧
    ∀ c d i x n name, (publishers hosts).act c (.step i x) = some d →
      name ∈ d.shared.world.declaredSendExchanges n → name ∉ c.shared.world.declaredSendExchanges n →
      ∃ call address, c.pool[i]? = some (.publisher call true) ∧ call.multiplexer = n ∧
        call.publication = some (.exchangeDeclare, address) ∧ address.exchangeName = name ∧
        x = .occurred (.ended (.ok ())) := by
  refine ⟨fun c h i x t d n name allowed ht _ relies => ?_, fun c d i x n name hd there absent => ?_⟩
  · exact (backed_of_reachable h).relies ht relies (allowed.apart i x t n name rfl ht relies)
  · obtain ⟨t, s, t', ht, hn, rfl⟩ := act_step hd
    cases PublishersThread.step_of_next hn with
    | @called call taken x w call' hs waited =>
      rcases hs.caches n with same | ⟨rfl, new, declared, more⟩
      · exact absurd (same ▸ there) absent
      · cases waited new declared
        dsimp only at there
        rw [more] at there
        obtain rfl := (List.mem_cons.mp there).resolve_right absent
        simp only [PublishersThread.declared] at declared
        split at declared
        next =>
          split at declared <;> cases declared
          next address before => exact ⟨call, address, ht, rfl, before, rfl, rfl⟩
        next => cases declared
    | _ => exact absurd there absent

end Runs

/-- The exchange that the call is about to publish to. -/
def PublishersThread.publishesTo : PublishersThread → Option (Nat × String)
  | .publisher call _ => match call.publication with
    | some (.basicPublish, address) => some (call.multiplexer, address.exchangeName)
    | _ => none
  | .network => none

theorem reliesOn_of_publishesTo {s : Publishers} {t : PublishersThread} {n : Nat} {name : String}
    (h : t.publishesTo = some (n, name)) (publication : Publication) :
    ReliesOn s t (.occurred (.published publication)) n name := by
  unfold PublishersThread.publishesTo at h
  split at h
  next call taken =>
    split at h <;> cases h
    next before => exact .publishes before
  next => cases h

/-- A check that no call takes a step while its multiplexer recovers, and that the handler declares all that was
declared before. -/
def redeclares (c : Config Publishers PublishersThread) : Action PublishersThread PublishersInput → Bool
  | .start _ => true
  | .step _ (.recovered n instances tables fails) =>
    let declared (name : String) := c.shared.broker.hasExchange name ||
      (rebindings testHosts instances tables).any fun r => r.exchangeName = name && !fails r r.exchangeDeclare
    (c.shared.world.declaredSendExchanges n).all declared && c.pool.all fun t => t.relies.all declared
  | .step i _ => c.pool[i]?.all fun
    | .publisher call _ => !c.shared.recovering call.multiplexer
    | .network => true

theorem recovers_of_check {c : Config Publishers PublishersThread} {a : Action PublishersThread PublishersInput}
    (h : redeclares c a = true) : Recovers testHosts c a := by
  constructor
  · rintro i x t n name rfl ht (⟨before, there⟩ | ⟨before⟩)
    · simpa [redeclares, ht] using h
    · simpa [redeclares, ht] using h
  · rintro i n instances tables fails name rfl used
    simp only [redeclares, Bool.and_eq_true] at h
    obtain ⟨cached, relied⟩ := h
    have declared : (c.shared.broker.hasExchange name || (rebindings testHosts instances tables).any fun r =>
        r.exchangeName = name && !fails r r.exchangeDeclare) = true := by
      rcases used with there | ⟨j, call, taken, hj, _, hr⟩
      · exact List.all_eq_true.mp cached name there
      · have all := List.all_eq_true.mp relied _ (List.mem_of_getElem? hj)
        rwa [hr] at all
    rcases Bool.or_eq_true_iff.mp declared with there | again
    · exact Or.inl there
    · obtain ⟨r, hr, same⟩ := List.any_eq_true.mp again
      obtain ⟨same, succeeds⟩ := Bool.and_eq_true_iff.mp same
      exact Or.inr ⟨r, hr, of_decide_eq_true same, by simpa using succeeds⟩

/-- A `Send` up to the look at the cache. -/
def testPrepares (id : Guid) : List PublishersInput := [.occurred (.checked false), .occurred (.drew id), .occurred .go]

def testDeclares : List PublishersInput := [.occurred (.ended (.ok ())), .took, .occurred (.ended (.ok ()))]

/-- What comes between the declare and the publish. -/
def testReaches : List PublishersInput := [.occurred (.ended (.ok ())), .occurred (.ended (.ok ()))]

def testPublishes : PublishersInput := .occurred (.published ⟨true, .ok ()⟩)

def testPublisher (i : Nat) (xs : List PublishersInput) : List (Action PublishersThread PublishersInput) :=
  .start (.publisher (.send testSend) false) :: xs.map (.step i)

/-- The broker restarts, and a multiplexer that owns no queues recovers. -/
def testRestart (i : Nat) : List (Action PublishersThread PublishersInput) :=
  [.start .network, .step i (.lost ∅),
    .step i (.recovered 0 ∅ (fun _ => .created testMediatorConfiguration) fun _ _ => false)]

/-- A broadcast message and the queue its receiver owns. -/
def testBroadcast : SendCall := { testSend with
  message := .message { testMessage with
    type := testBroadcastMessage, isMessage := rfl, noResponse := rfl } }

def testBroadcastReceiver : ReceiveTopology :=
  Addressing.broadcast.receiver testMediator testBroadcastMessage
    "Weltmeyer.RabbitMediator.TestTool.Messages.TestBroadcastMessage"

/-- The broker restarts, and the handler of the recovery declares the exchange of the owned queue again. -/
def testBroadcastRestart (i : Nat) : List (Action PublishersThread PublishersInput) :=
  [.start .network,
    .step i (.lost (AList.insert testBroadcastReceiver.queueName
      ⟨testBroadcastReceiver.queue, testMediator.instanceId.value⟩ ∅)),
    .step i (.recovered 0 (AList.insert testMediator.scopeId.value ⟨0, 0⟩ ∅)
      (fun _ => ReceiverRun.remember (ReceiverRun.remember (.created testMediatorConfiguration) testBroadcastMessage
        testBroadcastReceiver .queueDeclare) testBroadcastMessage testBroadcastReceiver .queueBind)
      fun _ _ => false)]

/-- A message is published, the broker restarts, and another one is published whose exchange is in the cache. -/
def testRedeclared : List (Action PublishersThread PublishersInput) :=
  .start (.publisher (.send testBroadcast) false) ::
    (testPrepares ⟨1⟩ ++ testDeclares ++ testReaches ++ [testPublishes]).map (.step 0) ++ testBroadcastRestart 1 ++
    .start (.publisher (.send testBroadcast) false) :: (testPrepares ⟨2⟩ ++ testReaches).map (.step 2)

theorem testMessage_declared : ∃ c d n name,
    (publishers testHosts).run redeclares Publishers.init testRedeclared = some c ∧
    (publishers testHosts).act c (.step 2 testPublishes) = some d ∧
    c.pool[2]?.bind PublishersThread.publishesTo = some (n, name) ∧ c.shared.broker.hasExchange name = true := by
  have h : ((publishers testHosts).run redeclares Publishers.init testRedeclared).any (fun c =>
        redeclares c (.step 2 testPublishes) && (c.pool[2]?.bind PublishersThread.publishesTo).isSome &&
        ((publishers testHosts).act c (.step 2 testPublishes)).isSome) = true := by decide +kernel
  obtain ⟨c, hc, found⟩ := (Option.any_eq_true _ _).mp h
  simp only [Bool.and_eq_true] at found
  obtain ⟨⟨check, there⟩, moves⟩ := found
  obtain ⟨⟨n, name⟩, hp⟩ := Option.isSome_iff_exists.mp there
  obtain ⟨d, hd⟩ := Option.isSome_iff_exists.mp moves
  obtain ⟨t, ht, aims⟩ := Option.bind_eq_some_iff.mp hp
  refine ⟨c, d, n, name, hc, hd, hp, ?_⟩
  exact (publish_declared testHosts).1 c (.of_run .start (fun _ _ => recovers_of_check) hc) 2 testPublishes t d n
    name (recovers_of_check check) ht hd (reliesOn_of_publishesTo aims _)

/-- A message is published, the broker restarts, and another message of the type is published. -/
theorem publish_undeclared : ¬∀ hosts c, Reachable (publishers hosts) Publishers.init c →
    ∀ i x t d n name, c.pool[i]? = some t → (publishers hosts).act c (.step i x) = some d →
      ReliesOn c.shared t x n name → c.shared.broker.hasExchange name = true := by
  intro claim
  have h : ((publishers testHosts).run (fun _ _ => true) Publishers.init
      (testPublisher 0 (testPrepares ⟨1⟩ ++ testDeclares ++ testReaches ++ [testPublishes]) ++ testRestart 1 ++
        testPublisher 2 (testPrepares ⟨2⟩ ++ testReaches))).any (fun c =>
        (c.pool[2]?.bind PublishersThread.publishesTo).any (fun p => !c.shared.broker.hasExchange p.2) &&
        ((publishers testHosts).act c (.step 2 testPublishes)).isSome) = true := by decide
  obtain ⟨c, hc, found⟩ := (Option.any_eq_true _ _).mp h
  obtain ⟨missing, moves⟩ := Bool.and_eq_true_iff.mp found
  obtain ⟨⟨n, name⟩, hp, absent⟩ := (Option.any_eq_true _ _).mp missing
  obtain ⟨d, hd⟩ := Option.isSome_iff_exists.mp moves
  obtain ⟨t, ht, aims⟩ := Option.bind_eq_some_iff.mp hp
  have there := claim testHosts c (.of_run .start (fun _ _ _ => trivial) hc) 2 testPublishes t d n name ht hd
    (reliesOn_of_publishesTo aims _)
  rw [there] at absent
  cases absent

end RabbitMediator
