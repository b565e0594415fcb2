import RabbitMediator.Bookkeeping
import RabbitMediator.Serializer

namespace RabbitMediator

open Interleaving

/-- The multiplexers with their serializers. `consumed` are the types for which the broker has carried out the
`BasicConsume` of an `EnsureReceiver`. -/
structure SerializingWorld where
  lifecycle : Lifecycle
  serializerHelper : Nat → JsonSerializerHelper
  consumed : MediatorRef → List SentType

/-- The type for which the `EnsureReceiver` of the thread awaits the operation. -/
def MediatorThread.awaits (t : MediatorThread) (operation : ReceiverOperation) : Option SentType :=
  t.activity.run?.bind fun run => match run.control with
    | .performing o => if o = operation then some run.sentObjectType else none
    | _ => none

namespace SerializingWorld

def created (configuration : MediatorRef → RabbitMultiplexerMediatorConfiguration) : SerializingWorld where
  lifecycle := .created configuration
  serializerHelper _ := .unused
  consumed _ := []

def setHelper (s : SerializingWorld) (n : Nat) (helper : JsonSerializerHelper) : SerializingWorld :=
  { s with serializerHelper := Function.update s.serializerHelper n helper }

/-- The types consumed after a step of a mediator's thread. -/
def consumedAfter (s : SerializingWorld) (t : MediatorThread) : Event → MediatorRef → List SentType
  | .took => match t.awaits .basicConsume with
    | some sentObjectType =>
      Function.update s.consumed t.mediator (sentObjectType :: s.consumed t.mediator)
    | none => s.consumed
  | _ => s.consumed

end SerializingWorld

inductive SerializingThread
  | addTypeIfMissing (multiplexer : Nat) (newType : SentType) (call : AddTypeIfMissing)
  | serialize (multiplexer : Nat) (call : Serialize)
  | deserialize (multiplexer : Nat) (call : Deserialize)
  /-- The handling of a message from a queue that is consumed for the type. -/
  | received (mediator : MediatorRef) (sentObjectType : SentType) (call : Deserialize)
  /-- A thread of a mediator, with the call of `AddTypeIfMissing` its `EnsureReceiver` awaits. -/
  | mediator (thread : MediatorThread) (call : AddTypeIfMissing)

namespace SerializingThread

def start (s : SerializingWorld) : SerializingThread → Bool
  | .addTypeIfMissing _ _ .entered => true
  | .serialize _ (.adding _ .entered) => true
  | .serialize _ (.reading none) => true
  | .deserialize _ .reading => true
  | .received m sentObjectType .reading => (s.consumed m).contains sentObjectType
  | .mediator thread .entered => thread.activity.start
  | _ => false

/-- The call of `AddTypeIfMissing` that the thread is in, with its multiplexer. -/
def adds : SerializingThread → Option (Nat × SentType × AddTypeIfMissing)
  | .addTypeIfMissing n newType call => some (n, newType, call)
  | .serialize n (.adding sentObject call) => some (n, sentObject, call)
  | .mediator thread call => (thread.awaits .addTypeIfMissing).map fun newType =>
    (thread.mediator.multiplexer, newType, call)
  | _ => none

def goesTo (call : AddTypeIfMissing) : SerializingThread → SerializingThread
  | .addTypeIfMissing n newType _ => .addTypeIfMissing n newType call
  | .serialize n (.adding sentObject _) => .serialize n (.adding sentObject call)
  | .mediator thread _ => .mediator thread call
  | t => t

/-- A step of the mediator's own thread. -/
def lead (hosts : Hosts) (s : SerializingWorld) (thread : MediatorThread) (e : Event) :
    Option (SerializingWorld × SerializingThread) :=
  (thread.next hosts s.lifecycle e).map fun p =>
    ({ s with lifecycle := p.1, consumed := s.consumedAfter thread e }, .mediator p.2 .entered)

/-- A step inside `AddTypeIfMissing`. -/
def add (s : SerializingWorld) (t : SerializingThread) : Option (SerializingWorld × SerializingThread) :=
  t.adds.bind fun (n, newType, call) => (call.next newType (s.serializerHelper n)).map fun p =>
    (s.setHelper n p.1, t.goesTo p.2)

def next (hosts : Hosts) (s : SerializingWorld) (t : SerializingThread) (e : Event) :
    Option (SerializingWorld × SerializingThread) :=
  match t, e with
  | .addTypeIfMissing _ _ _, .go => t.add s
  | .serialize n call, .go =>
    (call.next (s.serializerHelper n)).map fun p => (s.setHelper n p.1, .serialize n p.2)
  | .deserialize n call, .go => (call.next (s.serializerHelper n)).map fun call => (s, .deserialize n call)
  | .received m sentObjectType call, .go =>
    (call.next (s.serializerHelper m.multiplexer)).map fun call => (s, .received m sentObjectType call)
  | .mediator thread call, e =>
    match thread.awaits .addTypeIfMissing, call, e with
    | none, _, e => lead hosts s thread e
    | some _, .returned, .ended (.ok _) => lead hosts s thread (.ended (.ok ()))
    | some _, _, .go => t.add s
    -- nothing in `AddTypeIfMissing` throws
    | some _, _, _ => none
  | _, _ => none

end SerializingThread

def serializing (hosts : Hosts) : Threads SerializingWorld SerializingThread Event where
  start s t := t.start s
  next s _ t e := t.next hosts s e

/-- Everything a thread can do in one step. -/
inductive SerializingThread.Step (hosts : Hosts) (s : SerializingWorld) :
    SerializingThread → SerializingWorld → SerializingThread → Prop
  | adds {t n newType call helper call'} (before : t.adds = some (n, newType, call))
      (h : call.Step newType (s.serializerHelper n) helper call') :
      Step hosts s t (s.setHelper n helper) (t.goesTo call')
  | added {n sentObject} :
      Step hosts s (.serialize n (.adding sentObject .returned)) s (.serialize n (.reading (some sentObject)))
  | serializes {n sentObject} : Step hosts s (.serialize n (.reading sentObject)) s
      (.serialize n (.serializing sentObject (s.serializerHelper n).options))
  | deserializes {n} : Step hosts s (.deserialize n .reading) s
      (.deserialize n (.deserializing (s.serializerHelper n).options))
  | receives {m sentObjectType} : Step hosts s (.received m sentObjectType .reading) s
      (.received m sentObjectType (.deserializing (s.serializerHelper m.multiplexer).options))
  | leads {thread call e l thread'}
      (ready : ∀ newType, thread.awaits .addTypeIfMissing = some newType → call = .returned)
      (h : thread.next hosts s.lifecycle e = some (l, thread')) :
      Step hosts s (.mediator thread call) { s with lifecycle := l, consumed := s.consumedAfter thread e }
        (.mediator thread' .entered)

section Steps

variable {hosts : Hosts} {s s' : SerializingWorld} {t t' : SerializingThread}

theorem MediatorThread.awaits_eq_some {t : MediatorThread} {operation : ReceiverOperation}
    {sentObjectType : SentType} : t.awaits operation = some sentObjectType ↔ ∃ run, t.activity.run? = some run ∧
      run.control = .performing operation ∧ run.sentObjectType = sentObjectType := by
  simp only [awaits, Option.bind_eq_some_iff]
  refine exists_congr fun run => and_congr_right fun _ => ?_
  split
  next o ho =>
    split
    next same => simp [ho, same]
    next other => simp [ho, other]
  next other => simpa using fun control => (other operation control).elim

theorem SerializingWorld.setHelper_self (s : SerializingWorld) (n : Nat) :
    s.setHelper n (s.serializerHelper n) = s := by
  simp [setHelper]

theorem SerializingThread.step_of_add (h : t.add s = some (s', t')) : t.Step hosts s s' t' := by
  obtain ⟨⟨n, newType, call⟩, before, h⟩ := Option.bind_eq_some_iff.mp h
  obtain ⟨⟨helper, call'⟩, hn, he⟩ := Option.map_eq_some_iff.mp h
  cases he
  exact .adds before (AddTypeIfMissing.step_of_next hn)

theorem SerializingThread.step_of_serialize {n : Nat} {call call' : Serialize} {helper : JsonSerializerHelper}
    (h : call.next (s.serializerHelper n) = some (helper, call')) :
    Step hosts s (.serialize n call) (s.setHelper n helper) (.serialize n call') := by
  unfold Serialize.next at h
  split at h
  next =>
    cases h
    rw [s.setHelper_self]
    exact .added
  next sentObject call _ =>
    obtain ⟨⟨helper, call'⟩, hn, he⟩ := Option.map_eq_some_iff.mp h
    cases he
    exact .adds (t := .serialize n (.adding sentObject call)) rfl (AddTypeIfMissing.step_of_next hn)
  next =>
    cases h
    rw [s.setHelper_self]
    exact .serializes
  next => cases h

theorem SerializingThread.step_of_next {e : Event} (h : t.next hosts s e = some (s', t')) :
    t.Step hosts s s' t' := by
  have leads : ∀ {thread : MediatorThread} {call : AddTypeIfMissing} {e : Event},
      (∀ newType, thread.awaits .addTypeIfMissing = some newType → call = .returned) →
      lead hosts s thread e = some (s', t') → Step hosts s (.mediator thread call) s' t' := by
    intro thread call e ready h
    obtain ⟨⟨l, thread'⟩, hn, he⟩ := Option.map_eq_some_iff.mp h
    cases he
    exact .leads ready hn
  unfold next at h
  split at h
  next => exact step_of_add h
  next =>
    obtain ⟨⟨helper, call'⟩, hn, he⟩ := Option.map_eq_some_iff.mp h
    cases he
    exact step_of_serialize hn
  next n call =>
    obtain ⟨call', hn, he⟩ := Option.map_eq_some_iff.mp h
    cases he
    cases call <;> cases hn
    exact .deserializes
  next m sentObjectType call =>
    obtain ⟨call', hn, he⟩ := Option.map_eq_some_iff.mp h
    cases he
    cases call <;> cases hn
    exact .receives
  next thread call e =>
    split at h
    next idle => exact leads (by simp [idle]) h
    next => exact leads (fun _ _ => rfl) h
    next => exact step_of_add h
    next => cases h
  next => cases h

theorem SerializingThread.adds_goesTo (t : SerializingThread) (call : AddTypeIfMissing) :
    (t.goesTo call).adds = t.adds.map fun p => (p.1, p.2.1, call) := by
  cases t with
  | serialize n c => cases c <;> rfl
  | mediator thread c => simp [goesTo, adds, Function.comp_def]
  | _ => rfl

/-- A step as the serializer of the multiplexer sees it. -/
inductive SerializingThread.Turns (n : Nat) (s : SerializingWorld) (t : SerializingThread) (s' : SerializingWorld)
    (t' : SerializingThread) : Prop
  | adds {newType call call'} (before : t.adds = some (n, newType, call))
      (after : t'.adds = some (n, newType, call'))
      (h : call.Step newType (s.serializerHelper n) (s'.serializerHelper n) call')
  | aside (same : s'.serializerHelper n = s.serializerHelper n)
      (before : ∀ newType call, t.adds = some (n, newType, call) → call = .returned)
      (after : ∀ newType call, t'.adds = some (n, newType, call) → call = .entered)

theorem SerializingThread.Step.turns (h : t.Step hosts s s' t') (n : Nat) : t.Turns n s s' t' := by
  cases h with
  | @adds _ k newType call helper call' before h =>
    have after : (t.goesTo call').adds = some (k, newType, call') := by simp [t.adds_goesTo, before]
    by_cases mine : k = n
    · subst mine
      have now : (s.setHelper k helper).serializerHelper k = helper := by simp [SerializingWorld.setHelper]
      exact .adds before after (now.symm ▸ h)
    · refine .aside (Function.update_of_ne (Ne.symm mine) _ _) ?_ ?_
      · intro newType call hc
        cases before.symm.trans hc
        exact absurd rfl mine
      · intro newType call hc
        cases after.symm.trans hc
        exact absurd rfl mine
  | added =>
    refine .aside rfl (fun newType call hc => ?_) (by simp [SerializingThread.adds])
    cases hc
    rfl
  | leads ready h =>
    refine .aside rfl (fun newType call hc => ?_) (fun newType call hc => ?_)
    · obtain ⟨newType, awaits, hc⟩ := Option.map_eq_some_iff.mp hc
      cases hc
      exact ready newType awaits
    · obtain ⟨newType, awaits, hc⟩ := Option.map_eq_some_iff.mp hc
      cases hc
      rfl
  | _ => exact .aside rfl (by simp [SerializingThread.adds]) (by simp [SerializingThread.adds])

/-- `_typeSemaphore`. -/
def typeSemaphore (n : Nat) : Lock SerializingWorld SerializingThread where
  taken s := (s.serializerHelper n).typeSemaphoreTaken
  inside t := t.adds.any fun p => decide (p.1 = n) && p.2.2.inside

theorem inside_typeSemaphore {n : Nat} : (typeSemaphore n).inside t = true ↔
    ∃ newType call, t.adds = some (n, newType, call) ∧ call.inside = true := by
  simp only [typeSemaphore, Option.any_eq_true, Prod.exists, Bool.and_eq_true, decide_eq_true_eq]
  constructor
  · rintro ⟨_, newType, call, adds, rfl, inside⟩
    exact ⟨newType, call, adds, inside⟩
  · rintro ⟨newType, call, adds, inside⟩
    exact ⟨n, newType, call, adds, rfl, inside⟩

theorem outside_typeSemaphore {n : Nat}
    (h : ∀ newType call, t.adds = some (n, newType, call) → call.inside = false) :
    (typeSemaphore n).inside t = false := by
  refine Bool.eq_false_iff.mpr fun inside => ?_
  obtain ⟨newType, call, adds, inside⟩ := inside_typeSemaphore.mp inside
  rw [h newType call adds] at inside
  cases inside

theorem SerializingThread.Turns.lock {n : Nat} (h : t.Turns n s s' t') :
    let L := typeSemaphore n
    (L.inside t = false → L.inside t' = true → L.taken s = false ∧ L.taken s' = true) ∧
    (L.inside t = false → L.inside t' = false → s'.serializerHelper n = s.serializerHelper n) ∧
    (L.inside t = true → L.taken s = true → L.taken s' = L.inside t') := by
  cases h with
  | adds before after h => simpa [typeSemaphore, before, after] using h.lock
  | aside same before after =>
    have out : (typeSemaphore n).inside t = false :=
      outside_typeSemaphore fun newType call adds => before newType call adds ▸ rfl
    have out' : (typeSemaphore n).inside t' = false :=
      outside_typeSemaphore fun newType call adds => after newType call adds ▸ rfl
    simp [out, out', same]

theorem SerializingThread.adds_of_start {newType : SentType} {n : Nat} {call : AddTypeIfMissing}
    (h : t.start s = true) (adds : t.adds = some (n, newType, call)) : call = .entered := by
  unfold start at h
  split at h
  next => cases adds; rfl
  next => cases adds; rfl
  next => cases adds
  next => cases adds
  next => cases adds
  next =>
    obtain ⟨_, _, adds⟩ := Option.map_eq_some_iff.mp adds
    cases adds
    rfl
  next => cases h

theorem typeSemaphore_guards (hosts : Hosts) (n : Nat) : (typeSemaphore n).Guards (serializing hosts) where
  start hs := outside_typeSemaphore fun _ _ adds => SerializingThread.adds_of_start hs adds ▸ rfl
  enter h := ((SerializingThread.step_of_next h).turns n).lock.1
  outside h out out' :=
    congrArg (·.typeSemaphoreTaken) (((SerializingThread.step_of_next h).turns n).lock.2.1 out out')
  within h := ((SerializingThread.step_of_next h).turns n).lock.2.2

/-- The thread as the mediators see it. One that is none of theirs is shown as a teardown that has not begun. -/
def SerializingThread.asMediator : SerializingThread → MediatorThread
  | .mediator thread _ => thread
  | _ => ⟨⟨0, 0⟩, .teardown .entered⟩

def mediatorsOf (c : Config SerializingWorld SerializingThread) : Config Lifecycle MediatorThread :=
  ⟨c.shared.lifecycle, c.pool.map (·.asMediator)⟩

theorem SerializingThread.asMediator_of_start (h : t.start s = true) : t.asMediator.activity.start = true := by
  cases t with
  | mediator thread call => cases call <;> first | exact h | cases h
  | _ => rfl

/-- A step is one of the mediators, or they see nothing of it. -/
theorem SerializingThread.Step.asMediator (h : t.Step hosts s s' t') :
    s'.lifecycle = s.lifecycle ∧ t'.asMediator = t.asMediator ∨
      ∃ e, t.asMediator.next hosts s.lifecycle e = some (s'.lifecycle, t'.asMediator) := by
  cases h with
  | adds =>
    refine Or.inl ⟨rfl, ?_⟩
    cases t with
    | serialize n c => cases c <;> rfl
    | _ => rfl
  | leads _ h => exact Or.inr ⟨_, h⟩
  | _ => exact Or.inl ⟨rfl, rfl⟩

/-- Beside the serializers the mediators run as they do in `lifecycle`. -/
theorem mediatorsOf_reachable {configuration : MediatorRef → RabbitMultiplexerMediatorConfiguration}
    {c : Config SerializingWorld SerializingThread}
    (h : Reachable (serializing hosts) ⟨.created configuration, []⟩ c) :
    Reachable (lifecycle hosts) ⟨.created configuration, []⟩ (mediatorsOf c) := by
  refine h.simulation (f := mediatorsOf) fun c d a _ _ hd => ?_
  cases a with
  | start t =>
    obtain ⟨hs, rfl⟩ := act_start hd
    have begins := SerializingThread.asMediator_of_start hs
    exact Or.inr ⟨.start t.asMediator, trivial, by simp [Threads.act, lifecycle, begins, mediatorsOf]⟩
  | step i e =>
    obtain ⟨t, s', t', ht, hn, rfl⟩ := act_step hd
    rcases (SerializingThread.step_of_next hn).asMediator with ⟨life, same⟩ | ⟨e', moved⟩
    · left
      simp only [mediatorsOf, life, map_set_same SerializingThread.asMediator ht same]
    · have there : (mediatorsOf c).pool[i]? = some t.asMediator := by simp [mediatorsOf, ht]
      refine Or.inr ⟨.step i e', trivial, ?_⟩
      simp only [Threads.act, there]
      simp [lifecycle, mediatorsOf, moved, List.map_set]

end Steps
end RabbitMediator
