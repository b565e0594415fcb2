import RabbitMediator.GetOrAdd
import RabbitMediator.System

namespace RabbitMediator

open Interleaving

/-- Where a call of `GetConsumer` stands. -/
inductive GetConsumer
  | entered
  | getting (instances : GetOrAdd Nat Exception)
  | returnedNull
  | threw (e : Exception)

/-- What runs at the same time: calls of `GetConsumer`, by the handlers and by `GetConsumerInstance`, and the
`TryRemove` of a mediator's disposal. -/
inductive ConsumerThread
  | getConsumer (mediator : MediatorRef) (consumerType : ConsumerType) (phase : GetConsumer)
  | forgetting (mediator : MediatorRef)
  | forgotten

/-- The entries of the mediators with their `ConsumerInstances`. The consumers are numbered as they are created,
and `created` has the mediator and the type of each. -/
structure ConsumerInstances where
  registered : MediatorRef → Bool
  instances : MediatorRef → ConcurrentDictionary ConsumerType Nat
  created : List (MediatorRef × ConsumerType)

namespace ConsumerInstances

/-- No mediator has a consumer yet. -/
def empty (registered : MediatorRef → Bool) : ConsumerInstances := ⟨registered, fun _ => ∅, []⟩

end ConsumerInstances

namespace GetConsumer

def lookUp (mediator : Mediator) (entry : Option RabbitMultiplexerMediatorConfiguration)
    (consumerType : ConsumerType) : GetConsumer :=
  if consumerType.isConsumer then
    match getConfiguration mediator entry with
    | .error e => .threw e
    | .ok configuration => match configuration.configuration.getAllConsumerTypes with
      | .error e => .threw e
      | .ok allConsumerTypes =>
        if allConsumerTypes.contains consumerType then .getting .looking else .returnedNull
  else .threw (.new .argument ("The type " ++ consumerType.fullName ++ " does not implement IConsumer"))

/-- One step. The input is the outcome of `ActivatorUtilities.CreateInstance`. -/
def next (hosts : Hosts) (configuration : MediatorRef → RabbitMultiplexerMediatorConfiguration)
    (s : ConsumerInstances) (m : MediatorRef) (t : ConsumerType) :
    GetConsumer → Option (Except Exception Unit) → Option (ConsumerInstances × GetConsumer)
  | .entered, none =>
    some (s, lookUp (hosts.mediator m) (if s.registered m then some (configuration m) else none) t)
  | .getting p, outcome =>
    (GetOrAdd.next (s.instances m) t p (outcome.map fun r => r.map fun _ => s.created.length)).map fun r =>
      ({ s with
        instances := Function.update s.instances m r.1
        created := match outcome with
          | some (.ok _) => s.created ++ [(m, t)]
          | _ => s.created }, .getting r.2)
  | _, _ => none

/-- How the call has ended: with a consumer by its number, with null, or with an exception. -/
def result : GetConsumer → Option (Except Exception (Option Nat))
  | .getting (.returned i) => some (.ok (some i))
  | .getting (.threw e) | .threw e => some (.error e)
  | .returnedNull => some (.ok none)
  | _ => none

end GetConsumer

def consumerCalls (hosts : Hosts) (configuration : MediatorRef → RabbitMultiplexerMediatorConfiguration) :
    Threads ConsumerInstances ConsumerThread (Option (Except Exception Unit)) where
  start _
    | .getConsumer _ _ .entered | .forgetting _ => true
    | _ => false
  next s _ t outcome := match t with
    | .getConsumer m t phase => (phase.next hosts configuration s m t outcome).map fun r => (r.1, .getConsumer m t r.2)
    | .forgetting m =>
      if outcome.isNone then some ({ s with registered := Function.update s.registered m false }, .forgotten) else none
    | .forgotten => none

section Runs

variable {hosts : Hosts} {configuration : MediatorRef → RabbitMultiplexerMediatorConfiguration}
  {s s' : ConsumerInstances} {m : MediatorRef} {t : ConsumerType} {p p' : GetConsumer}
  {outcome : Option (Except Exception Unit)}

/-- Every entry is a consumer that was created for its mediator and of its type. -/
def ConsumerInstances.Own (s : ConsumerInstances) : Prop :=
  ∀ m t i, (s.instances m).lookup t = some i → s.created[i]? = some (m, t)

/-- What the shared state keeps. -/
structure ConsumerInstances.Keeps (s s' : ConsumerInstances) : Prop where
  created : ∀ (i : Nat) p, s.created[i]? = some p → s'.created[i]? = some p
  instances : ∀ m t i, (s.instances m).lookup t = some i → (s'.instances m).lookup t = some i
  registered : ∀ m, s.registered m = false → s'.registered m = false

/-- What a call knows of the state. -/
def GetConsumer.Knows (configuration : MediatorRef → RabbitMultiplexerMediatorConfiguration) (s : ConsumerInstances)
    (m : MediatorRef) (t : ConsumerType) : GetConsumer → Prop
  | .entered | .threw _ => True
  | .returnedNull => t.isConsumer = true ∧ t ∉ (configuration m).allConsumerTypes
  | .getting p => t ∈ (configuration m).allConsumerTypes ∧ match p with
    | .adding i => s.created[i]? = some (m, t)
    | .returned i => (s.instances m).lookup t = some i
    | _ => True

def ConsumerThread.Knows (configuration : MediatorRef → RabbitMultiplexerMediatorConfiguration) (s : ConsumerInstances) :
    ConsumerThread → Prop
  | .getConsumer m t p => p.Knows configuration s m t
  | _ => True

theorem GetConsumer.knows_lookUp (mediator : Mediator) (registered : Bool) :
    (lookUp mediator (if registered then some (configuration m) else none) t).Knows configuration s m t := by
  unfold lookUp
  split
  next isConsumer =>
    cases registered with
    | false => trivial
    | true =>
      have types := (configuration m).validated
      simp only [getConfiguration, if_true, types]
      split
      next listed => exact ⟨by simpa using listed, trivial⟩
      next unlisted => exact ⟨isConsumer, by simpa using unlisted⟩
  next => trivial

theorem GetConsumer.Knows.keeps (h : p.Knows configuration s m t) (keeps : s.Keeps s') :
    p.Knows configuration s' m t := by
  cases p with
  | entered | threw => trivial
  | returnedNull => exact h
  | getting instances =>
    obtain ⟨listed, h⟩ := h
    refine ⟨listed, ?_⟩
    cases instances with
    | adding i => exact keeps.created i _ h
    | returned i => exact keeps.instances m t i h
    | _ => trivial

/-- A step of `GetOrAdd` inside a call. -/
theorem GetConsumer.next_getting {g : GetOrAdd Nat Exception}
    (h : next hosts configuration s m t (.getting g) outcome = some (s', p')) (own : s.Own)
    (knows : (GetConsumer.getting g).Knows configuration s m t) :
    s'.Own ∧ p'.Knows configuration s' m t ∧ s.Keeps s' := by
  obtain ⟨⟨d, g'⟩, hg, he⟩ := Option.map_eq_some_iff.mp h
  cases he
  obtain ⟨listed, knows⟩ := knows
  have created : ∀ (i : Nat) q, s.created[i]? = some q → (match outcome with
      | some (.ok _) => s.created ++ [(m, t)]
      | _ => s.created)[i]? = some q := by
    intro i q hq
    split
    · exact pool_append_of_old hq
    · exact hq
  have kept : ∀ k u i, (s.instances k).lookup u = some i →
      (Function.update s.instances m d k).lookup u = some i := by
    intro k u i old
    by_cases same : k = m
    · subst same
      rw [Function.update_self]
      exact GetOrAdd.kept_of_next hg old
    · rw [Function.update_of_ne same]
      exact old
  refine ⟨fun k u i entry => ?_, ⟨listed, ?_⟩, created, kept, fun _ gone => gone⟩
  · replace entry : (Function.update s.instances m d k).lookup u = some i := entry
    by_cases same : k = m
    · subst same
      rw [Function.update_self] at entry
      rcases GetOrAdd.entry_of_next hg entry with old | ⟨rfl, rfl⟩
      · exact created i _ (own k u i old)
      · exact created i _ knows
    · rw [Function.update_of_ne same] at entry
      exact created i _ (own k u i entry)
  · cases g' with
    | adding i =>
      obtain ⟨r, hr, he⟩ := Option.map_eq_some_iff.mp ((GetOrAdd.created_of_next hg).1 i rfl)
      cases r with
      | error => cases he
      | ok =>
        cases he
        subst hr
        show (s.created ++ [(m, t)])[s.created.length]? = some (m, t)
        simp
    | returned i =>
      show (Function.update s.instances m d m).lookup t = some i
      rw [Function.update_self]
      exact GetOrAdd.returned_of_next hg
    | _ => trivial

theorem consumer_sound (hosts : Hosts) (configuration : MediatorRef → RabbitMultiplexerMediatorConfiguration) :
    Sound (consumerCalls hosts configuration) (fun _ _ _ _ => True) ConsumerInstances.Own
      (fun s _ t => t.Knows configuration s) (fun _ => ConsumerInstances.Keeps) := by
  have same (s : ConsumerInstances) : s.Keeps s := ⟨fun _ _ h => h, fun _ _ _ h => h, fun _ h => h⟩
  refine ⟨fun {s i t} _ hs => ?_, fun {s s' i t t' x} own knows _ hn => ?_, fun {s s' i j u} _ keeps _ knows => ?_⟩
  · cases t with
    | getConsumer m t phase => cases phase <;> trivial
    | _ => trivial
  · cases t with
    | getConsumer m t phase =>
      obtain ⟨⟨s₁, phase'⟩, hp, he⟩ := Option.map_eq_some_iff.mp hn
      cases he
      cases phase with
      | entered =>
        cases x with
        | some => cases hp
        | none =>
          cases hp
          exact ⟨own, GetConsumer.knows_lookUp _ _, same s⟩
      | getting g => exact GetConsumer.next_getting hp own knows
      | returnedNull | threw => cases x <;> cases hp
    | forgetting m =>
      simp only [consumerCalls] at hn
      split at hn <;> cases hn
      refine ⟨own, trivial, fun _ _ h => h, fun _ _ _ h => h, fun k gone => ?_⟩
      by_cases here : k = m
      · subst here
        exact Function.update_self ..
      · exact (Function.update_of_ne here _ _).trans gone
    | forgotten => cases hn
  · cases u with
    | getConsumer m t p => exact GetConsumer.Knows.keeps knows keeps
    | _ => trivial

variable {c d : Config ConsumerInstances ConsumerThread}
  {allowed : Config ConsumerInstances ConsumerThread → Action ConsumerThread (Option (Except Exception Unit)) → Prop}
  {registered : MediatorRef → Bool}

/-- A call ends as `getConsumer` does in the environment that it has met. -/
theorem GetConsumer.lookUp_getConsumer (env : Environment) (mediator : Mediator) :
    (lookUp mediator env.configurationOfConsumer t = .getting .looking ∧
        getConsumer env mediator t = (env.instantiate t).map fun _ => some t) ∨
      (lookUp mediator env.configurationOfConsumer t).result =
        some ((getConsumer env mediator t).map fun _ => none) := by
  unfold lookUp getConsumer
  split
  next =>
    cases found : getConfiguration mediator env.configurationOfConsumer with
    | error => exact Or.inr rfl
    | ok entry =>
      dsimp only
      cases types : entry.configuration.getAllConsumerTypes with
      | error e =>
        refine Or.inr ?_
        simp [result, bind, Except.bind, types, Except.map]
      | ok all =>
        simp only [bind, Except.bind, types]
        split
        next =>
          refine Or.inl ⟨rfl, ?_⟩
          cases env.instantiate t <;> rfl
        next => exact Or.inr rfl
  next => exact Or.inr rfl

/-- Calls number `n` and later come for a mediator whose entry is gone. -/
structure TurnedAway (m : MediatorRef) (n : Nat) (d : Config ConsumerInstances ConsumerThread) : Prop where
  gone : d.shared.registered m = false
  bound : n ≤ d.pool.length
  calls : ∀ (j : Nat) t q, n ≤ j → d.pool[j]? = some (.getConsumer m t q) → q = .entered ∨ ∃ e, q = .threw e

theorem GetConsumer.lookUp_gone (mediator : Mediator) (t : ConsumerType) : ∃ e, lookUp mediator none t = .threw e := by
  unfold lookUp
  split
  · exact ⟨_, rfl⟩
  · exact ⟨_, rfl⟩

theorem GetConsumer.next_gone (h : next hosts configuration s m t p outcome = some (s', p'))
    (gone : s.registered m = false) (before : p = .entered ∨ ∃ e, p = .threw e) : ∃ e, p' = .threw e := by
  rcases before with rfl | ⟨e, rfl⟩
  · cases outcome with
    | some => cases h
    | none =>
      cases h
      rw [gone]
      exact lookUp_gone _ t
  · cases outcome <;> cases h

theorem turnedAway_of_gone (gone : c.shared.registered m = false)
    (h : Reachable (consumerCalls hosts configuration) c d) : TurnedAway m c.pool.length d := by
  refine h.invariant (P := TurnedAway m c.pool.length) ⟨gone, le_rfl, fun j t q hj hq => ?_⟩ ?_
  · have bound := (List.getElem?_eq_some_iff.mp hq).1
    omega
  · intro d e a _ ih _ he
    obtain ⟨gone, bound, calls⟩ := ih
    cases a with
    | start t =>
      obtain ⟨hs, rfl⟩ := act_start he
      refine ⟨gone, by simp; omega, fun j u q hj hq => ?_⟩
      rcases pool_append_cases hq with hq | ⟨_, rfl⟩
      · exact calls j u q hj hq
      · cases q with
        | entered => exact Or.inl rfl
        | _ => cases hs
    | step i x =>
      obtain ⟨t, s', t', ht, hn, rfl⟩ := act_step he
      have keeps : s'.registered m = false := by
        cases t with
        | getConsumer k u phase =>
          obtain ⟨⟨s₁, phase'⟩, hp, hr⟩ := Option.map_eq_some_iff.mp hn
          cases hr
          cases phase with
          | entered => cases x <;> cases hp; exact gone
          | getting =>
            obtain ⟨r, _, hr⟩ := Option.map_eq_some_iff.mp hp
            cases hr
            exact gone
          | returnedNull | threw => cases x <;> cases hp
        | forgetting k =>
          simp only [consumerCalls] at hn
          split at hn <;> cases hn
          by_cases here : m = k
          · subst here
            exact Function.update_self ..
          · exact (Function.update_of_ne here _ _).trans gone
        | forgotten => cases hn
      refine ⟨keeps, by simpa using bound, fun j u q hj hq => ?_⟩
      rcases pool_set_cases ht hq with ⟨rfl, rfl⟩ | ⟨_, hq⟩
      · cases t with
        | getConsumer k v phase =>
          obtain ⟨⟨s₁, phase'⟩, hp, hr⟩ := Option.map_eq_some_iff.mp hn
          cases hr
          exact Or.inr (GetConsumer.next_gone hp gone (calls j _ _ hj ht))
        | forgetting =>
          simp only [consumerCalls] at hn
          split at hn <;> cases hn
        | forgotten => cases hn
      · exact calls j u q hj hq

/-- `GetConsumer` over any interleaving of calls and disposals: a mediator has one consumer of each type, which it
shares with no other mediator or type; and once its entry is gone, no call comes to a consumer any more. -/
structure OneInstance (hosts : Hosts) (configuration : MediatorRef → RabbitMultiplexerMediatorConfiguration)
    (c : Config ConsumerInstances ConsumerThread) : Prop where
  same : ∀ (i j : Nat) m t p q a b, c.pool[i]? = some (.getConsumer m t p) → c.pool[j]? = some (.getConsumer m t q) →
    p.result = some (.ok (some a)) → q.result = some (.ok (some b)) → a = b
  own : ∀ (i : Nat) m t p a, c.pool[i]? = some (.getConsumer m t p) → p.result = some (.ok (some a)) →
    c.shared.created[a]? = some (m, t) ∧ t ∈ (configuration m).allConsumerTypes
  unlisted : ∀ (i : Nat) m t p, c.pool[i]? = some (.getConsumer m t p) → p.result = some (.ok none) →
    t.isConsumer = true ∧ t ∉ (configuration m).allConsumerTypes
  gone : ∀ m d (j : Nat) t q r, c.shared.registered m = false → Reachable (consumerCalls hosts configuration) c d →
    c.pool.length ≤ j → d.pool[j]? = some (.getConsumer m t q) → q.result ≠ some (.ok r)

theorem GetConsumer.returned_of_result {a : Nat} (h : p.result = some (.ok (some a))) : p = .getting (.returned a) := by
  unfold result at h
  split at h <;> cases h
  rfl

theorem GetConsumer.null_of_result (h : p.result = some (.ok none)) : p = .returnedNull := by
  unfold result at h
  split at h <;> cases h
  rfl

theorem consumer_instances (h : Reachable (consumerCalls hosts configuration) ⟨.empty registered, []⟩ c) :
    OneInstance hosts configuration c := by
  obtain ⟨own, knows⟩ := (consumer_sound hosts configuration).always
    (fun m t i entry => by simp [ConsumerInstances.empty] at entry) rfl h
  have returned {i : Nat} {m : MediatorRef} {t : ConsumerType} {p : GetConsumer} {a : Nat}
      (hi : c.pool[i]? = some (.getConsumer m t p)) (hr : p.result = some (.ok (some a))) :
      t ∈ (configuration m).allConsumerTypes ∧ (c.shared.instances m).lookup t = some a := by
    have mine := knows i _ hi
    rw [GetConsumer.returned_of_result hr] at mine
    exact mine
  refine ⟨fun i j m t p q a b hi hj hp hq => ?_, fun i m t p a hi hp => ?_, fun i m t p hi hp => ?_,
    fun m d j t q r gone hd hj hq ended => ?_⟩
  · have first := (returned hi hp).2
    have second := (returned hj hq).2
    exact Option.some.inj (first.symm.trans second)
  · obtain ⟨listed, entry⟩ := returned hi hp
    exact ⟨own m t a entry, listed⟩
  · have mine := knows i _ hi
    rw [GetConsumer.null_of_result hp] at mine
    exact mine
  · rcases (turnedAway_of_gone gone hd).calls j t q hj hq with rfl | ⟨e, rfl⟩ <;> cases ended

end Runs

/-- Two handlers need the consumer at once. Both create one, and both get the one that was added first. -/
def testRace : List (Action ConsumerThread (Option (Except Exception Unit))) :=
  [.start (.getConsumer ⟨0, 0⟩ testAnyTargetedRequestConsumer .entered), .step 0 none, .step 0 none,
    .start (.getConsumer ⟨0, 0⟩ testAnyTargetedRequestConsumer .entered), .step 1 none, .step 1 none,
    .step 0 (some (.ok ())), .step 1 (some (.ok ())), .step 1 none, .step 0 none]

/-- The consumer a call has come to. -/
def ConsumerThread.consumer? : ConsumerThread → Option (MediatorRef × ConsumerType × Nat)
  | .getConsumer m t (.getting (.returned i)) => some (m, t, i)
  | _ => none

theorem testRace_oneInstance :
    ∃ c, (consumerCalls testHosts fun _ => testMediatorConfiguration).run (fun _ _ => true)
        ⟨.empty fun _ => true, []⟩ testRace = some c ∧
      c.pool.map (·.consumer?) = [some (⟨0, 0⟩, testAnyTargetedRequestConsumer, 1),
        some (⟨0, 0⟩, testAnyTargetedRequestConsumer, 1)] ∧
      OneInstance testHosts (fun _ => testMediatorConfiguration) c := by
  have h : ((consumerCalls testHosts fun _ => testMediatorConfiguration).run (fun _ _ => true)
      ⟨.empty fun _ => true, []⟩ testRace).any (fun c => decide (c.pool.map (·.consumer?) =
        [some (⟨0, 0⟩, testAnyTargetedRequestConsumer, 1), some (⟨0, 0⟩, testAnyTargetedRequestConsumer, 1)])) =
      true := by decide +kernel
  obtain ⟨c, hc, both⟩ := (Option.any_eq_true _ _).mp h
  exact ⟨c, hc, of_decide_eq_true both, consumer_instances (.of_run .start (fun _ _ _ => trivial) hc)⟩

end RabbitMediator
