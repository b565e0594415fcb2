import RabbitMediator.Environment
import RabbitMediator.GetOrAdd
import RabbitMediator.Interleaving

namespace RabbitMediator

open Interleaving

/-- The caches that all multiplexers of a process share. -/
structure ConsumerInvoker where
  consumeMethods : ConcurrentDictionary (ConsumerType × SentType) SentType
  requestConsumeMethods : ConcurrentDictionary (ConsumerType × SentType) RequestInterface

inductive InvokerCall
  | getConsumeMethod (consumerType : ConsumerType) (sentObjectType : SentType) (phase : GetOrAdd SentType Exception)
  | getRequestConsumeMethod (consumerType : ConsumerType) (requestType : SentType)
      (phase : GetOrAdd RequestInterface Exception)

namespace InvokerCall

/-- The outcome of the factory, where the call has come to it. -/
def outcome {α : Type} (factory : Except Exception α) : GetOrAdd α Exception → Option (Except Exception α)
  | .creating => some factory
  | _ => none

def next (s : ConsumerInvoker) : InvokerCall → Option (ConsumerInvoker × InvokerCall)
  | .getConsumeMethod t o p =>
    (GetOrAdd.next s.consumeMethods (t, o) p (outcome (RabbitMediator.getConsumeMethod t o) p)).map fun r =>
      ({ s with consumeMethods := r.1 }, .getConsumeMethod t o r.2)
  | .getRequestConsumeMethod t o p =>
    (GetOrAdd.next s.requestConsumeMethods (t, o) p (outcome (RabbitMediator.getRequestConsumeMethod t o) p)).map
      fun r => ({ s with requestConsumeMethods := r.1 }, .getRequestConsumeMethod t o r.2)

def start : InvokerCall → Bool
  | .getConsumeMethod _ _ .looking | .getRequestConsumeMethod _ _ .looking => true
  | _ => false

/-- What the call has or has come to is what its look-up without a cache has. -/
def Looks : InvokerCall → Prop
  | .getConsumeMethod t o p => p.Computes (fun k => RabbitMediator.getConsumeMethod k.1 k.2) (t, o)
  | .getRequestConsumeMethod t o p => p.Computes (fun k => RabbitMediator.getRequestConsumeMethod k.1 k.2) (t, o)

end InvokerCall

def invokerCalls : Threads ConsumerInvoker InvokerCall Unit where
  start _ t := t.start
  next s _ t _ := t.next s

structure ConsumerInvoker.Agrees (s : ConsumerInvoker) : Prop where
  consumeMethods : GetOrAdd.Agrees (fun k => getConsumeMethod k.1 k.2) s.consumeMethods
  requestConsumeMethods : GetOrAdd.Agrees (fun k => getRequestConsumeMethod k.1 k.2) s.requestConsumeMethods

theorem InvokerCall.outcome_factory {α : Type} {factory r : Except Exception α} {p : GetOrAdd α Exception}
    (h : outcome factory p = some r) : r = factory := by
  unfold outcome at h
  split at h
  next => exact (Option.some.inj h).symm
  next => cases h

theorem invoker_sound : Sound invokerCalls (fun _ _ _ _ => True) ConsumerInvoker.Agrees (fun _ _ t => t.Looks)
    (fun _ _ _ => True) := by
  refine ⟨fun {s i t} _ hs => ?_, fun {s s' i t t' x} agrees looks _ hn => ?_, fun _ _ _ looks => looks⟩
  · cases t with
    | getConsumeMethod _ _ p => cases p <;> trivial
    | getRequestConsumeMethod _ _ p => cases p <;> trivial
  · obtain ⟨methods, requests⟩ := agrees
    cases t with
    | getConsumeMethod t o p =>
      obtain ⟨⟨d, p'⟩, hp, he⟩ := Option.map_eq_some_iff.mp hn
      cases he
      obtain ⟨entries, after⟩ := GetOrAdd.computes_of_next methods looks (fun _ => InvokerCall.outcome_factory) hp
      exact ⟨⟨entries, requests⟩, after, trivial⟩
    | getRequestConsumeMethod t o p =>
      obtain ⟨⟨d, p'⟩, hp, he⟩ := Option.map_eq_some_iff.mp hn
      cases he
      obtain ⟨entries, after⟩ := GetOrAdd.computes_of_next requests looks (fun _ => InvokerCall.outcome_factory) hp
      exact ⟨⟨methods, entries⟩, after, trivial⟩

/-- The caches are transparent: whatever calls look methods up at the same time, each ends as its look-up does
without a cache, with the method or with the exception. -/
theorem invoker_caches_transparent {c : Config ConsumerInvoker InvokerCall} {i : Nat} {t : InvokerCall}
    (h : Reachable invokerCalls ⟨⟨∅, ∅⟩, []⟩ c) (hi : c.pool[i]? = some t) : t.Looks := by
  have empty : ConsumerInvoker.Agrees ⟨∅, ∅⟩ := by
    constructor <;> intro k v entry <;> simp at entry
  exact (invoker_sound.always empty rfl h).2 i t hi

/-- The parameter of the method that a call has come to. -/
def InvokerCall.found? : InvokerCall → Option SentType
  | .getConsumeMethod _ _ (.returned parameter) => some parameter
  | .getRequestConsumeMethod _ _ (.returned i) => some i.requestType
  | _ => none

/-- The second call finds in the cache what the first one has looked up. -/
theorem testCached_transparent :
    ∃ c t, invokerCalls.run (fun _ _ => true) ⟨⟨∅, ∅⟩, []⟩
        [.start (.getConsumeMethod testAnyTargetedMessageConsumer testAnyTargetedMessage .looking), .step 0 (),
          .step 0 (), .step 0 (),
          .start (.getConsumeMethod testAnyTargetedMessageConsumer testAnyTargetedMessage .looking), .step 1 ()] = some c ∧
      c.pool[1]? = some t ∧ t.found? = some testAnyTargetedMessage ∧ t.Looks := by
  have h : (invokerCalls.run (fun _ _ => true) ⟨⟨∅, ∅⟩, []⟩
      [.start (.getConsumeMethod testAnyTargetedMessageConsumer testAnyTargetedMessage .looking), .step 0 (),
        .step 0 (), .step 0 (),
        .start (.getConsumeMethod testAnyTargetedMessageConsumer testAnyTargetedMessage .looking), .step 1 ()]).any
      (fun c => c.pool[1]?.any fun t => t.found? = some testAnyTargetedMessage) = true := by decide +kernel
  obtain ⟨c, hc, found⟩ := (Option.any_eq_true _ _).mp h
  obtain ⟨t, ht, found⟩ := (Option.any_eq_true _ _).mp found
  exact ⟨c, t, hc, ht, of_decide_eq_true found,
    invoker_caches_transparent (.of_run .start (fun _ _ _ => trivial) hc) ht⟩

end RabbitMediator
