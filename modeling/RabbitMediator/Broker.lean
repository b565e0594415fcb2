import Mathlib.Data.List.AList
import Mathlib.Data.List.Dedup
import Mathlib.Data.List.Induction

namespace Broker

inductive ExchangeKind
  | direct
  | fanout
deriving DecidableEq, Repr

structure ExchangeArguments where
  kind : ExchangeKind
  durable : Bool
  autoDelete : Bool
deriving DecidableEq, Repr

structure QueueArguments where
  durable : Bool
  exclusive : Bool
  autoDelete : Bool
deriving DecidableEq, Repr

/-- A queue remembers the connection that declared it. -/
structure Queue where
  arguments : QueueArguments
  connection : String
deriving DecidableEq, Repr

structure Binding where
  exchange : String
  queue : String
  routingKey : String
deriving DecidableEq, Repr

inductive Command
  | exchangeDeclare (name : String) (arguments : ExchangeArguments)
  | queueDeclare (name : String) (arguments : QueueArguments)
  | queueBind (binding : Binding)
deriving DecidableEq, Repr

inductive Fault
  | preconditionFailed
  | resourceLocked
  | notFound
deriving DecidableEq, Repr

end Broker

structure Broker where
  exchanges : AList fun _ : String => Broker.ExchangeArguments
  queues : AList fun _ : String => Broker.Queue
  bindings : List Broker.Binding

namespace Broker

def empty : Broker := ⟨∅, ∅, []⟩

/-- The broker has kept its queues, and nothing else. -/
def lost (b : Broker) : Broker := ⟨∅, b.queues, []⟩

/-- A queue may be used by a connection unless another connection has it for itself. -/
def Queue.usableBy (q : Queue) (connection : String) : Bool :=
  !q.arguments.exclusive || q.connection = connection

def execute (connection : String) (b : Broker) : Command → Except Fault Broker
  | .exchangeDeclare name arguments =>
    match b.exchanges.lookup name with
    | none => .ok { b with exchanges := b.exchanges.insert name arguments }
    | some old => if old = arguments then .ok b else .error .preconditionFailed
  | .queueDeclare name arguments =>
    match b.queues.lookup name with
    | none => .ok { b with queues := b.queues.insert name ⟨arguments, connection⟩ }
    | some old =>
      if old.usableBy connection then
        if old.arguments = arguments then .ok b else .error .preconditionFailed
      else .error .resourceLocked
  | .queueBind binding =>
    match b.exchanges.lookup binding.exchange, b.queues.lookup binding.queue with
    | some _, some q =>
      if q.usableBy connection then
        .ok { b with bindings := if binding ∈ b.bindings then b.bindings else binding :: b.bindings }
      else .error .resourceLocked
    | _, _ => .error .notFound

/-- Commands one after the other, each on the connection it came by. -/
def run (b : Broker) : List (String × Command) → Except Fault Broker
  | [] => .ok b
  | (connection, command) :: rest => (execute connection b command).bind fun c => run c rest

/-- A direct exchange compares the routing key, a fanout exchange ignores it. -/
def Binding.accepts (x : Binding) (arguments : ExchangeArguments) (routingKey : String) : Bool :=
  match arguments.kind with
  | .direct => x.routingKey = routingKey
  | .fanout => true

/-- The queues a message goes to, each once. -/
def route (b : Broker) (exchange routingKey : String) : List String :=
  match b.exchanges.lookup exchange with
  | none => []
  | some arguments =>
    ((b.bindings.filter fun x => x.exchange = exchange && x.accepts arguments routingKey).map
      (·.queue)).dedup

theorem nodup_route (b : Broker) (exchange routingKey : String) :
    (b.route exchange routingKey).Nodup := by
  unfold route
  split
  · exact List.nodup_nil
  · exact List.nodup_dedup _

theorem mem_route {b : Broker} {exchange routingKey queue : String} {arguments : ExchangeArguments}
    (he : b.exchanges.lookup exchange = some arguments) :
    queue ∈ b.route exchange routingKey ↔ ∃ x ∈ b.bindings, x.exchange = exchange ∧
      x.accepts arguments routingKey = true ∧ x.queue = queue := by
  simp only [route, he, List.mem_dedup, List.mem_map, List.mem_filter, Bool.and_eq_true,
    decide_eq_true_eq]
  constructor
  · rintro ⟨x, ⟨hx, hex, hm⟩, hq⟩
    exact ⟨x, hx, hex, hm, hq⟩
  · rintro ⟨x, hx, hex, hm, hq⟩
    exact ⟨x, ⟨hx, hex, hm⟩, hq⟩

/-- A list without repetition whose members are all one value is that value alone. -/
theorem eq_singleton_of_nodup {α : Type} {xs : List α} {x : α} (nodup : xs.Nodup) (mem : x ∈ xs)
    (only : ∀ y ∈ xs, y = x) : xs = [x] := by
  have hrep := List.eq_replicate_of_mem only
  rw [hrep] at nodup mem ⊢
  have hle := List.nodup_replicate.mp nodup
  have hne : xs.length ≠ 0 := by
    intro h0
    rw [h0] at mem
    simp at mem
  rw [show xs.length = 1 by omega]
  rfl

theorem route_eq_singleton {b : Broker} {exchange routingKey queue : String}
    (mem : queue ∈ b.route exchange routingKey)
    (only : ∀ p ∈ b.route exchange routingKey, p = queue) :
    b.route exchange routingKey = [queue] :=
  eq_singleton_of_nodup (b.nodup_route exchange routingKey) mem only

/-- Everything a command that goes through can do. -/
inductive Executed (connection : String) (b : Broker) : Command → Broker → Prop
  | exchangeDeclared {name arguments} (new : b.exchanges.lookup name = none) :
      Executed connection b (.exchangeDeclare name arguments)
        { b with exchanges := b.exchanges.insert name arguments }
  | exchangeThere {name arguments} (old : b.exchanges.lookup name = some arguments) :
      Executed connection b (.exchangeDeclare name arguments) b
  | queueDeclared {name arguments} (new : b.queues.lookup name = none) :
      Executed connection b (.queueDeclare name arguments)
        { b with queues := b.queues.insert name ⟨arguments, connection⟩ }
  | queueThere {name q} (old : b.queues.lookup name = some q) :
      Executed connection b (.queueDeclare name q.arguments) b
  | bound {binding} : Executed connection b (.queueBind binding)
      { b with bindings := if binding ∈ b.bindings then b.bindings else binding :: b.bindings }

theorem executed_of_ok {connection : String} {b c : Broker} {k : Command}
    (h : execute connection b k = .ok c) : Executed connection b k c := by
  cases k with
  | exchangeDeclare n a =>
    simp only [execute] at h
    split at h
    next hn => cases h; exact .exchangeDeclared hn
    next old hn =>
      split at h
      next ho => cases h; exact .exchangeThere (ho ▸ hn)
      next => cases h
  | queueDeclare n a =>
    simp only [execute] at h
    split at h
    next hn => cases h; exact .queueDeclared hn
    next old hn =>
      split at h
      next =>
        split at h
        next ho => cases h; exact ho ▸ .queueThere hn
        next => cases h
      next => cases h
  | queueBind x =>
    simp only [execute] at h
    split at h
    next =>
      split at h
      next => cases h; exact .bound
      next => cases h
    next => cases h

theorem exchanges_execute {connection : String} {b c : Broker} {k : Command}
    (h : execute connection b k = .ok c) {name : String} {arguments : ExchangeArguments} :
    c.exchanges.lookup name = some arguments ↔
      b.exchanges.lookup name = some arguments ∨ k = .exchangeDeclare name arguments := by
  cases executed_of_ok h with
  | @exchangeDeclared n a new =>
    by_cases hx : name = n
    · subst hx
      simp [AList.lookup_insert, new]
    · simp [AList.lookup_insert_ne hx, Ne.symm hx]
  | @exchangeThere n a old =>
    refine (or_iff_left_of_imp fun hk => ?_).symm
    cases hk
    exact old
  | _ => simp

theorem bindings_execute {connection : String} {b c : Broker} {k : Command}
    (h : execute connection b k = .ok c) {x : Binding} :
    x ∈ c.bindings ↔ x ∈ b.bindings ∨ k = .queueBind x := by
  cases executed_of_ok h with
  | @bound y =>
    by_cases hy : y ∈ b.bindings
    · simp only [hy, if_true, Command.queueBind.injEq]
      refine (or_iff_left_of_imp fun hk => ?_).symm
      exact hk ▸ hy
    · simp only [hy, if_false, List.mem_cons, Command.queueBind.injEq]
      exact or_comm.trans (or_congr_right eq_comm)
  | _ => simp

theorem exchanges_run {b c : Broker} {ks : List (String × Command)} (h : run b ks = .ok c)
    {name : String} {arguments : ExchangeArguments} :
    c.exchanges.lookup name = some arguments ↔ b.exchanges.lookup name = some arguments ∨
      ∃ k ∈ ks, k.2 = .exchangeDeclare name arguments := by
  induction ks generalizing b with
  | nil => cases h; simp
  | cons k rest ih =>
    obtain ⟨connection, command⟩ := k
    simp only [run, Except.bind] at h
    split at h
    next => cases h
    next d hd =>
      rw [ih h, exchanges_execute hd, or_assoc]
      simp

/-- After commands that all went through, the bindings are just those that were asked for. -/
theorem bindings_run {b c : Broker} {ks : List (String × Command)} (h : run b ks = .ok c)
    {x : Binding} :
    x ∈ c.bindings ↔ x ∈ b.bindings ∨ ∃ k ∈ ks, k.2 = .queueBind x := by
  induction ks generalizing b with
  | nil => cases h; simp
  | cons k rest ih =>
    obtain ⟨connection, command⟩ := k
    simp only [run, Except.bind] at h
    split at h
    next => cases h
    next d hd =>
      rw [ih h, bindings_execute hd, or_assoc]
      simp

theorem queues_execute {connection : String} {b c : Broker} {k : Command}
    (h : execute connection b k = .ok c) {name : String} {q : Queue}
    (hq : c.queues.lookup name = some q) :
    b.queues.lookup name = some q ∨
      k = .queueDeclare name q.arguments ∧ q.connection = connection := by
  cases executed_of_ok h with
  | @queueDeclared n a new =>
    by_cases hx : name = n
    · subst hx
      simp only [AList.lookup_insert, Option.some.injEq] at hq
      subst hq
      exact Or.inr ⟨rfl, rfl⟩
    · rw [AList.lookup_insert_ne hx] at hq
      exact Or.inl hq
  | _ => exact Or.inl hq

theorem queues_kept {connection : String} {b c : Broker} {k : Command}
    (h : execute connection b k = .ok c) {name : String} {q : Queue}
    (hq : b.queues.lookup name = some q) : c.queues.lookup name = some q := by
  cases executed_of_ok h with
  | @queueDeclared n a new =>
    have hx : name ≠ n := by
      rintro rfl
      rw [new] at hq
      cases hq
    exact (AList.lookup_insert_ne hx).trans hq
  | _ => exact hq

theorem queues_execute_other {connection : String} {b c : Broker} {k : Command}
    (h : execute connection b k = .ok c) (other : ∀ name arguments, k ≠ .queueDeclare name arguments) :
    c.queues = b.queues := by
  cases executed_of_ok h with
  | queueDeclared => exact absurd rfl (other _ _)
  | _ => rfl

def hasExchange (b : Broker) (name : String) : Bool := (b.exchanges.lookup name).isSome

theorem hasExchange_execute {connection : String} {b c : Broker} {k : Command}
    (h : execute connection b k = .ok c) {name : String} (old : b.hasExchange name = true) :
    c.hasExchange name = true := by
  obtain ⟨a, ha⟩ := Option.isSome_iff_exists.mp old
  exact Option.isSome_iff_exists.mpr ⟨a, (exchanges_execute h).mpr (Or.inl ha)⟩

theorem hasExchange_of_declare {connection : String} {b c : Broker} {name : String} {arguments : ExchangeArguments}
    (h : execute connection b (.exchangeDeclare name arguments) = .ok c) : c.hasExchange name = true :=
  Option.isSome_iff_exists.mpr ⟨arguments, (exchanges_execute h).mpr (Or.inr rfl)⟩

/-- A declare that the broker refuses meets another exchange of the name. -/
theorem hasExchange_of_refused {connection : String} {b : Broker} {name : String} {arguments : ExchangeArguments}
    {e : Fault} (h : execute connection b (.exchangeDeclare name arguments) = .error e) :
    b.hasExchange name = true := by
  simp only [execute] at h
  split at h
  next => cases h
  next old there => exact Option.isSome_iff_exists.mpr ⟨old, there⟩

/-- A queue that a declare has gone through for has the arguments that it asked for. -/
theorem queue_of_declare {connection : String} {b c : Broker} {name : String} {arguments : QueueArguments}
    (h : execute connection b (.queueDeclare name arguments) = .ok c) :
    ∃ q, c.queues.lookup name = some q ∧ q.arguments = arguments := by
  cases executed_of_ok h with
  | queueDeclared => exact ⟨_, AList.lookup_insert _, rfl⟩
  | queueThere old => exact ⟨_, old, rfl⟩

/-- An exclusive queue that a declare has gone through for belongs to the connection. -/
theorem connection_of_declare {connection : String} {b c : Broker} {name : String} {arguments : QueueArguments}
    (h : execute connection b (.queueDeclare name arguments) = .ok c) :
    ∃ q, c.queues.lookup name = some q ∧ q.arguments = arguments ∧
      (arguments.exclusive = true → q.connection = connection) := by
  simp only [execute] at h
  split at h
  next =>
    cases h
    exact ⟨_, AList.lookup_insert _, rfl, fun _ => rfl⟩
  next old there =>
    split at h
    next usable =>
      split at h <;> cases h
      next same =>
        refine ⟨old, there, same, fun exclusive => ?_⟩
        simpa [Queue.usableBy, same, exclusive] using usable
    next => cases h

theorem usable_of_bind {connection : String} {b c : Broker} {x : Binding}
    (h : execute connection b (.queueBind x) = .ok c) :
    ∃ q, b.queues.lookup x.queue = some q ∧ q.usableBy connection = true := by
  simp only [execute] at h
  split at h
  next q _ there =>
    split at h
    next usable => exact ⟨q, there, usable⟩
    next => cases h
  next => cases h

theorem queues_present {connection : String} {b c : Broker} {k : Command}
    (h : execute connection b k = .ok c) {name : String}
    (hn : (b.queues.lookup name).isSome ∨ ∃ a, k = .queueDeclare name a) :
    (c.queues.lookup name).isSome := by
  cases executed_of_ok h with
  | @queueDeclared n a new =>
    by_cases hx : name = n
    · subst hx
      simp [AList.lookup_insert]
    · rw [AList.lookup_insert_ne hx]
      simpa [Ne.symm hx] using hn
  | queueThere old =>
    rcases hn with hn | ⟨a, ha⟩
    · exact hn
    · cases ha
      simp [old]
  | _ => simpa using hn

theorem run_append (b : Broker) (ks ls : List (String × Command)) :
    run b (ks ++ ls) = (run b ks).bind fun c => run c ls := by
  induction ks generalizing b with
  | nil => rfl
  | cons k rest ih =>
    obtain ⟨connection, command⟩ := k
    simp only [List.cons_append, run]
    cases execute connection b command with
    | error e => rfl
    | ok c => exact ih c

/-- What each command relies on: others declare the same way, and bindings come after what they
bind. -/
structure Coherent (ks : List (String × Command)) : Prop where
  exchanges : ∀ {u v n a a'}, (u, .exchangeDeclare n a) ∈ ks → (v, .exchangeDeclare n a') ∈ ks → a = a'
  queues : ∀ {u v n a a'}, (u, .queueDeclare n a) ∈ ks → (v, .queueDeclare n a') ∈ ks →
    a = a' ∧ (a.exclusive = true → u = v)
  bindings : ∀ {u v x a}, (u, .queueBind x) ∈ ks → (v, .queueDeclare x.queue a) ∈ ks →
    a.exclusive = true → u = v
  order : ∀ {before after u x}, ks = before ++ (u, .queueBind x) :: after →
    (∃ v a, (v, .exchangeDeclare x.exchange a) ∈ before) ∧
      ∃ v a, (v, .queueDeclare x.queue a) ∈ before

theorem queues_run {ks : List (String × Command)} {c : Broker} (h : run empty ks = .ok c) :
    (∀ {n q}, c.queues.lookup n = some q → (q.connection, .queueDeclare n q.arguments) ∈ ks) ∧
      ∀ {u n a}, (u, .queueDeclare n a) ∈ ks → (c.queues.lookup n).isSome := by
  induction ks using List.reverseRecOn generalizing c with
  | nil => cases h; simp [empty]
  | append_singleton ks k ih =>
    obtain ⟨connection, command⟩ := k
    rw [run_append] at h
    cases hd : run empty ks with
    | error e => rw [hd] at h; cases h
    | ok d =>
      rw [hd] at h
      simp only [Except.bind, run] at h
      split at h
      next => cases h
      next e he =>
        cases h
        obtain ⟨from_, there⟩ := ih hd
        constructor
        · intro n q hq
          rcases queues_execute he hq with hq | ⟨rfl, hc⟩
          · exact List.mem_append_left _ (from_ hq)
          · simp [hc]
        · intro u n a hm
          rcases List.mem_append.mp hm with hm | hm
          · exact queues_present he (Or.inl (there hm))
          · simp only [List.mem_singleton, Prod.mk.injEq] at hm
            exact queues_present he (Or.inr ⟨a, hm.2.symm⟩)

theorem execute_ok {ks before after : List (String × Command)} (coherent : Coherent ks)
    {connection : String} {command : Command} (hk : ks = before ++ (connection, command) :: after)
    {b : Broker} (h : run empty before = .ok b) : ∃ c, execute connection b command = .ok c := by
  have here : (connection, command) ∈ ks := by simp [hk]
  have old : ∀ {k}, k ∈ before → k ∈ ks := fun hm => by simp [hk, hm]
  obtain ⟨from_, there⟩ := queues_run h
  have mine : ∀ {n a q}, (connection, .queueDeclare n a) ∈ ks → b.queues.lookup n = some q →
      q.usableBy connection = true ∧ q.arguments = a := by
    intro n a q hm hq
    obtain ⟨ha, hc⟩ := coherent.queues hm (old (from_ hq))
    subst ha
    refine ⟨?_, rfl⟩
    cases hx : q.arguments.exclusive with
    | false => simp [Queue.usableBy, hx]
    | true => simp [Queue.usableBy, (hc hx).symm]
  cases command with
  | exchangeDeclare n a =>
    simp only [execute]
    split
    next => exact ⟨_, rfl⟩
    next o ho =>
      obtain ⟨⟨v, k⟩, hk', rfl⟩ := ((exchanges_run h).mp ho).resolve_left (by simp [empty])
      exact ⟨b, if_pos (coherent.exchanges (old hk') here)⟩
  | queueDeclare n a =>
    simp only [execute]
    split
    next => exact ⟨_, rfl⟩
    next q hq =>
      obtain ⟨hu, ha⟩ := mine here hq
      exact ⟨b, by rw [if_pos hu, if_pos ha]⟩
  | queueBind x =>
    obtain ⟨⟨v, a, hex⟩, w, qa, hqu⟩ := coherent.order hk
    have he := (exchanges_run h).mpr (Or.inr ⟨_, hex, rfl⟩)
    obtain ⟨q, hq⟩ := Option.isSome_iff_exists.mp (there hqu)
    have hu : q.usableBy connection = true := by
      cases hx : q.arguments.exclusive with
      | false => simp [Queue.usableBy, hx]
      | true => simp [Queue.usableBy, coherent.bindings here (old (from_ hq)) hx]
    simp only [execute, he, hq, hu, if_true]
    exact ⟨_, rfl⟩

/-- Coherent commands all go through, in whatever order they come. -/
theorem run_ok {ks : List (String × Command)} (coherent : Coherent ks) :
    ∃ b, run empty ks = .ok b := by
  have prefixes : ∀ before after, ks = before ++ after → ∃ b, run empty before = .ok b := by
    intro before
    induction before using List.reverseRecOn with
    | nil => exact fun _ _ => ⟨_, rfl⟩
    | append_singleton before k ih =>
      intro after hk
      rw [List.append_assoc, List.singleton_append] at hk
      obtain ⟨b, hb⟩ := ih _ hk
      obtain ⟨connection, command⟩ := k
      obtain ⟨c, hc⟩ := execute_ok coherent hk hb
      refine ⟨c, ?_⟩
      rw [run_append, hb]
      simp only [Except.bind, run, hc]
  exact prefixes ks [] (by simp)

end Broker
