import RabbitMediator.Broker

namespace Broker

/-- A consumer registered on a channel of a connection. -/
structure Consumer (χ : Type) where
  channel : χ
  consumerTag : String
  queue : String
deriving DecidableEq

end Broker

/-- A broker with the consumers of one connection. -/
structure ConsumingBroker (χ : Type) where
  broker : Broker
  consumers : List (Broker.Consumer χ)

namespace ConsumingBroker

open Broker

variable {χ : Type}

def empty : ConsumingBroker χ := ⟨.empty, []⟩

def execute (connection : String) (b : ConsumingBroker χ) (k : Command) :
    Except Fault (ConsumingBroker χ) :=
  (Broker.execute connection b.broker k).map fun c => { b with broker := c }

/-- The broker accepts the command, and keeps what it has in its place. -/
def accept (connection : String) (b : ConsumingBroker χ) (k : Command) : ConsumingBroker χ :=
  match b.execute connection k with
  | .ok c => c
  | .error _ => b

/-- Each command is carried out where it comes to the broker. -/
def Accepts (connection : String) : ConsumingBroker χ → List Command → Prop
  | _, [] => True
  | b, k :: rest => ∃ c, b.execute connection k = .ok c ∧ Accepts connection c rest

def queueDelete (b : ConsumingBroker χ) (name : String) : ConsumingBroker χ :=
  ⟨{ b.broker with
      queues := b.broker.queues.erase name
      bindings := b.broker.bindings.filter fun x => x.queue ≠ name },
    b.consumers.filter fun k => k.queue ≠ name⟩

/-- An auto-delete queue that nobody consumes any more goes. -/
def collect (b : ConsumingBroker χ) (name : String) : ConsumingBroker χ :=
  if (b.broker.queues.lookup name).any (·.arguments.autoDelete) && b.consumers.all fun k => k.queue ≠ name
  then b.queueDelete name else b

/-- These consumers go, and with the last consumer of an auto-delete queue the queue. -/
def drop (b : ConsumingBroker χ) (gone : Consumer χ → Bool) : ConsumingBroker χ :=
  ((b.consumers.filter gone).map (·.queue)).foldl collect
    { b with consumers := b.consumers.filter fun k => !gone k }

variable [DecidableEq χ]

/-- The queue has to be there, and no consumer of the channel may have the tag. -/
def basicConsume (b : ConsumingBroker χ) (k : Consumer χ) : Option (ConsumingBroker χ) :=
  if (b.broker.queues.lookup k.queue).isSome &&
      b.consumers.all fun j => !(j.channel = k.channel && j.consumerTag = k.consumerTag)
  then some { b with consumers := k :: b.consumers } else none

def basicCancel (b : ConsumingBroker χ) (channel : χ) (consumerTag : String) : ConsumingBroker χ :=
  b.drop fun k => k.channel = channel && k.consumerTag = consumerTag

def closeChannel (b : ConsumingBroker χ) (channel : χ) : ConsumingBroker χ :=
  b.drop fun k => k.channel = channel

section Shrinking

omit [DecidableEq χ]

variable {b c : ConsumingBroker χ} {name : String} {gone : Consumer χ → Bool}

/-- Consumers, queues and bindings have gone, but none has come. -/
structure Shrinks (b c : ConsumingBroker χ) : Prop where
  exchanges : c.broker.exchanges = b.broker.exchanges
  queues : ∀ {n q}, c.broker.queues.lookup n = some q → b.broker.queues.lookup n = some q
  bindings : ∀ x ∈ c.broker.bindings, x ∈ b.broker.bindings
  consumers : c.consumers.Sublist b.consumers

theorem Shrinks.refl (b : ConsumingBroker χ) : b.Shrinks b :=
  ⟨rfl, id, fun _ h => h, List.Sublist.refl _⟩

theorem Shrinks.trans {d : ConsumingBroker χ} (h : b.Shrinks c) (h' : c.Shrinks d) : b.Shrinks d :=
  ⟨h'.exchanges.trans h.exchanges, fun hn => h.queues (h'.queues hn),
    fun x hx => h.bindings x (h'.bindings x hx), h'.consumers.trans h.consumers⟩

theorem lookup_queueDelete_ne {n : String} (h : n ≠ name) :
    (b.queueDelete name).broker.queues.lookup n = b.broker.queues.lookup n :=
  AList.lookup_erase_ne h

theorem lookup_queueDelete_self (b : ConsumingBroker χ) (name : String) :
    (b.queueDelete name).broker.queues.lookup name = none :=
  AList.lookup_erase name _

theorem shrinks_queueDelete (b : ConsumingBroker χ) (name : String) : b.Shrinks (b.queueDelete name) := by
  refine ⟨rfl, fun {n q} hn => ?_, fun x hx => List.mem_of_mem_filter hx, List.filter_sublist⟩
  by_cases h : n = name
  · subst h
    rw [lookup_queueDelete_self] at hn
    cases hn
  · rwa [lookup_queueDelete_ne h] at hn

theorem shrinks_collect (b : ConsumingBroker χ) (name : String) : b.Shrinks (b.collect name) := by
  unfold collect
  split
  · exact shrinks_queueDelete b name
  · exact .refl b

theorem shrinks_foldl_collect (b : ConsumingBroker χ) (names : List String) :
    b.Shrinks (names.foldl collect b) := by
  induction names generalizing b with
  | nil => exact .refl b
  | cons name names ih => exact (shrinks_collect b name).trans (ih _)

theorem shrinks_drop (b : ConsumingBroker χ) (gone : Consumer χ → Bool) : b.Shrinks (b.drop gone) := by
  have first : b.Shrinks { b with consumers := b.consumers.filter fun k => !gone k } :=
    ⟨rfl, id, fun _ h => h, List.filter_sublist⟩
  exact first.trans (shrinks_foldl_collect _ _)

theorem consumers_collect (b : ConsumingBroker χ) (name : String) :
    (b.collect name).consumers = b.consumers := by
  unfold collect
  split
  next h => exact List.filter_eq_self.mpr fun k hk => List.all_eq_true.mp (Bool.and_eq_true_iff.mp h).2 k hk
  next => rfl

theorem consumers_drop (b : ConsumingBroker χ) (gone : Consumer χ → Bool) :
    (b.drop gone).consumers = b.consumers.filter fun k => !gone k := by
  have collected : ∀ (names : List String) (c : ConsumingBroker χ),
      (names.foldl collect c).consumers = c.consumers := by
    intro names
    induction names with
    | nil => exact fun _ => rfl
    | cons name names ih => exact fun c => (ih _).trans (consumers_collect c name)
  exact collected _ _

theorem drop_eq_self (h : ∀ k ∈ b.consumers, gone k = false) : b.drop gone = b := by
  have kept : (b.consumers.filter fun k => !gone k) = b.consumers :=
    List.filter_eq_self.mpr fun k hk => by simp [h k hk]
  have none : b.consumers.filter gone = [] := List.filter_eq_nil_iff.mpr fun k hk => by simp [h k hk]
  rw [drop, kept, none]
  rfl

/-- The queue is to go when nobody consumes it any more. -/
def autoDeletes (b : ConsumingBroker χ) (n : String) : Bool :=
  (b.broker.queues.lookup n).any (·.arguments.autoDelete)

theorem lookup_collect_none_iff {n : String} : (b.collect name).broker.queues.lookup n = none ↔
    b.broker.queues.lookup n = none ∨
      n = name ∧ b.autoDeletes n = true ∧ ∀ k ∈ b.consumers, k.queue ≠ n := by
  unfold collect
  split
  next h =>
    obtain ⟨auto, unused⟩ := Bool.and_eq_true_iff.mp h
    have unused : ∀ k ∈ b.consumers, k.queue ≠ name := by simpa using unused
    by_cases hn : n = name
    · subst hn
      exact iff_of_true (lookup_queueDelete_self b n) (Or.inr ⟨rfl, auto, unused⟩)
    · rw [lookup_queueDelete_ne hn]
      exact ⟨Or.inl, fun h => h.resolve_right fun h => hn h.1⟩
  next h =>
    refine ⟨Or.inl, fun h' => h'.resolve_right ?_⟩
    rintro ⟨rfl, auto, unused⟩
    exact h (Bool.and_eq_true_iff.mpr ⟨auto, by simpa using unused⟩)

theorem lookup_foldl_collect_none_iff (names : List String) (b : ConsumingBroker χ) {n : String} :
    (names.foldl collect b).broker.queues.lookup n = none ↔ b.broker.queues.lookup n = none ∨
      n ∈ names ∧ b.autoDeletes n = true ∧ ∀ k ∈ b.consumers, k.queue ≠ n := by
  induction names generalizing b with
  | nil => simp
  | cons name names ih =>
    rw [List.foldl_cons, ih (b.collect name), consumers_collect, lookup_collect_none_iff, List.mem_cons]
    cases hc : (b.collect name).broker.queues.lookup n with
    | none =>
      have gone := lookup_collect_none_iff.mp hc
      simp only [autoDeletes, hc, Option.any_none, Bool.false_eq_true, false_and, and_false, or_false]
      refine ⟨fun _ => gone.imp id fun ⟨hn, rest⟩ => ⟨Or.inl hn, rest⟩, fun _ => gone⟩
    | some q =>
      have kept := (shrinks_collect b name).queues hc
      have stays : ¬(n = name ∧ b.autoDeletes n = true ∧ ∀ k ∈ b.consumers, k.queue ≠ n) := fun h => by
        rw [lookup_collect_none_iff.mpr (Or.inr h)] at hc
        cases hc
      have same : (b.collect name).autoDeletes n = b.autoDeletes n := by rw [autoDeletes, autoDeletes, hc, kept]
      rw [same]
      tauto

/-- A queue is gone after consumers went if it was gone before, or if its last one went and it is to go then. -/
theorem lookup_drop_none_iff {n : String} : (b.drop gone).broker.queues.lookup n = none ↔
    b.broker.queues.lookup n = none ∨ b.autoDeletes n = true ∧
      (∃ k ∈ b.consumers, gone k = true ∧ k.queue = n) ∧ ∀ k ∈ b.consumers, k.queue = n → gone k = true := by
  unfold drop
  rw [lookup_foldl_collect_none_iff]
  have names : n ∈ (b.consumers.filter gone).map (·.queue) ↔ ∃ k ∈ b.consumers, gone k = true ∧ k.queue = n := by
    simp [and_assoc]
  have left : (∀ k ∈ b.consumers.filter fun k => !gone k, k.queue ≠ n) ↔
      ∀ k ∈ b.consumers, k.queue = n → gone k = true := by
    simp only [List.mem_filter, Bool.not_eq_true', and_imp]
    refine forall₂_congr fun k _ => ?_
    cases gone k <;> simp
  rw [names, left]
  exact or_congr Iff.rfl and_left_comm

/-- What the queue `name` is at the broker stays as it is. -/
structure Spares (name : String) (b c : ConsumingBroker χ) : Prop where
  queue : c.broker.queues.lookup name = b.broker.queues.lookup name
  bindings : ∀ x ∈ b.broker.bindings, x.queue = name → x ∈ c.broker.bindings

theorem spares_collect {k : Consumer χ} (hk : k ∈ b.consumers) (name : String) :
    Spares k.queue b (b.collect name) := by
  unfold collect
  split
  next h =>
    have other : k.queue ≠ name := by
      simpa using List.all_eq_true.mp (Bool.and_eq_true_iff.mp h).2 k hk
    refine ⟨lookup_queueDelete_ne other, fun x hx hq => List.mem_filter.mpr ⟨hx, ?_⟩⟩
    simpa [hq] using other
  next => exact ⟨rfl, fun _ h _ => h⟩

/-- A queue stays while it has a consumer that stays. -/
theorem spares_drop {k : Consumer χ} (hk : k ∈ b.consumers) (stays : gone k = false) :
    Spares k.queue b (b.drop gone) := by
  have collected : ∀ (names : List String) (c : ConsumingBroker χ), k ∈ c.consumers →
      Spares k.queue c (names.foldl collect c) := by
    intro names
    induction names with
    | nil => exact fun _ _ => ⟨rfl, fun _ h _ => h⟩
    | cons name names ih =>
      intro c hc
      obtain ⟨queue, bindings⟩ := spares_collect hc name
      obtain ⟨queue', bindings'⟩ := ih (c.collect name) (by rwa [consumers_collect])
      exact ⟨queue'.trans queue, fun x hx hq => bindings' x (bindings x hx hq) hq⟩
  have kept : k ∈ b.consumers.filter fun k => !gone k := List.mem_filter.mpr ⟨hk, by simp [stays]⟩
  obtain ⟨queue, bindings⟩ := collected ((b.consumers.filter gone).map (·.queue))
    { b with consumers := b.consumers.filter fun k => !gone k } kept
  exact ⟨queue, bindings⟩

/-- Exchanges, queues, bindings and consumers have come, but none has gone. -/
structure Grows (b c : ConsumingBroker χ) : Prop where
  exchanges : ∀ {n a}, b.broker.exchanges.lookup n = some a → c.broker.exchanges.lookup n = some a
  queues : ∀ {n q}, b.broker.queues.lookup n = some q → c.broker.queues.lookup n = some q
  bindings : ∀ x ∈ b.broker.bindings, x ∈ c.broker.bindings
  consumers : ∀ k ∈ b.consumers, k ∈ c.consumers

theorem Grows.refl (b : ConsumingBroker χ) : b.Grows b := ⟨id, id, fun _ h => h, fun _ h => h⟩

theorem executed_of_execute {connection : String} {k : Command} (h : b.execute connection k = .ok c) :
    Broker.execute connection b.broker k = .ok c.broker ∧ c.consumers = b.consumers := by
  unfold execute at h
  cases hx : Broker.execute connection b.broker k with
  | error => simp [hx, Except.map] at h
  | ok d =>
    simp only [hx, Except.map, Except.ok.injEq] at h
    exact h ▸ ⟨rfl, rfl⟩

theorem grows_execute {connection : String} {k : Command} (h : b.execute connection k = .ok c) :
    b.Grows c := by
  obtain ⟨hx, consumers⟩ := executed_of_execute h
  exact ⟨fun ha => (exchanges_execute hx).mpr (Or.inl ha), fun hq => queues_kept hx hq,
    fun x hx' => (bindings_execute hx).mpr (Or.inl hx'), fun k hk => consumers ▸ hk⟩

theorem grows_accept (connection : String) (b : ConsumingBroker χ) (k : Command) :
    b.Grows (b.accept connection k) := by
  unfold accept
  split
  next h => exact grows_execute h
  next => exact .refl b

theorem consumers_accept (connection : String) (b : ConsumingBroker χ) (k : Command) :
    (b.accept connection k).consumers = b.consumers := by
  unfold accept
  split
  next h => exact (executed_of_execute h).2
  next => rfl

/-- A queue that was declared is there, whoever declared it. -/
theorem isSome_accept_queueDeclare (connection : String) (b : ConsumingBroker χ) (name : String)
    (arguments : QueueArguments) :
    ((b.accept connection (.queueDeclare name arguments)).broker.queues.lookup name).isSome = true := by
  unfold accept execute
  simp only [Broker.execute]
  cases hq : b.broker.queues.lookup name with
  | none => simp [Except.map]
  | some old =>
    by_cases usable : old.usableBy connection = true
    · by_cases same : old.arguments = arguments
      · simp [Except.map, usable, same, hq]
      · simp [Except.map, usable, same, hq]
    · simp [Except.map, usable, hq]

/-- Every consumer has its queue. -/
def Anchored (b : ConsumingBroker χ) : Prop :=
  ∀ k ∈ b.consumers, (b.broker.queues.lookup k.queue).isSome = true

theorem Anchored.queueDelete (h : b.Anchored) (name : String) : (b.queueDelete name).Anchored := by
  intro k hk
  obtain ⟨hk, other⟩ := List.mem_filter.mp hk
  rw [lookup_queueDelete_ne (of_decide_eq_true other)]
  exact h k hk

theorem Anchored.drop (h : b.Anchored) (gone : Consumer χ → Bool) : (b.drop gone).Anchored := by
  intro k hk
  rw [consumers_drop] at hk
  obtain ⟨hk, stays⟩ := List.mem_filter.mp hk
  rw [(spares_drop hk (by simpa using stays)).queue]
  exact h k hk

theorem Anchored.grows (h : b.Anchored) (grows : b.Grows c) (consumers : c.consumers = b.consumers) :
    c.Anchored := by
  intro k hk
  obtain ⟨q, hq⟩ := Option.isSome_iff_exists.mp (h k (consumers ▸ hk))
  rw [grows.queues hq]
  rfl

theorem Anchored.consume {k : Consumer χ} (h : b.Anchored)
    (queue : (b.broker.queues.lookup k.queue).isSome = true) :
    Anchored { b with consumers := k :: b.consumers } := by
  intro j hj
  rcases List.mem_cons.mp hj with rfl | hj
  · exact queue
  · exact h j hj

end Shrinking
end ConsumingBroker
