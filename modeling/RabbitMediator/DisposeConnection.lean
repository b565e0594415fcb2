import RabbitMediator.Teardown

namespace RabbitMediator

/-- A command out of the two loops of `DisposeRabbitMediatorConnection`. -/
inductive TeardownCall
  | basicCancel (consumerTag : String) (channel : ReceiveChannel)
  | queueDelete (queue : String) (channel : ReceiveChannel)
deriving DecidableEq

namespace TeardownCall

def carriedOut (b : ConsumingBroker ReceiveChannel) : TeardownCall → ConsumingBroker ReceiveChannel
  | .basicCancel consumerTag channel => b.basicCancel channel consumerTag
  | .queueDelete queue _ => b.queueDelete queue

/-- The consumer tag or the queue. -/
def name : TeardownCall → String
  | .basicCancel consumerTag _ => consumerTag
  | .queueDelete queue _ => queue

/-- The loops with their commands in order, up to the first one that fails. -/
def goThrough (answers : TeardownCall → Except Exception Unit) :
    List TeardownCall → ConsumingBroker ReceiveChannel → ConsumingBroker ReceiveChannel × Except Exception Unit
  | [], b => (b, .ok ())
  | call :: rest, b =>
    match answers call with
    | .ok _ => goThrough answers rest (call.carriedOut b)
    | .error e => (b, .error e)

/-- What the command is to remove is not there. -/
def Done (b : ConsumingBroker ReceiveChannel) : TeardownCall → Prop
  | .basicCancel consumerTag channel => ∀ k ∈ b.consumers, ¬(k.channel = channel ∧ k.consumerTag = consumerTag)
  | .queueDelete queue _ => b.broker.queues.lookup queue = none

/-- What the command is to remove was never there, or went with the last consumer of an auto-delete queue. -/
def Gone (b : ConsumingBroker ReceiveChannel) (before : List TeardownCall) : TeardownCall → Prop
  | .basicCancel consumerTag channel => ∀ k ∈ b.consumers, ¬(k.channel = channel ∧ k.consumerTag = consumerTag)
  | .queueDelete queue _ => b.broker.queues.lookup queue = none ∨ b.autoDeletes queue = true ∧
      (∃ k ∈ b.consumers, k.queue = queue) ∧
      ∀ k ∈ b.consumers, k.queue = queue → .basicCancel k.consumerTag k.channel ∈ before

end TeardownCall

namespace MediatorLife

/-- The commands, in the order the two tables are enumerated. -/
def teardownCalls (l : MediatorLife) : List TeardownCall :=
  l.consumerTags.entries.map (fun p => .basicCancel p.1 p.2) ++
    l.ownedQueues.entries.map fun p => .queueDelete p.1 p.2

def disposeRabbitMediatorConnection (answers : TeardownCall → Except Exception Unit) (l : MediatorLife) :
    MediatorLife × Except Exception Unit :=
  if l.registered then
    let p := TeardownCall.goThrough answers l.teardownCalls l.topology
    -- a failure is only logged
    ({ l with registered := false, topology := p.1 }, match p.2 with
      | .ok _ => .ok ()
      | .error _ => .ok ())
  else (l, .ok ())

end MediatorLife

section Loops

variable {answers : TeardownCall → Except Exception Unit} {b c : ConsumingBroker ReceiveChannel}
  {call : TeardownCall} {calls before after : List TeardownCall}

theorem shrinks_carriedOut (b : ConsumingBroker ReceiveChannel) (call : TeardownCall) :
    b.Shrinks (call.carriedOut b) := by
  cases call with
  | basicCancel => exact ConsumingBroker.shrinks_drop b _
  | queueDelete queue => exact ConsumingBroker.shrinks_queueDelete b queue

theorem shrinks_foldl_carriedOut (b : ConsumingBroker ReceiveChannel) (calls : List TeardownCall) :
    b.Shrinks (calls.foldl (fun b call => call.carriedOut b) b) := by
  induction calls generalizing b with
  | nil => exact .refl b
  | cons call calls ih => exact (shrinks_carriedOut b call).trans (ih _)

theorem done_carriedOut (b : ConsumingBroker ReceiveChannel) (call : TeardownCall) :
    call.Done (call.carriedOut b) := by
  cases call with
  | basicCancel consumerTag channel =>
    rintro k hk ⟨rfl, rfl⟩
    rw [TeardownCall.carriedOut, ConsumingBroker.basicCancel, ConsumingBroker.consumers_drop] at hk
    simpa using (List.mem_filter.mp hk).2
  | queueDelete queue => exact ConsumingBroker.lookup_queueDelete_self b queue

theorem TeardownCall.Done.shrinks (h : call.Done b) (shrinks : b.Shrinks c) : call.Done c := by
  cases call with
  | basicCancel => exact fun k hk => h k (shrinks.consumers.subset hk)
  | queueDelete queue =>
    refine Option.eq_none_iff_forall_ne_some.mpr fun q hq => ?_
    rw [TeardownCall.Done, shrinks.queues hq] at h
    cases h

/-- What has been carried out stays done. -/
theorem done_foldl_carriedOut (h : call ∈ calls) (b : ConsumingBroker ReceiveChannel) :
    call.Done (calls.foldl (fun b call => call.carriedOut b) b) := by
  induction calls generalizing b with
  | nil => cases h
  | cons first calls ih =>
    rcases List.mem_cons.mp h with rfl | h
    · exact (done_carriedOut b call).shrinks (shrinks_foldl_carriedOut _ calls)
    · exact ih h _

theorem goThrough_all (b : ConsumingBroker ReceiveChannel) (all : ∀ call ∈ calls, answers call = .ok ()) :
    TeardownCall.goThrough answers calls b = (calls.foldl (fun b call => call.carriedOut b) b, .ok ()) := by
  induction calls generalizing b with
  | nil => rfl
  | cons call calls ih =>
    rw [TeardownCall.goThrough, all call List.mem_cons_self]
    exact ih _ fun k hk => all k (List.mem_cons_of_mem _ hk)

/-- The first failure ends the loops. -/
theorem goThrough_failing {failing : TeardownCall} (b : ConsumingBroker ReceiveChannel)
    (all : ∀ call ∈ before, answers call = .ok ()) (fails : answers failing ≠ .ok ()) :
    (TeardownCall.goThrough answers (before ++ failing :: after) b).1 =
      before.foldl (fun b call => call.carriedOut b) b := by
  induction before generalizing b with
  | nil =>
    rw [List.nil_append, TeardownCall.goThrough]
    split
    next u h => exact absurd h fails
    next => rfl
  | cons call before ih =>
    rw [List.cons_append, TeardownCall.goThrough, all call List.mem_cons_self]
    exact ih _ fun k hk => all k (List.mem_cons_of_mem _ hk)

/-- A list of commands succeeds as a whole, or has a first one that fails. -/
theorem first_failing (answers : TeardownCall → Except Exception Unit) (calls : List TeardownCall) :
    (∀ call ∈ calls, answers call = .ok ()) ∨ ∃ before failing after, calls = before ++ failing :: after ∧
      (∀ call ∈ before, answers call = .ok ()) ∧ answers failing ≠ .ok () := by
  induction calls with
  | nil => exact Or.inl fun _ h => absurd h List.not_mem_nil
  | cons call calls ih =>
    by_cases hc : answers call = .ok ()
    · rcases ih with all | ⟨before, failing, after, rfl, all, fails⟩
      · exact Or.inl (List.forall_mem_cons.mpr ⟨hc, all⟩)
      · exact Or.inr ⟨call :: before, failing, after, rfl, List.forall_mem_cons.mpr ⟨hc, all⟩, fails⟩
    · exact Or.inr ⟨[], call, calls, rfl, fun _ h => absurd h List.not_mem_nil, hc⟩

/-- Cancelling other consumers leaves a consumer where it is. -/
theorem done_cancel_iff {consumerTag : String} {channel : ReceiveChannel}
    (cancels : ∀ call ∈ before, ∃ t ch, call = .basicCancel t ch) (other : .basicCancel consumerTag channel ∉ before) :
    (TeardownCall.basicCancel consumerTag channel).Done (before.foldl (fun b call => call.carriedOut b) b) ↔
      (TeardownCall.basicCancel consumerTag channel).Done b := by
  induction before generalizing b with
  | nil => rfl
  | cons call before ih =>
    obtain ⟨t, ch, rfl⟩ := cancels call List.mem_cons_self
    rw [List.foldl_cons, ih (fun k hk => cancels k (List.mem_cons_of_mem _ hk))
      fun h => other (List.mem_cons_of_mem _ h)]
    simp only [TeardownCall.Done, TeardownCall.carriedOut, ConsumingBroker.basicCancel,
      ConsumingBroker.consumers_drop, List.mem_filter, and_imp]
    refine forall₂_congr fun k hk => ⟨fun h same => ?_, fun h _ => h⟩
    refine h ?_ same
    obtain ⟨rfl, rfl⟩ := same
    have apart : ¬(k.channel = ch ∧ k.consumerTag = t) := by
      rintro ⟨rfl, rfl⟩
      exact other List.mem_cons_self
    simpa [imp_iff_not_or] using apart

theorem mem_consumers_basicCancel {k : Broker.Consumer ReceiveChannel} {t : String} {ch : ReceiveChannel} :
    k ∈ (b.basicCancel ch t).consumers ↔
      k ∈ b.consumers ∧ TeardownCall.basicCancel k.consumerTag k.channel ≠ .basicCancel t ch := by
  rw [ConsumingBroker.basicCancel, ConsumingBroker.consumers_drop, List.mem_filter]
  refine and_congr_right fun _ => ?_
  simp [imp_iff_not_or, or_comm]

/-- A queue is gone after some consumers were cancelled if it was gone before, or if all it had were. -/
theorem lookup_cancels_none_iff {queue : String} (cancels : ∀ call ∈ before, ∃ t ch, call = .basicCancel t ch) :
    (before.foldl (fun b call => call.carriedOut b) b).broker.queues.lookup queue = none ↔
      b.broker.queues.lookup queue = none ∨ b.autoDeletes queue = true ∧ (∃ k ∈ b.consumers, k.queue = queue) ∧
        ∀ k ∈ b.consumers, k.queue = queue → .basicCancel k.consumerTag k.channel ∈ before := by
  induction before generalizing b with
  | nil =>
    refine ⟨Or.inl, fun h => h.resolve_right ?_⟩
    rintro ⟨_, ⟨k, hk, hq⟩, all⟩
    exact absurd (all k hk hq) List.not_mem_nil
  | cons call before ih =>
    obtain ⟨t, ch, rfl⟩ := cancels call List.mem_cons_self
    have gone : ∀ k : Broker.Consumer ReceiveChannel, (k.channel = ch && k.consumerTag = t) = true ↔
        TeardownCall.basicCancel k.consumerTag k.channel = .basicCancel t ch := fun k => by simp [and_comm]
    rw [List.foldl_cons, ih fun k hk => cancels k (List.mem_cons_of_mem _ hk)]
    change (b.basicCancel ch t).broker.queues.lookup queue = none ∨ (b.basicCancel ch t).autoDeletes queue = true ∧
      (∃ k ∈ (b.basicCancel ch t).consumers, k.queue = queue) ∧
      (∀ k ∈ (b.basicCancel ch t).consumers, k.queue = queue → .basicCancel k.consumerTag k.channel ∈ before) ↔ _
    cases hc : (b.basicCancel ch t).broker.queues.lookup queue with
    | none =>
      refine iff_of_true (Or.inl rfl) ?_
      rcases ConsumingBroker.lookup_drop_none_iff.mp hc with h | ⟨auto, ⟨k, hk, _, hq⟩, all⟩
      · exact Or.inl h
      · refine Or.inr ⟨auto, ⟨k, hk, hq⟩, fun j hj hq => ?_⟩
        rw [(gone j).mp (all j hj hq)]
        exact List.mem_cons_self
    | some q =>
      have kept := (ConsumingBroker.shrinks_drop b _).queues hc
      have auto : (b.basicCancel ch t).autoDeletes queue = b.autoDeletes queue := by
        rw [ConsumingBroker.autoDeletes, ConsumingBroker.autoDeletes, hc, kept]
      rw [auto, kept]
      refine or_congr (by simp) (and_congr_right fun auto => ?_)
      constructor
      · rintro ⟨⟨k, hk, hq⟩, all⟩
        refine ⟨⟨k, (mem_consumers_basicCancel.mp hk).1, hq⟩, fun j hj hq => ?_⟩
        by_cases same : TeardownCall.basicCancel j.consumerTag j.channel = .basicCancel t ch
        · exact same ▸ List.mem_cons_self
        · exact List.mem_cons_of_mem _ (all j (mem_consumers_basicCancel.mpr ⟨hj, same⟩) hq)
      · rintro ⟨⟨k, hk, hq⟩, all⟩
        constructor
        · -- otherwise the queue went with the consumer that was cancelled first
          by_contra last
          have every : ∀ j ∈ b.consumers, j.queue = queue →
              TeardownCall.basicCancel j.consumerTag j.channel = .basicCancel t ch := fun j hj hq => by
            by_contra other
            exact last ⟨j, mem_consumers_basicCancel.mpr ⟨hj, other⟩, hq⟩
          have lost := ConsumingBroker.lookup_drop_none_iff.mpr
            (Or.inr ⟨auto, ⟨k, hk, (gone k).mpr (every k hk hq), hq⟩, fun j hj hq => (gone j).mpr (every j hj hq)⟩)
          cases lost.symm.trans hc
        · intro j hj hq
          obtain ⟨hj, other⟩ := mem_consumers_basicCancel.mp hj
          exact (List.mem_cons.mp (all j hj hq)).resolve_left other

/-- Deleting other queues leaves a queue where it is. -/
theorem lookup_deletes {queue : String} (deletes : ∀ call ∈ before, ∃ n ch, call = .queueDelete n ch ∧ n ≠ queue) :
    (before.foldl (fun b call => call.carriedOut b) b).broker.queues.lookup queue =
      b.broker.queues.lookup queue := by
  induction before generalizing b with
  | nil => rfl
  | cons call before ih =>
    obtain ⟨n, ch, rfl, other⟩ := deletes call List.mem_cons_self
    rw [List.foldl_cons, ih fun k hk => deletes k (List.mem_cons_of_mem _ hk)]
    exact ConsumingBroker.lookup_queueDelete_ne (Ne.symm other)

end Loops

section Calls

variable {l : MediatorLife} {before after : List TeardownCall} {call failing : TeardownCall}

theorem nodup_teardownCalls (l : MediatorLife) : l.teardownCalls.Nodup := by
  have distinct {α : Type} (d : ConcurrentDictionary String α) : d.entries.Nodup := d.nodupKeys.nodup
  refine List.nodup_append'.mpr ⟨(distinct _).map ?_, (distinct _).map ?_, ?_⟩
  · rintro ⟨_, _⟩ ⟨_, _⟩ h
    cases h
    rfl
  · rintro ⟨_, _⟩ ⟨_, _⟩ h
    cases h
    rfl
  · intro k hk hk'
    obtain ⟨_, _, rfl⟩ := List.mem_map.mp hk
    obtain ⟨_, _, he⟩ := List.mem_map.mp hk'
    cases he

/-- All cancels come before the first delete. -/
theorem split_teardownCalls (h : l.teardownCalls = before ++ failing :: after) (later : call ∈ after) :
    ∃ cancels deletes, before = cancels ++ deletes ∧ (∀ call ∈ cancels, ∃ t ch, call = .basicCancel t ch) ∧
      match call with
      | .basicCancel _ _ => deletes = []
      | .queueDelete queue _ => ∀ call ∈ deletes, ∃ n ch, call = .queueDelete n ch ∧ n ≠ queue := by
  rcases List.append_eq_append_iff.mp h with ⟨deletes, rfl, rest⟩ | ⟨cancels, rest, _⟩
  · refine ⟨_, deletes, rfl, fun k hk => ?_, ?_⟩
    · obtain ⟨p, _, rfl⟩ := List.mem_map.mp hk
      exact ⟨p.1, p.2, rfl⟩
    · have mem : call ∈ l.ownedQueues.entries.map fun p => TeardownCall.queueDelete p.1 p.2 := by
        rw [rest]
        simp [later]
      obtain ⟨p, _, rfl⟩ := List.mem_map.mp mem
      intro k hk
      have mem : k ∈ l.ownedQueues.entries.map fun p => TeardownCall.queueDelete p.1 p.2 := by
        rw [rest]
        simp [hk]
      obtain ⟨q, _, rfl⟩ := List.mem_map.mp mem
      refine ⟨q.1, q.2, rfl, fun same => ?_⟩
      have names : (deletes ++ failing :: after).map TeardownCall.name = l.ownedQueues.keys := by
        rw [← rest, List.map_map]
        rfl
      have distinct := l.ownedQueues.keys_nodup
      rw [← names, List.map_append, List.nodup_append'] at distinct
      exact distinct.2.2 (List.mem_map_of_mem hk)
        (List.mem_map.mpr ⟨_, List.mem_cons_of_mem _ later, same.symm⟩)
  · refine ⟨before, [], (List.append_nil _).symm, fun k hk => ?_, ?_⟩
    · have mem : k ∈ l.consumerTags.entries.map fun p => TeardownCall.basicCancel p.1 p.2 := by
        rw [rest]
        simp [hk]
      obtain ⟨p, _, rfl⟩ := List.mem_map.mp mem
      exact ⟨p.1, p.2, rfl⟩
    · cases call with
      | basicCancel => rfl
      | queueDelete => exact fun _ h => absurd h List.not_mem_nil

/-- A command that was not reached has nothing to do just when its object has gone. -/
theorem done_iff_gone (h : l.teardownCalls = before ++ failing :: after) (later : call ∈ after) :
    call.Done (before.foldl (fun b call => call.carriedOut b) l.topology) ↔ call.Gone l.topology before := by
  obtain ⟨cancels, deletes, rfl, cancelled, kind⟩ := split_teardownCalls h later
  cases call with
  | basicCancel consumerTag channel =>
    cases kind
    rw [List.append_nil] at h ⊢
    refine done_cancel_iff cancelled fun again => ?_
    have distinct := nodup_teardownCalls l
    rw [h, List.nodup_append'] at distinct
    exact distinct.2.2 again (List.mem_cons_of_mem _ later)
  | queueDelete queue channel =>
    have deleted (c : String × ReceiveChannel) : .basicCancel c.1 c.2 ∉ deletes := fun hk => by
      obtain ⟨_, _, he, _⟩ := kind _ hk
      cases he
    rw [List.foldl_append]
    refine (Eq.congr_left (lookup_deletes kind)).trans ((lookup_cancels_none_iff cancelled).trans ?_)
    simp only [TeardownCall.Gone, List.mem_append, fun k : Broker.Consumer ReceiveChannel =>
      iff_of_eq (eq_false (deleted (k.consumerTag, k.channel))), or_false]

end Calls

/-- The step is that of a teardown whose commands get these answers. -/
def Teardown.Answered (answers : TeardownCall → Except Exception Unit) (l : MediatorLife) (e : Event) :
    Teardown → Prop
  | .basicCancel consumerTag channel _ _ => e = .ended (answers (.basicCancel consumerTag channel))
  | .queueDelete queue _ _ => ∃ channel, l.ownedQueues.lookup queue = some channel ∧
      e = .ended (answers (.queueDelete queue channel))
  | _ => True

/-- Steps of one teardown, with nothing else in between. -/
inductive Teardown.Runs (hosts : Hosts) (m : MediatorRef) (answers : TeardownCall → Except Exception Unit) :
    MultiplexerLife → MediatorLife → Teardown → MediatorLife → Teardown → Prop
  | done {x l t} : Runs hosts m answers x l t l t
  | step {x l t e x' l' t' l'' t''} (h : Teardown.next hosts m x l t e = some (x', l', t'))
      (answered : t.Answered answers l e) (rest : Runs hosts m answers x' l' t' l'' t'') :
      Runs hosts m answers x l t l'' t''

/-- What a loop that started with some names and has met others has still to visit. -/
structure Ahead (started met : List String) (es : List (Sigma fun _ : String => ReceiveChannel)) : Prop where
  distinct : (es.map Sigma.fst).Nodup
  new : ∀ p ∈ es, p.1 ∉ met
  rest : ∀ name ∈ started, name ∈ met ∨ name ∈ es.map Sigma.fst

theorem Ahead.next {started met : List String} {p : Sigma fun _ : String => ReceiveChannel}
    {es : List (Sigma fun _ : String => ReceiveChannel)} (h : Ahead started met (p :: es)) :
    p.1 ∉ met ∧ Ahead started (p.1 :: met) es := by
  obtain ⟨first, distinct⟩ := List.nodup_cons.mp h.distinct
  refine ⟨h.new p List.mem_cons_self, distinct, fun q hq again => ?_, fun name hn => ?_⟩
  · rcases List.mem_cons.mp again with same | old
    · exact first (same ▸ List.mem_map_of_mem hq)
    · exact h.new q (List.mem_cons_of_mem _ hq) old
  · rcases h.rest name hn with old | ahead
    · exact Or.inl (List.mem_cons_of_mem _ old)
    · rcases List.mem_cons.mp ahead with rfl | ahead
      · exact Or.inl List.mem_cons_self
      · exact Or.inr ahead

theorem Ahead.all {started met : List String} (h : Ahead started met []) : started.all (· ∈ met) = true :=
  List.all_eq_true.mpr fun name hn => by simpa using h.rest name hn

theorem ahead_entries (d : ConcurrentDictionary String ReceiveChannel) : Ahead d.keys [] d.entries :=
  ⟨d.nodupKeys, by simp, fun _ h => Or.inr h⟩

section Runs

variable {hosts : Hosts} {m : MediatorRef} {answers : TeardownCall → Except Exception Unit}
  {x : MultiplexerLife} {l : MediatorLife} {started met : List String}
  {es : List (Sigma fun _ : String => ReceiveChannel)}

theorem runs_deleting (listed : ∀ p ∈ es, l.ownedQueues.lookup p.1 = some p.2) (ahead : Ahead started met es) :
    Teardown.Runs hosts m answers x l (.deleting started met)
      { l with topology := (TeardownCall.goThrough answers (es.map fun p => .queueDelete p.1 p.2) l.topology).1 }
      .ended := by
  induction es generalizing l met with
  | nil =>
    have ends : Teardown.next hosts m x l (.deleting started met) (.visited none) = some (x, l, .ended) :=
      if_pos ahead.all
    exact .step ends trivial .done
  | cons p es ih =>
    obtain ⟨new, later⟩ := ahead.next
    have here := listed p List.mem_cons_self
    have visits : Teardown.next hosts m x l (.deleting started met) (.visited (some p.1)) =
        some (x, l, .queueDelete p.1 started (p.1 :: met)) := if_neg (by simp [here, new])
    rw [List.map_cons, TeardownCall.goThrough]
    cases ha : answers (.queueDelete p.1 p.2) with
    | error e =>
      have fails : Teardown.next hosts m x l (.queueDelete p.1 started (p.1 :: met)) (.ended (.error e)) =
          some (x, l, .ended) := rfl
      exact .step visits trivial (.step fails ⟨p.2, here, congrArg Event.ended ha.symm⟩ .done)
    | ok =>
      have deletes : Teardown.next hosts m x l (.queueDelete p.1 started (p.1 :: met)) (.ended (.ok ())) =
          some (x, { l with topology := l.topology.queueDelete p.1 }, .deleting started (p.1 :: met)) := rfl
      refine .step visits trivial (.step deletes ⟨p.2, here, congrArg Event.ended ha.symm⟩ (ih ?_ later))
      exact fun q hq => listed q (List.mem_cons_of_mem _ hq)

theorem runs_cancelling (listed : ∀ p ∈ es, l.consumerTags.lookup p.1 = some p.2)
    (ahead : Ahead started met es) :
    Teardown.Runs hosts m answers x l (.cancelling started met)
      { l with topology := (TeardownCall.goThrough answers (es.map (fun p => .basicCancel p.1 p.2) ++
          l.ownedQueues.entries.map fun p => .queueDelete p.1 p.2) l.topology).1 } .ended := by
  induction es generalizing l met with
  | nil =>
    have ends : Teardown.next hosts m x l (.cancelling started met) (.visited none) =
        some (x, l, .deleting l.ownedQueues.keys []) := if_pos ahead.all
    refine .step ends trivial (runs_deleting (fun p hp => ?_) (ahead_entries l.ownedQueues))
    exact AList.mem_lookup_iff.mpr hp
  | cons p es ih =>
    obtain ⟨new, later⟩ := ahead.next
    have here := listed p List.mem_cons_self
    have visits : Teardown.next hosts m x l (.cancelling started met) (.visited (some p.1)) =
        some (x, l, .basicCancel p.1 p.2 started (p.1 :: met)) := by
      simp [Teardown.next, here, new]
    rw [List.map_cons, List.cons_append, TeardownCall.goThrough]
    cases ha : answers (.basicCancel p.1 p.2) with
    | error e =>
      have fails : Teardown.next hosts m x l (.basicCancel p.1 p.2 started (p.1 :: met)) (.ended (.error e)) =
          some (x, l, .ended) := rfl
      exact .step visits trivial (.step fails (congrArg Event.ended ha.symm) .done)
    | ok =>
      have cancels : Teardown.next hosts m x l (.basicCancel p.1 p.2 started (p.1 :: met)) (.ended (.ok ())) =
          some (x, { l with topology := l.topology.basicCancel p.2 p.1 }, .cancelling started (p.1 :: met)) := rfl
      refine .step visits trivial (.step cancels (congrArg Event.ended ha.symm) (ih ?_ later))
      exact fun q hq => listed q (List.mem_cons_of_mem _ hq)

/-- A teardown that nothing interferes with takes step after step to the same result. -/
theorem runs_disposeRabbitMediatorConnection (registered : l.registered = true) :
    Teardown.Runs hosts m answers x l .forgetting (l.disposeRabbitMediatorConnection answers).1 .ended := by
  have forgets : Teardown.next hosts m x l .forgetting .go =
      some ({ x with rabbitMediatorInstances := x.rabbitMediatorInstances.erase (hosts.scopeId m).value },
        { l with registered := false }, .cancelling l.consumerTags.keys []) := if_pos registered
  rw [MediatorLife.disposeRabbitMediatorConnection, if_pos registered]
  refine .step forgets trivial (runs_cancelling (fun p hp => ?_) (ahead_entries l.consumerTags))
  exact AList.mem_lookup_iff.mpr hp

end Runs

/-- The teardown throws nothing, and what its commands would have removed is gone. -/
structure GoesOn (answers : TeardownCall → Except Exception Unit) (l : MediatorLife) : Prop where
  quiet : (l.disposeRabbitMediatorConnection answers).2 = .ok ()
  done : ∀ call ∈ l.teardownCalls, answers call = .ok () →
    call.Done (l.disposeRabbitMediatorConnection answers).1.topology

/-- The teardown of a registered mediator goes on past its failures just when no command behind the first
failing one would succeed and still has something to remove. -/
theorem goesOn_iff {answers : TeardownCall → Except Exception Unit} {l : MediatorLife}
    (registered : l.registered = true) :
    GoesOn answers l ↔ ∀ before failing after, l.teardownCalls = before ++ failing :: after →
      (∀ call ∈ before, answers call = .ok ()) → answers failing ≠ .ok () →
      ∀ call ∈ after, answers call = .ok () → call.Gone l.topology before := by
  have topology : (l.disposeRabbitMediatorConnection answers).1.topology =
      (TeardownCall.goThrough answers l.teardownCalls l.topology).1 := by
    rw [MediatorLife.disposeRabbitMediatorConnection, if_pos registered]
  have quiet : (l.disposeRabbitMediatorConnection answers).2 = .ok () := by
    rw [MediatorLife.disposeRabbitMediatorConnection, if_pos registered]
    simp only
    split <;> rfl
  constructor
  · intro goes before failing after h all fails call later accepted
    refine (done_iff_gone h later).mp ?_
    have done := goes.done call (by rw [h]; simp [later]) accepted
    rwa [topology, h, goThrough_failing l.topology all fails] at done
  · intro spared
    refine ⟨quiet, fun call hc accepted => ?_⟩
    rw [topology]
    rcases first_failing answers l.teardownCalls with all | ⟨before, failing, after, h, all, fails⟩
    · rw [goThrough_all l.topology all]
      exact done_foldl_carriedOut hc l.topology
    · rw [h, goThrough_failing l.topology all fails]
      rcases List.mem_append.mp (h ▸ hc) with hb | hc
      · exact done_foldl_carriedOut hb l.topology
      · rcases List.mem_cons.mp hc with rfl | later
        · exact absurd accepted fails
        · exact (done_iff_gone h later).mpr (spared before failing after h all fails call later accepted)

/-- The consumer of a test class on its shared queue. -/
def testConsumer (channel : ReceiveChannel) (typeName : String) : Broker.Consumer ReceiveChannel where
  channel := channel
  consumerTag := RabbitNaming.consumerTag (RabbitNaming.anyTargetedExchange typeName) "Multiplex1" "Mediator01"
  queue := RabbitNaming.sharedQueue typeName

/-- A mediator that consumes a request and a message, each on its own channel. -/
def testConsuming : MediatorLife :=
  let request := testConsumer .request "TestAnyTargetedRequest"
  let message := testConsumer .message "TestAnyTargetedMessage"
  let queue : Broker.Queue := ⟨⟨true, false, false⟩, "Multiplex1"⟩
  { MediatorLife.created testMediatorConfiguration with
    disposed := true
    consumerTags := (AList.singleton request.consumerTag .request).insert message.consumerTag .message
    topology := ⟨⟨∅, (AList.singleton request.queue queue).insert message.queue queue, []⟩, [message, request]⟩ }

/-- The broker has closed the channel of the requests. -/
def testRequestChannelClosed : TeardownCall → Except Exception Unit
  | .basicCancel _ .request => .error brokerUnreachable
  | _ => .ok ()

theorem testConsuming_goesOn : GoesOn testRequestChannelClosed testConsuming := by
  refine (goesOn_iff rfl).mpr fun before failing after h all fails call later accepted => ?_
  cases before with
  | nil =>
    cases h
    exact absurd rfl fails
  | cons first before =>
    cases before with
    | nil =>
      cases h
      cases later
    | cons =>
      have two : testConsuming.teardownCalls.length = 2 := by decide
      rw [h] at two
      simp at two

/-- The broker has closed the channel of the messages, which is met first. -/
def testMessageChannelClosed : TeardownCall → Except Exception Unit
  | .basicCancel _ .message => .error brokerUnreachable
  | _ => .ok ()

theorem failing_cancel_leaves_consumer :
    ¬∀ (answers : TeardownCall → Except Exception Unit) (l : MediatorLife), l.disposed = true →
      l.registered = true → GoesOn answers l := by
  intro claim
  have goes := claim testMessageChannelClosed testConsuming rfl rfl
  let request := testConsumer .request "TestAnyTargetedRequest"
  refine goes.done (.basicCancel request.consumerTag .request) ?_ rfl request ?_ ⟨rfl, rfl⟩
  · decide
  · decide

end RabbitMediator
