import RabbitMediator.Channel
import RabbitMediator.Exceptions
import RabbitMediator.Progress

namespace RabbitMediator

open Interleaving

/-- The channels of the `RabbitMediatorWorkerConfiguration`, and what the loops of the worker have done: the
multiplexers whose `Configure` and the mediators whose `EnsureConfigured` was started, in this order, and the
multiplexers whose `Configure` was cancelled. -/
structure WorkerState where
  pleaseConfigureMultiplexers : Channel Nat
  pleaseConfigureMediators : Channel Nat
  configures : List Nat
  ensures : List Nat
  cancelled : List Nat

/-- Where `WorkOnMultiplexed` stands: at its `await foreach`, or with a mediator in hand. -/
inductive WorkOnMultiplexed
  | reading
  | starting (client : Nat)
  | ended
deriving DecidableEq

/-- Where `WorkOnMultiplexer` stands. `awaiting` awaits `configTask` or `timeOutTask`, whichever ends first. -/
inductive WorkOnMultiplexer
  | reading
  | starting (mp : Nat)
  | awaiting (mp : Nat)
  | ended
deriving DecidableEq

inductive WorkerStop
  | entered
  | completing
  | ended
  | threw (e : Exception)
deriving DecidableEq

/-- The two loops, calls of `StoppingAsync`, and the factories that hand over what they have made. -/
inductive WorkerThread
  | workOnMultiplexed (phase : WorkOnMultiplexed)
  | workOnMultiplexer (phase : WorkOnMultiplexer)
  | stoppingAsync (phase : WorkerStop)
  | handsMultiplexer (mp : Nat)
  | handsMediator (client : Nat)
  | handed
deriving DecidableEq

/-- `timedOut`: the five seconds for a `Configure` are over before it has ended. -/
inductive WorkerInput
  | go
  | configured
  | timedOut

def channelClosed : Exception := .new .invalidOperation "The channel has been closed."

namespace WorkOnMultiplexed

def next (s : WorkerState) : WorkOnMultiplexed → WorkerInput → Option (WorkerState × WorkOnMultiplexed)
  | .reading, .go =>
    match s.pleaseConfigureMediators.tryRead with
    | some (client, channel) => some ({ s with pleaseConfigureMediators := channel }, .starting client)
    | none => if s.pleaseConfigureMediators.completed then some (s, .ended) else none
  | .starting client, .go => some ({ s with ensures := s.ensures ++ [client] }, .reading)
  | _, _ => none

/-- What the loop has read and not started yet. -/
def inHand : WorkOnMultiplexed → List Nat
  | .starting client => [client]
  | _ => []

end WorkOnMultiplexed

namespace WorkOnMultiplexer

def next (s : WorkerState) : WorkOnMultiplexer → WorkerInput → Option (WorkerState × WorkOnMultiplexer)
  | .reading, .go =>
    match s.pleaseConfigureMultiplexers.tryRead with
    | some (mp, channel) => some ({ s with pleaseConfigureMultiplexers := channel }, .starting mp)
    | none => if s.pleaseConfigureMultiplexers.completed then some (s, .ended) else none
  | .starting mp, .go => some ({ s with configures := s.configures ++ [mp] }, .awaiting mp)
  | .awaiting _, .configured => some (s, .reading)
  | .awaiting mp, .timedOut => some ({ s with cancelled := mp :: s.cancelled }, .reading)
  | _, _ => none

def inHand : WorkOnMultiplexer → List Nat
  | .starting mp => [mp]
  | _ => []

end WorkOnMultiplexer

namespace WorkerStop

def next (s : WorkerState) : WorkerStop → WorkerInput → Option (WorkerState × WorkerStop)
  | .entered, .go =>
    match s.pleaseConfigureMultiplexers.complete with
    | some channel => some ({ s with pleaseConfigureMultiplexers := channel }, .completing)
    | none => some (s, .threw channelClosed)
  | .completing, .go =>
    match s.pleaseConfigureMediators.complete with
    | some channel => some ({ s with pleaseConfigureMediators := channel }, .ended)
    | none => some (s, .threw channelClosed)
  | _, _ => none

end WorkerStop

namespace WorkerThread

def next (s : WorkerState) : WorkerThread → WorkerInput → Option (WorkerState × WorkerThread)
  | .workOnMultiplexed phase, x => (phase.next s x).map fun p => (p.1, .workOnMultiplexed p.2)
  | .workOnMultiplexer phase, x => (phase.next s x).map fun p => (p.1, .workOnMultiplexer p.2)
  | .stoppingAsync phase, x => (phase.next s x).map fun p => (p.1, .stoppingAsync p.2)
  | .handsMultiplexer mp, .go =>
    some ({ s with pleaseConfigureMultiplexers := s.pleaseConfigureMultiplexers.tryWrite mp }, .handed)
  | .handsMediator client, .go =>
    some ({ s with pleaseConfigureMediators := s.pleaseConfigureMediators.tryWrite client }, .handed)
  | _, _ => none

def isLoop : WorkerThread → Bool
  | .workOnMultiplexed _ | .workOnMultiplexer _ => true
  | _ => false

/-- What may begin while the host runs: all but the loops, which `StartingAsync` has started. -/
def start : WorkerThread → Bool
  | .stoppingAsync .entered | .handsMultiplexer _ | .handsMediator _ => true
  | _ => false

end WorkerThread

/-- The worker of a host beside everything that hands over to it or stops it. -/
def worker : Threads WorkerState WorkerThread WorkerInput where
  start _ t := t.start
  next s _ t x := t.next s x

/-- Right after `StartingAsync` has started the two loops. -/
def worker.init : Config WorkerState WorkerThread :=
  ⟨⟨.createUnbounded, .createUnbounded, [], [], []⟩, [.workOnMultiplexed .reading, .workOnMultiplexer .reading]⟩

section Steps

variable {s s' : WorkerState} {x : WorkerInput}

def WorkerState.mediators (s : WorkerState) (p : WorkOnMultiplexed) : Reader Nat :=
  ⟨s.pleaseConfigureMediators, s.ensures, p.inHand⟩

def WorkerState.multiplexers (s : WorkerState) (q : WorkOnMultiplexer) : Reader Nat :=
  ⟨s.pleaseConfigureMultiplexers, s.configures, q.inHand⟩

theorem WorkOnMultiplexed.step_of_next {p p' : WorkOnMultiplexed} (h : p.next s x = some (s', p')) :
    (s.mediators p).Step (s'.mediators p') ∧ (∀ q, s'.multiplexers q = s.multiplexers q) ∧
      (p' = .ended → (s'.mediators p').Drained) := by
  unfold next at h
  split at h
  next =>
    split at h
    next client channel found =>
      cases h
      exact ⟨.read rfl found, fun _ => rfl, by simp⟩
    next none_ =>
      split at h
      next closed =>
        cases h
        exact ⟨.idle, fun _ => rfl, fun _ => ⟨closed, Channel.tryRead_eq_none.mp none_⟩⟩
      next => cases h
  next client =>
    cases h
    exact ⟨.handle, fun _ => rfl, by simp⟩
  next => cases h

theorem WorkOnMultiplexer.step_of_next {q q' : WorkOnMultiplexer} (h : q.next s x = some (s', q')) :
    (s.multiplexers q).Step (s'.multiplexers q') ∧ (∀ p, s'.mediators p = s.mediators p) ∧
      (q' = .ended → (s'.multiplexers q').Drained) := by
  unfold next at h
  split at h
  next =>
    split at h
    next mp channel found =>
      cases h
      exact ⟨.read rfl found, fun _ => rfl, by simp⟩
    next none_ =>
      split at h
      next closed =>
        cases h
        exact ⟨.idle, fun _ => rfl, fun _ => ⟨closed, Channel.tryRead_eq_none.mp none_⟩⟩
      next => cases h
  next mp =>
    cases h
    exact ⟨.handle, fun _ => rfl, by simp⟩
  next =>
    cases h
    exact ⟨.idle, fun _ => rfl, by simp⟩
  next =>
    cases h
    exact ⟨.idle, fun _ => rfl, by simp⟩
  next => cases h

/-- Everything but the loops only writes to the channels or completes them. -/
theorem WorkerThread.step_of_next {t t' : WorkerThread} (other : t.isLoop = false)
    (h : t.next s x = some (s', t')) : t'.isLoop = false ∧
      (∀ p, (s.mediators p).Step (s'.mediators p)) ∧ ∀ q, (s.multiplexers q).Step (s'.multiplexers q) := by
  cases t with
  | workOnMultiplexed | workOnMultiplexer => cases other
  | stoppingAsync phase =>
    obtain ⟨⟨s₁, phase'⟩, hn, he⟩ := Option.map_eq_some_iff.mp h
    cases he
    refine ⟨rfl, ?_⟩
    unfold WorkerStop.next at hn
    split at hn
    next =>
      split at hn
      next channel completed =>
        cases hn
        exact ⟨fun _ => .idle, fun _ => .complete completed⟩
      next =>
        cases hn
        exact ⟨fun _ => .idle, fun _ => .idle⟩
    next =>
      split at hn
      next channel completed =>
        cases hn
        exact ⟨fun _ => .complete completed, fun _ => .idle⟩
      next =>
        cases hn
        exact ⟨fun _ => .idle, fun _ => .idle⟩
    next => cases hn
  | handsMultiplexer mp =>
    cases x <;> cases h
    exact ⟨rfl, fun _ => .idle, fun _ => .write mp⟩
  | handsMediator client =>
    cases x <;> cases h
    exact ⟨rfl, fun _ => .write client, fun _ => .idle⟩
  | handed => cases x <;> cases h

end Steps

section Runs

variable {c d : Config WorkerState WorkerThread}

/-- The loops stand at `p` and `q`, nothing else is a loop, and both have taken in order what they have taken. -/
structure Orderly (c : Config WorkerState WorkerThread) (p : WorkOnMultiplexed) (q : WorkOnMultiplexer) : Prop where
  multiplexed : c.pool[0]? = some (.workOnMultiplexed p)
  multiplexer : c.pool[1]? = some (.workOnMultiplexer q)
  others : ∀ (i : Nat) (t : WorkerThread), c.pool[i + 2]? = some t → t.isLoop = false
  mediators : (c.shared.mediators p).Within ∧ (c.shared.mediators p).InOrder
  multiplexers : (c.shared.multiplexers q).Within ∧ (c.shared.multiplexers q).InOrder
  mediatorsEnd : p = .ended → (c.shared.mediators p).Drained
  multiplexersEnd : q = .ended → (c.shared.multiplexers q).Drained

/-- From one configuration of the worker to the next. -/
structure Onward (s s' : WorkerState) (p p' : WorkOnMultiplexed) (q q' : WorkOnMultiplexer) : Prop where
  mediators : (s.mediators p).Step (s'.mediators p')
  multiplexers : (s.multiplexers q).Step (s'.multiplexers q')
  mediatorsEnd : p' = .ended → p = .ended ∨ (s'.mediators p').Drained
  multiplexersEnd : q' = .ended → q = .ended ∨ (s'.multiplexers q').Drained

theorem Orderly.onward {p p' : WorkOnMultiplexed} {q q' : WorkOnMultiplexer} (h : Orderly c p q)
    (on : Onward c.shared d.shared p p' q q') (multiplexed : d.pool[0]? = some (.workOnMultiplexed p'))
    (multiplexer : d.pool[1]? = some (.workOnMultiplexer q'))
    (others : ∀ (i : Nat) (t : WorkerThread), d.pool[i + 2]? = some t → t.isLoop = false) : Orderly d p' q' where
  multiplexed := multiplexed
  multiplexer := multiplexer
  others := others
  mediators := ⟨on.mediators.within h.mediators.1, on.mediators.inOrder h.mediators.1 h.mediators.2⟩
  multiplexers :=
    ⟨on.multiplexers.within h.multiplexers.1, on.multiplexers.inOrder h.multiplexers.1 h.multiplexers.2⟩
  mediatorsEnd e := (on.mediatorsEnd e).elim (fun before => on.mediators.drained (h.mediatorsEnd before)) id
  multiplexersEnd e :=
    (on.multiplexersEnd e).elim (fun before => on.multiplexers.drained (h.multiplexersEnd before)) id

theorem orderly_step {p : WorkOnMultiplexed} {q : WorkOnMultiplexer} (h : Orderly c p q) {i : Nat}
    {x : WorkerInput} (hd : worker.act c (.step i x) = some d) :
    ∃ p' q', Orderly d p' q' ∧ Onward c.shared d.shared p p' q q' := by
  obtain ⟨t, s', t', ht, hn, rfl⟩ := act_step hd
  match i, ht with
  | 0, ht =>
    cases h.multiplexed.symm.trans ht
    obtain ⟨⟨s₁, p'⟩, hp, he⟩ := Option.map_eq_some_iff.mp hn
    cases he
    obtain ⟨moves, same, ends⟩ := WorkOnMultiplexed.step_of_next hp
    have on : Onward c.shared s₁ p p' q q := ⟨moves, same q ▸ .idle, fun e => Or.inr (ends e), Or.inl⟩
    refine ⟨p', q, h.onward on (pool_set_self ht) ?_ fun j u hu => ?_, on⟩
    · exact (pool_set_other (by decide)).trans h.multiplexer
    · exact h.others j u ((pool_set_other (by simp)).symm.trans hu)
  | 1, ht =>
    cases h.multiplexer.symm.trans ht
    obtain ⟨⟨s₁, q'⟩, hq, he⟩ := Option.map_eq_some_iff.mp hn
    cases he
    obtain ⟨moves, same, ends⟩ := WorkOnMultiplexer.step_of_next hq
    have on : Onward c.shared s₁ p p q q' := ⟨same p ▸ .idle, moves, Or.inl, fun e => Or.inr (ends e)⟩
    refine ⟨p, q', h.onward on ?_ (pool_set_self ht) fun j u hu => ?_, on⟩
    · exact (pool_set_other (by decide)).trans h.multiplexed
    · exact h.others j u ((pool_set_other (by simp)).symm.trans hu)
  | i + 2, ht =>
    obtain ⟨other, mediators, multiplexers⟩ := WorkerThread.step_of_next (h.others i t ht) hn
    have on : Onward c.shared s' p p q q := ⟨mediators p, multiplexers q, Or.inl, Or.inl⟩
    refine ⟨p, q, h.onward on ?_ ?_ fun j u hu => ?_, on⟩
    · exact (pool_set_other (by simp)).trans h.multiplexed
    · exact (pool_set_other (by simp)).trans h.multiplexer
    · rcases pool_set_cases ht hu with ⟨_, rfl⟩ | ⟨_, hu⟩
      · exact other
      · exact h.others j u hu

theorem orderly_start {p : WorkOnMultiplexed} {q : WorkOnMultiplexer} (h : Orderly c p q) {t : WorkerThread}
    (hd : worker.act c (.start t) = some d) : Orderly d p q := by
  obtain ⟨starts, rfl⟩ := act_start hd
  have on : Onward c.shared c.shared p p q q := ⟨.idle, .idle, Or.inl, Or.inl⟩
  refine h.onward on (pool_append_of_old h.multiplexed) (pool_append_of_old h.multiplexer) fun i u hu => ?_
  rcases pool_append_cases hu with hu | ⟨_, rfl⟩
  · exact h.others i u hu
  · cases u <;> first | rfl | cases starts

theorem orderly_of_reachable (h : Reachable worker worker.init c) : ∃ p q, Orderly c p q := by
  induction h with
  | start =>
    refine ⟨.reading, .reading, rfl, rfl, fun i t ht => ?_, ⟨Nat.le_refl 0, rfl⟩, ⟨Nat.le_refl 0, rfl⟩, ?_, ?_⟩
    · cases ht
    · intro e
      cases e
    · intro e
      cases e
  | @next c d a _ _ hd ih =>
    obtain ⟨p, q, orderly⟩ := ih
    cases a with
    | start t => exact ⟨p, q, orderly_start orderly hd⟩
    | step i x =>
      obtain ⟨p', q', orderly', _⟩ := orderly_step orderly hd
      exact ⟨p', q', orderly'⟩

end Runs

section Drains

variable {s s' : WorkerState} {x : WorkerInput}

def WorkOnMultiplexed.left (s : WorkerState) : WorkOnMultiplexed → Nat
  | .reading => 2 * s.pleaseConfigureMediators.queued.length + 1
  | .starting _ => 2 * s.pleaseConfigureMediators.queued.length + 2
  | .ended => 2 * s.pleaseConfigureMediators.queued.length

def WorkOnMultiplexer.left (s : WorkerState) : WorkOnMultiplexer → Nat
  | .reading => 3 * s.pleaseConfigureMultiplexers.queued.length + 1
  | .starting _ => 3 * s.pleaseConfigureMultiplexers.queued.length + 3
  | .awaiting _ => 3 * s.pleaseConfigureMultiplexers.queued.length + 2
  | .ended => 3 * s.pleaseConfigureMultiplexers.queued.length

/-- The steps a thread has left while nothing more is written. -/
def WorkerThread.left (s : WorkerState) : WorkerThread → Nat
  | .workOnMultiplexed phase => phase.left s
  | .workOnMultiplexer phase => phase.left s
  | .stoppingAsync .entered => 2
  | .stoppingAsync .completing | .handsMultiplexer _ | .handsMediator _ => 1
  | .stoppingAsync .ended | .stoppingAsync (.threw _) | .handed => 0

theorem WorkOnMultiplexed.left_of_next {p p' : WorkOnMultiplexed} (h : p.next s x = some (s', p')) :
    p'.left s' < p.left s := by
  unfold next at h
  split at h
  next =>
    split at h
    next client channel found =>
      cases h
      have fewer := Channel.queued_of_tryRead found
      simp only [left]
      omega
    next =>
      split at h <;> cases h
      exact Nat.lt_succ_self _
  next =>
    cases h
    simp [left]
  next => cases h

theorem WorkOnMultiplexer.left_of_next {q q' : WorkOnMultiplexer} (h : q.next s x = some (s', q')) :
    q'.left s' < q.left s := by
  unfold next at h
  split at h
  next =>
    split at h
    next mp channel found =>
      cases h
      have fewer := Channel.queued_of_tryRead found
      simp only [left]
      omega
    next =>
      split at h <;> cases h
      exact Nat.lt_succ_self _
  next =>
    cases h
    simp [left]
  next =>
    cases h
    simp [left]
  next =>
    cases h
    simp [left]
  next => cases h

theorem WorkerThread.left_of_next {t t' : WorkerThread} (h : t.next s x = some (s', t')) :
    t'.left s' < t.left s := by
  cases t with
  | workOnMultiplexed phase =>
    obtain ⟨⟨s₁, phase'⟩, hn, he⟩ := Option.map_eq_some_iff.mp h
    cases he
    exact WorkOnMultiplexed.left_of_next hn
  | workOnMultiplexer phase =>
    obtain ⟨⟨s₁, phase'⟩, hn, he⟩ := Option.map_eq_some_iff.mp h
    cases he
    exact WorkOnMultiplexer.left_of_next hn
  | stoppingAsync phase =>
    obtain ⟨⟨s₁, phase'⟩, hn, he⟩ := Option.map_eq_some_iff.mp h
    cases he
    unfold WorkerStop.next at hn
    split at hn
    next => split at hn <;> cases hn <;> simp [left]
    next => split at hn <;> cases hn <;> simp [left]
    next => cases hn
  | handsMultiplexer mp =>
    cases x <;> cases h
    exact Nat.zero_lt_one
  | handsMediator client =>
    cases x <;> cases h
    exact Nat.zero_lt_one
  | handed => cases x <;> cases h

/-- Both channels are complete. -/
def WorkerState.Stopped (s : WorkerState) : Prop :=
  s.pleaseConfigureMediators.completed = true ∧ s.pleaseConfigureMultiplexers.completed = true

theorem Onward.stopped {p p' : WorkOnMultiplexed} {q q' : WorkOnMultiplexer} (on : Onward s s' p p' q q')
    (stopped : s.Stopped) : s'.Stopped ∧
      s'.pleaseConfigureMediators.written = s.pleaseConfigureMediators.written ∧
      s'.pleaseConfigureMultiplexers.written = s.pleaseConfigureMultiplexers.written := by
  obtain ⟨same, closed⟩ := on.mediators.closed stopped.1
  obtain ⟨same', closed'⟩ := on.multiplexers.closed stopped.2
  exact ⟨⟨closed, closed'⟩, same, same'⟩

/-- Once both channels are complete, nobody makes work for another. -/
theorem Onward.left_le {p p' : WorkOnMultiplexed} {q q' : WorkOnMultiplexer} (on : Onward s s' p p' q q')
    (stopped : s.Stopped) (u : WorkerThread) : u.left s' ≤ u.left s := by
  have mediators : s'.pleaseConfigureMediators.queued.length ≤ s.pleaseConfigureMediators.queued.length :=
    on.mediators.queued_le stopped.1
  have multiplexers : s'.pleaseConfigureMultiplexers.queued.length ≤ s.pleaseConfigureMultiplexers.queued.length :=
    on.multiplexers.queued_le stopped.2
  cases u with
  | workOnMultiplexed phase =>
    cases phase <;> simp only [WorkerThread.left, WorkOnMultiplexed.left] <;> omega
  | workOnMultiplexer phase =>
    cases phase <;> simp only [WorkerThread.left, WorkOnMultiplexer.left] <;> omega
  | stoppingAsync phase => cases phase <;> exact Nat.le_refl _
  | _ => exact Nat.le_refl _

/-- A loop that has not ended can go on: what it awaits is there, or over in five seconds. -/
theorem able_of_stopped {c : Config WorkerState WorkerThread} {p : WorkOnMultiplexed} {q : WorkOnMultiplexer}
    (h : Orderly c p q) (stopped : c.shared.Stopped) (running : ¬ (p = .ended ∧ q = .ended)) :
    Able worker (fun _ _ => True) (fun _ _ _ _ => True) c := by
  by_cases hp : p = .ended
  · refine ⟨1, _, h.multiplexer, ?_⟩
    cases q with
    | reading =>
      refine ⟨.go, trivial, trivial, ?_⟩
      cases hr : c.shared.pleaseConfigureMultiplexers.tryRead <;>
        simp [worker, WorkerThread.next, WorkOnMultiplexer.next, hr, stopped.2]
    | starting mp => exact ⟨.go, trivial, trivial, rfl⟩
    | awaiting mp => exact ⟨.timedOut, trivial, trivial, rfl⟩
    | ended => exact absurd ⟨hp, rfl⟩ running
  · refine ⟨0, _, h.multiplexed, ?_⟩
    cases p with
    | reading =>
      refine ⟨.go, trivial, trivial, ?_⟩
      cases hr : c.shared.pleaseConfigureMediators.tryRead <;>
        simp [worker, WorkerThread.next, WorkOnMultiplexed.next, hr, stopped.1]
    | starting client => exact ⟨.go, trivial, trivial, rfl⟩
    | ended => exact absurd rfl hp

/-- Both loops have ended, and have started to configure all that was written. -/
structure Emptied (s : WorkerState) (d : Config WorkerState WorkerThread) : Prop where
  multiplexed : d.pool[0]? = some (.workOnMultiplexed .ended)
  multiplexer : d.pool[1]? = some (.workOnMultiplexer .ended)
  ensures : d.shared.ensures = s.pleaseConfigureMediators.written
  configures : d.shared.configures = s.pleaseConfigureMultiplexers.written

/-- What the worker of a host does with what it is handed. -/
structure Drains (c : Config WorkerState WorkerThread) (p : WorkOnMultiplexed) (q : WorkOnMultiplexer) : Prop where
  multiplexed : c.pool[0]? = some (.workOnMultiplexed p)
  multiplexer : c.pool[1]? = some (.workOnMultiplexer q)
  mediators : c.shared.ensures ++ p.inHand ++ c.shared.pleaseConfigureMediators.queued =
    c.shared.pleaseConfigureMediators.written
  multiplexers : c.shared.configures ++ q.inHand ++ c.shared.pleaseConfigureMultiplexers.queued =
    c.shared.pleaseConfigureMultiplexers.written
  mediatorsEnd : p = .ended → c.shared.pleaseConfigureMediators.completed = true ∧
    c.shared.pleaseConfigureMediators.queued = []
  multiplexersEnd : q = .ended → c.shared.pleaseConfigureMultiplexers.completed = true ∧
    c.shared.pleaseConfigureMultiplexers.queued = []
  stops : c.shared.Stopped → Inevitable worker (fun _ _ => True) (fun _ _ _ _ => True) (Emptied c.shared) c

theorem inevitable_of_stopped {c : Config WorkerState WorkerThread} {p : WorkOnMultiplexed}
    {q : WorkOnMultiplexer} (h : Orderly c p q) (stopped : c.shared.Stopped) :
    Inevitable worker (fun _ _ => True) (fun _ _ _ _ => True) (Emptied c.shared) c := by
  -- in every run from here the channels stay complete, and hold what they hold now
  have runs : ∀ {d}, Reachable worker c d → ∃ p q, Orderly d p q ∧ d.shared.Stopped ∧
      d.shared.pleaseConfigureMediators.written = c.shared.pleaseConfigureMediators.written ∧
      d.shared.pleaseConfigureMultiplexers.written = c.shared.pleaseConfigureMultiplexers.written := by
    intro d hd
    induction hd with
    | start => exact ⟨p, q, h, stopped, rfl, rfl⟩
    | @next d e a _ _ he ih =>
      obtain ⟨p, q, orderly, stopped, mediators, multiplexers⟩ := ih
      cases a with
      | start t =>
        have orderly' := orderly_start orderly he
        obtain ⟨_, rfl⟩ := act_start he
        exact ⟨p, q, orderly', stopped, mediators, multiplexers⟩
      | step i x =>
        obtain ⟨p', q', orderly', on⟩ := orderly_step orderly he
        obtain ⟨stopped', same, same'⟩ := on.stopped stopped
        exact ⟨p', q', orderly', stopped', same.trans mediators, same'.trans multiplexers⟩
  refine inevitable_of_lessens WorkerThread.left (fun _ _ => 0) (fun hd ht hn => ?_) (fun {d} hd unfinished => ?_)
    .start
  · obtain ⟨p, q, orderly, stopped, _⟩ := runs hd
    obtain ⟨_, _, _, on⟩ := orderly_step orderly (act_of_next ht hn)
    exact ⟨on.left_le stopped, Or.inl (WorkerThread.left_of_next hn)⟩
  · obtain ⟨p, q, orderly, stopped, mediators, multiplexers⟩ := runs hd
    apply able_of_stopped orderly stopped
    rintro ⟨rfl, rfl⟩
    have first := orderly.mediators.2.handled_of_drained (orderly.mediatorsEnd rfl)
    have second := orderly.multiplexers.2.handled_of_drained (orderly.multiplexersEnd rfl)
    refine unfinished ⟨orderly.multiplexed, orderly.multiplexer, ?_, ?_⟩
    · rw [← mediators]
      exact (List.append_nil _).symm.trans first
    · rw [← multiplexers]
      exact (List.append_nil _).symm.trans second

/-- At any moment, what the factories have written is what the loops have started to configure, what one of them
has in hand and what is still queued, in this order: nothing is lost and nothing is configured twice. A loop ends
only when its channel is complete and empty. Once `StoppingAsync` has completed both channels, both loops come to
their end, and have started to configure everything, however long a `Configure` takes. -/
theorem worker_drains {c : Config WorkerState WorkerThread} (h : Reachable worker worker.init c) :
    ∃ p q, Drains c p q := by
  obtain ⟨p, q, orderly⟩ := orderly_of_reachable h
  have queue {r : Reader Nat} (inOrder : r.InOrder) : r.handled ++ r.hand ++ r.channel.queued = r.channel.written :=
    (congrArg (· ++ r.channel.queued) inOrder).trans r.channel.read_append_queued
  exact ⟨p, q, orderly.multiplexed, orderly.multiplexer, queue orderly.mediators.2, queue orderly.multiplexers.2,
    fun e => ⟨(orderly.mediatorsEnd e).1, List.drop_eq_nil_of_le (orderly.mediatorsEnd e).2⟩,
    fun e => ⟨(orderly.multiplexersEnd e).1, List.drop_eq_nil_of_le (orderly.multiplexersEnd e).2⟩,
    inevitable_of_stopped orderly⟩

/-- The first of two multiplexers hangs while the host stops; a mediator comes too late. -/
def testStopping : List (Action WorkerThread WorkerInput) :=
  [.start (.handsMultiplexer 7), .step 2 .go, .start (.handsMultiplexer 8), .step 3 .go,
    .start (.handsMediator 3), .step 4 .go, .step 1 .go, .step 1 .go, .step 0 .go,
    .start (.stoppingAsync .entered), .step 5 .go, .step 5 .go, .start (.handsMediator 9), .step 6 .go]

theorem testStopping_drains :
    ∃ c, worker.run (fun _ _ => true) worker.init testStopping = some c ∧
      c.shared.pleaseConfigureMediators.written = [3] ∧ c.shared.pleaseConfigureMultiplexers.written = [7, 8] ∧
      Inevitable worker (fun _ _ => True) (fun _ _ _ _ => True) (Emptied c.shared) c := by
  have h : (worker.run (fun _ _ => true) worker.init testStopping).any (fun c =>
      decide (c.shared.pleaseConfigureMediators = ⟨[3], 1, true⟩) &&
        decide (c.shared.pleaseConfigureMultiplexers = ⟨[7, 8], 1, true⟩)) = true := by decide
  obtain ⟨c, hc, found⟩ := (Option.any_eq_true _ _).mp h
  simp only [Bool.and_eq_true, decide_eq_true_eq] at found
  obtain ⟨mediators, multiplexers⟩ := found
  obtain ⟨p, q, drains⟩ := worker_drains (.of_run .start (fun _ _ _ => trivial) hc)
  refine ⟨c, hc, by rw [mediators], by rw [multiplexers], drains.stops ?_⟩
  rw [WorkerState.Stopped, mediators, multiplexers]
  exact ⟨rfl, rfl⟩

end Drains

end RabbitMediator
