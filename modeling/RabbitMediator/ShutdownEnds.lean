import RabbitMediator.Shutdown

namespace RabbitMediator

open Interleaving

section Left

variable {prefetchCount : Nat} {x : ConfigureInput}

/-- The steps a call of `Configure` has left at most. -/
def Configure.left : Configure → Nat
  | .entered => 17
  | .acquiring => 16
  | .rechecking => 14
  | .connecting => 13
  | .registering => 12
  | .creating .message => 11
  | .limiting .message _ => 10
  | .creating .request => 9
  | .limiting .request _ => 8
  | .creating .response => 7
  | .limiting .response _ => 6
  | .creatingAck => 5
  | .declaring _ => 4
  | .consuming _ => 3
  | .completing => 2
  | .releasing _ => 1
  | .ended _ => 0

def DisposeMultiplexer.left : DisposeMultiplexer → Nat
  | .entered => 17
  | .marking => 16
  | .aborting => 15
  | .publishing left => 9 + left.length
  | .receiving left => 4 + left.length
  | .connection => 3
  | .closing => 2
  | .lock => 1
  | .ended | .alreadyDisposed | .threw _ => 0

def ShutdownThread.left : ShutdownThread → Nat
  | .configure phase => phase.left
  | .waiting => 15
  | .refused => 0
  | .disposeAsync phase => phase.left

theorem Configure.left_of_next {s s' : ConnectionState} {phase phase' : Configure}
    (h : phase.next prefetchCount s x = some (s', phase')) : phase'.left < phase.left := by
  unfold next at h
  split at h
  next => cases h; cases s.configureDone <;> simp [left]
  next => split at h <;> cases h; simp [left]
  next => cases h; cases s.configureDone <;> simp [left]
  next => split at h <;> cases h; simp [left]
  next => split at h <;> cases h; simp [left]
  next => split at h <;> cases h; simp [left]
  next => cases h; simp [left]
  next role => split at h <;> cases h <;> cases role <;> simp [left, after]
  next role _ _ _ => cases h; cases role <;> simp [left]
  next role _ => cases h; cases role <;> simp [left, after]
  next role _ _ _ _ => cases h; cases role <;> simp [left]
  next => cases h; simp [left]
  next => cases h; simp [left]
  next => cases h; simp [left]
  next => cases h; simp [left]
  next => cases h; simp [left]
  next => cases h; simp [left]
  next => cases h; simp [left]
  next => cases h; simp [left]
  next => cases h

theorem length_publishChannels (s : MultiplexerConnection) : s.publishChannels.length ≤ 5 :=
  List.length_filter_le ..

theorem length_receiveChannels (s : MultiplexerConnection) : s.receiveChannels.length ≤ 4 := by
  have roles := List.length_filterMap_le s.receiveChannel [.message, .request, .response]
  have ack : s.receiveAckChannel.toList.length ≤ 1 := by cases s.receiveAckChannel <;> simp
  rw [MultiplexerConnection.receiveChannels, List.length_append]
  exact Nat.add_le_add roles ack

theorem DisposeMultiplexer.left_of_next {s s' : MultiplexerConnection} {phase phase' : DisposeMultiplexer}
    (h : phase.next s x = some (s', phase')) : phase'.left < phase.left := by
  unfold next at h
  split at h
  next => cases h; cases s.disposed <;> simp [left]
  next => cases h; simp [left]
  next =>
    cases h
    have few := length_publishChannels s
    simp only [left]
    omega
  next =>
    cases h
    have few := length_receiveChannels s
    simp only [left, List.length_nil]
    omega
  next => cases h; simp [left]
  next => cases h; simp [left]
  next => cases h; simp [left]
  next => cases h; simp [left]
  next => cases h; simp [left]
  next => cases h; cases s.connected <;> simp [left]
  next => cases h; simp [left]
  next => cases h; simp [left]
  next => cases h; simp [left]
  next => cases h

theorem ShutdownThread.left_of_next {s s' : MultiplexerConnection} {t t' : ShutdownThread}
    (h : t.next prefetchCount s x = some (s', t')) : t'.left < t.left := by
  cases t with
  | configure phase =>
    cases Configure.beside_of_next h with
    | refused at_ | waits at_ | givesUp at_ => simp [at_, left, Configure.left]
    | released at_ => cases s.lockDisposed <;> simp [at_, left, Configure.left]
    | undisturbed set hn => exact Configure.left_of_next hn
  | waiting =>
    cases x with
    | go =>
      simp only [next] at h
      split at h <;> cases h
      simp [left, Configure.left]
    | _ => cases h
  | refused => cases x <;> cases h
  | disposeAsync phase =>
    obtain ⟨⟨s₁, phase'⟩, hn, he⟩ := Option.map_eq_some_iff.mp h
    cases he
    exact DisposeMultiplexer.left_of_next hn

end Left

/-- `_configureLock`. One that is disposed is shown as free after its last `Release`, which throws. -/
def shutdownLock : Lock MultiplexerConnection ShutdownThread where
  taken s := s.configureLocked
  inside
    | .configure phase => phase.inside
    | _ => false

section Lock

variable {prefetchCount : Nat} {x : ConfigureInput} {s s' : MultiplexerConnection} {t t' : ShutdownThread}

/-- How a step moves a call with respect to the lock. -/
theorem ShutdownThread.lock_of_next (h : t.next prefetchCount s x = some (s', t')) :
    (shutdownLock.inside t = false → shutdownLock.inside t' = true →
      s.configureLocked = false ∧ s'.configureLocked = true) ∧
    (shutdownLock.inside t = false → shutdownLock.inside t' = false → s'.configureLocked = s.configureLocked) ∧
    (shutdownLock.inside t = true → s.configureLocked = true → s'.configureLocked = shutdownLock.inside t') := by
  cases t with
  | configure phase =>
    cases Configure.beside_of_next h with
    | refused at_ | waits at_ => simp [shutdownLock, at_, Configure.inside]
    | givesUp at_ => simp [shutdownLock, at_, Configure.inside]
    | released at_ => cases s.lockDisposed <;> simp [shutdownLock, at_, Configure.inside]
    | undisturbed set hn =>
      cases Configure.moves_of_next hn with
      | outside before after same => simp [shutdownLock, before, after, same]
      | entered before free after same => simp [shutdownLock, before, free, after, same, Configure.inside]
      | within before after same => simp [shutdownLock, before, after, same]
      | left before after same => simp [shutdownLock, before, after, same, Configure.inside]
  | waiting =>
    cases x with
    | go =>
      simp only [next] at h
      split at h
      next => cases h
      next free =>
        cases h
        obtain ⟨_, free⟩ := Bool.or_eq_false_iff.mp (Bool.eq_false_iff.mpr free)
        simp [shutdownLock, free, Configure.inside]
    | _ => cases h
  | refused => cases x <;> cases h
  | disposeAsync phase =>
    obtain ⟨⟨s₁, phase'⟩, hn, he⟩ := Option.map_eq_some_iff.mp h
    cases he
    have same : s₁.configureLocked = s.configureLocked := by
      unfold DisposeMultiplexer.next at hn
      split at hn
      next => cases hn; rfl
      next => cases hn; rfl
      next => cases hn; rfl
      next => cases hn; rfl
      next => cases hn; rfl
      next => cases hn; rfl
      next => cases hn; rfl
      next => cases hn; rfl
      next => cases hn; split <;> rfl
      next => cases hn; rfl
      next => cases hn; rfl
      next => cases hn; split <;> rfl
      next => cases hn; rfl
      next => cases hn
    simp [shutdownLock, same]

theorem shutdownLock_guards (prefetchCount : Nat) : shutdownLock.Guards (shutdown prefetchCount) := by
  constructor
  · intro s t starts
    replace starts : t.start = true := starts
    unfold ShutdownThread.start at starts
    split at starts <;> first | rfl | cases starts
  · exact fun hn before after => (ShutdownThread.lock_of_next hn).1 before after
  · exact fun hn before after => (ShutdownThread.lock_of_next hn).2.1 before after
  · exact fun hn before taken => (ShutdownThread.lock_of_next hn).2.2 before taken

end Lock

section Ends

variable {prefetchCount : Nat} {customConnection : Bool} {c d : Config MultiplexerConnection ShutdownThread}
  {i : Nat} {t : ShutdownThread}

def ShutdownThread.isOver : ShutdownThread → Bool
  | .configure (.ended _) | .refused => true
  | .disposeAsync .ended | .disposeAsync .alreadyDisposed | .disposeAsync (.threw _) => true
  | _ => false

def ShutdownThread.isWaiting : ShutdownThread → Bool
  | .waiting => true
  | _ => false

def ShutdownThread.waits : ShutdownThread → Option Unit
  | .waiting => some ()
  | _ => none

theorem ShutdownThread.running_of_inside (h : shutdownLock.inside t = true) :
    t.isOver = false ∧ t.isWaiting = false := by
  cases t with
  | configure phase => cases phase <;> first | exact ⟨rfl, rfl⟩ | cases h
  | _ => cases h

/-- Nothing fails, but what needs a connection that is closed. -/
def Healthy (s : MultiplexerConnection) (_ : Nat) (_ : ShutdownThread) (x : ConfigureInput) : Prop :=
  ∀ e taken closes, x = .failed e taken closes → s.connectionClosed = true

theorem shutdownLock_order : LockOrder (fun _ => shutdownLock) (fun _ _ : Unit => False) ShutdownThread.waits := by
  refine ⟨⟨fun _ => ⟨_, fun _ h => h.elim⟩⟩, fun {t k j} inside hw => ?_⟩
  unfold ShutdownThread.waits at hw
  split at hw
  next => cases inside
  next => cases hw

/-- A call of `Configure` that has not ended can go on. On a closed connection it fails. -/
theorem Configure.canMove {phase : Configure} (unended : (ShutdownThread.configure phase).isOver = false) :
    CanMove (shutdown prefetchCount) (fun _ _ => True) Healthy c i (.configure phase) := by
  have moves (x : ConfigureInput) (healthy : Healthy c.shared i (.configure phase) x)
      (h : (phase.nextBeside prefetchCount c.shared x).isSome = true) :
      CanMove (shutdown prefetchCount) (fun _ _ => True) Healthy c i (.configure phase) :=
    ⟨x, trivial, healthy, h⟩
  have works : Healthy c.shared i (.configure phase) .ended := by simp [Healthy]
  have goes : Healthy c.shared i (.configure phase) .go := by simp [Healthy]
  cases phase with
  | entered | rechecking | registering | completing | releasing =>
    exact moves .go goes (by simp [nextBeside, needsConnection, undisturbed, next])
  | acquiring =>
    apply moves .go goes
    cases hl : c.shared.lockDisposed <;> cases hc : c.shared.configureLocked <;>
      simp [nextBeside, needsConnection, undisturbed, next, hl, hc]
  | connecting =>
    cases hc : c.shared.connected with
    | true => exact moves .go goes (by simp [nextBeside, needsConnection, undisturbed, next, hc])
    | false => exact moves .ended works (by simp [nextBeside, needsConnection, undisturbed, next, hc])
  | creating | limiting | creatingAck | declaring | consuming =>
    cases hc : c.shared.connectionClosed with
    | true =>
      exact moves (.failed semaphoreDisposed false false) (by simp [Healthy, hc])
        (by simp [nextBeside, needsConnection, undisturbed, next])
    | false =>
      apply moves .ended works
      by_cases limited : 0 < prefetchCount <;> simp [nextBeside, needsConnection, undisturbed, next, hc, limited]
  | ended => cases unended

theorem DisposeMultiplexer.canMove {phase : DisposeMultiplexer}
    (unended : (ShutdownThread.disposeAsync phase).isOver = false) :
    CanMove (shutdown prefetchCount) (fun _ _ => True) Healthy c i (.disposeAsync phase) := by
  have moves (x : ConfigureInput) (healthy : Healthy c.shared i (.disposeAsync phase) x)
      (h : (phase.next c.shared x).isSome = true) :
      CanMove (shutdown prefetchCount) (fun _ _ => True) Healthy c i (.disposeAsync phase) := by
    refine ⟨x, trivial, healthy, ?_⟩
    show ((phase.next c.shared x).map _).isSome = true
    rw [Option.isSome_map]
    exact h
  cases phase with
  | entered | marking | aborting | connection | lock => exact moves .go (by simp [Healthy]) rfl
  | publishing left =>
    cases left with
    | nil => exact moves .go (by simp [Healthy]) rfl
    | cons role left => exact moves .ended (by simp [Healthy]) rfl
  | receiving left =>
    cases left with
    | nil => exact moves .go (by simp [Healthy]) rfl
    | cons channel left => exact moves .ended (by simp [Healthy]) rfl
  | closing => exact moves .ended (by simp [Healthy]) rfl
  | ended | alreadyDisposed | threw => cases unended

/-- Whoever does not wait for the lock can go on, and who waits can once it is free. -/
theorem ShutdownThread.canMove (unended : t.isOver = false)
    (free : t.isWaiting = true → c.shared.configureLocked = false ∧ c.shared.lockDisposed = false) :
    CanMove (shutdown prefetchCount) (fun _ _ => True) Healthy c i t := by
  cases t with
  | configure phase => exact Configure.canMove unended
  | disposeAsync phase => exact DisposeMultiplexer.canMove unended
  | refused => cases unended
  | waiting =>
    obtain ⟨untaken, intact⟩ := free rfl
    refine ⟨.go, trivial, by simp [Healthy], ?_⟩
    simp [shutdown, next, untaken, intact]

/-- Every call has ended, but for those of `Configure` that wait for a lock that is disposed. -/
def CameToRest (c : Config MultiplexerConnection ShutdownThread) : Prop :=
  ∀ (i : Nat) t, c.pool[i]? = some t → t.isOver = true ∨ t.isWaiting = true ∧ c.shared.lockDisposed = true

theorem able_of_unfinished (h : Reachable (shutdown prefetchCount) ⟨.created customConnection, []⟩ c)
    (unfinished : ¬ CameToRest c) : Able (shutdown prefetchCount) (fun _ _ => True) Healthy c := by
  simp only [CameToRest, not_forall, not_or, not_and] at unfinished
  obtain ⟨i, t, ht, unended, intact⟩ := unfinished
  replace unended : t.isOver = false := by simpa using unended
  cases waiting : t.isWaiting with
  | false => exact ⟨i, t, ht, t.canMove unended (by simp [waiting])⟩
  | true =>
    have intact : c.shared.lockDisposed = false := by simpa using intact waiting
    have waits : t.waits = some () := by
      cases t <;> first | rfl | cases waiting
    apply shutdownLock_order.able (fun _ => (shutdownLock_guards prefetchCount).held rfl rfl h) ?_ ?_ ht waits
    · intro j u _ _ hw untaken
      refine u.canMove ?_ fun _ => ⟨untaken, intact⟩
      cases u <;> first | rfl | cases hw
    · intro j u _ _ _ inside
      obtain ⟨unended, moves⟩ := ShutdownThread.running_of_inside inside
      exact u.canMove unended (by simp [moves])

/-- Who waits for a disposed lock waits for good. -/
theorem waiting_for_good (ht : c.pool[i]? = some .waiting) (disposed : c.shared.lockDisposed = true)
    (h : Reachable (shutdown prefetchCount) c d) :
    d.pool[i]? = some .waiting ∧ d.shared.lockDisposed = true := by
  induction h with
  | start => exact ⟨ht, disposed⟩
  | @next d e a _ _ he ih =>
    obtain ⟨waits, disposed⟩ := ih
    cases a with
    | start t =>
      obtain ⟨_, rfl⟩ := act_start he
      exact ⟨pool_append_of_old waits, disposed⟩
    | step j x =>
      obtain ⟨t, s', t', hj, hn, rfl⟩ := act_step he
      refine ⟨?_, (ShutdownThread.moves_of_next hn).lockDisposed disposed⟩
      by_cases same : j = i
      · subst same
        cases hj.symm.trans waits
        replace hn : ShutdownThread.next prefetchCount d.shared .waiting x = some (s', t') := hn
        cases x <;> simp [ShutdownThread.next, disposed] at hn
      · exact (pool_set_other (Ne.symm same)).trans waits

/-- Every call of `Configure` and of `DisposeAsync` ends, in whatever order they move and whatever fails, except
that a call of `Configure` waiting for `_configureLock` when a disposal disposes it never does. Nobody keeps the
lock. -/
theorem shutdown_ends (h : Reachable (shutdown prefetchCount) ⟨.created customConnection, []⟩ c) :
    Inevitable (shutdown prefetchCount) (fun _ _ => True) Healthy
        (fun d => CameToRest d ∧ d.shared.configureLocked = false) c ∧
      ∀ i : Nat, c.pool[i]? = some .waiting → c.shared.lockDisposed = true →
        ∀ d, Reachable (shutdown prefetchCount) c d → d.pool[i]? = some .waiting := by
  refine ⟨?_, fun i waits disposed d hd => (waiting_for_good waits disposed hd).1⟩
  refine inevitable_of_lessens (fun _ t => t.left) (fun _ _ => 0)
    (fun _ _ hn => ⟨fun _ => Nat.le_refl _, Or.inl (ShutdownThread.left_of_next hn)⟩) ?_ h
  intro d hd unfinished
  apply able_of_unfinished hd
  intro settled
  refine unfinished ⟨settled, ?_⟩
  -- who keeps the lock has not ended, and does not wait
  apply ((shutdownLock_guards prefetchCount).held rfl rfl hd).elim
  · exact id
  · intro i t ht inside
    obtain ⟨unended, moves⟩ := ShutdownThread.running_of_inside inside
    rcases settled i t ht with atRest | ⟨waiting, _⟩
    · rw [unended] at atRest
      cases atRest
    · rw [moves] at waiting
      cases waiting

/-- Of two calls of `Configure` one has the lock and the other waits for it, while a disposal is about to end. -/
def testStranded : List (Action ShutdownThread ConfigureInput) :=
  testLateConnection ++ [.start (.configure .entered), .step 2 .go, .step 2 .go, .step 1 .go]

theorem testStranded_waits :
    ∃ c, (shutdown 10).run (fun _ _ => true) ⟨.created false, []⟩ testStranded = some c ∧
      Inevitable (shutdown 10) (fun _ _ => True) Healthy (fun d => CameToRest d ∧ d.shared.configureLocked = false) c ∧
      ∀ d, Reachable (shutdown 10) c d → d.pool[2]? = some .waiting := by
  have h : ((shutdown 10).run (fun _ _ => true) ⟨.created false, []⟩ testStranded).any (fun c =>
      (c.pool[2]?).any (·.isWaiting) && c.shared.lockDisposed) = true := by decide
  obtain ⟨c, hc, found⟩ := (Option.any_eq_true _ _).mp h
  obtain ⟨waiting, disposed⟩ := Bool.and_eq_true_iff.mp found
  obtain ⟨t, ht, waiting⟩ := (Option.any_eq_true _ _).mp waiting
  have at_ : t = .waiting := by
    cases t <;> first | rfl | cases waiting
  obtain ⟨ends, strands⟩ := shutdown_ends (.of_run .start (fun _ _ _ => trivial) hc)
  exact ⟨c, hc, ends, strands 2 (at_ ▸ ht) disposed⟩

end Ends

end RabbitMediator
