import RabbitMediator.Configure
import RabbitMediator.Progress
import RabbitMediator.PublishChannel

namespace RabbitMediator

open Interleaving

/-- The fields with the publish channels, in the order in which `DisposeAsync` goes through them. -/
inductive PublishRole
  | message
  | request
  | response
  | ack
  | topology
deriving DecidableEq

/-- A multiplexer with its connection, for `Configure` and `DisposeAsync`. `connected` says that `_connection` is
set, and `publishChannel` which of the publish channels are. -/
structure MultiplexerConnection extends ConnectionState where
  publishChannel : PublishRole → Bool
  connectionClosed : Bool
  disposed : Bool
  lockDisposed : Bool

/-- Where a call of `DisposeAsync` stands. `publishing` and `receiving` have the channels still to be disposed. -/
inductive DisposeMultiplexer
  | entered
  | marking
  | aborting
  | publishing (left : List PublishRole)
  | receiving (left : List Nat)
  | connection
  | closing
  | lock
  | ended
  | alreadyDisposed
  | threw (e : Exception)
deriving DecidableEq

/-- Calls of `Configure` and of `DisposeAsync`. `waiting` is a call of `Configure` that waits for
`_configureLock`, `refused` one that found it disposed. -/
inductive ShutdownThread
  | configure (phase : Configure)
  | waiting
  | refused
  | disposeAsync (phase : DisposeMultiplexer)

namespace MultiplexerConnection

def created (customConnection : Bool) : MultiplexerConnection :=
  ⟨.created customConnection, fun _ => false, false, false, false⟩

/-- There is a connection, and it is not closed. -/
def isOpen (s : MultiplexerConnection) : Bool := s.connected && !s.connectionClosed

/-- `CreateChannels` up to its first await. -/
def setPublishChannels (s : MultiplexerConnection) : MultiplexerConnection :=
  { s with publishChannel := fun role => role ≠ .ack || s.publishChannel .ack }

def setAckChannel (s : MultiplexerConnection) : MultiplexerConnection :=
  { s with publishChannel := Function.update s.publishChannel .ack true }

/-- The receiving channels that are set, in the order in which `DisposeAsync` goes through them. -/
def receiveChannels (s : MultiplexerConnection) : List Nat :=
  [.message, .request, .response].filterMap s.receiveChannel ++ s.receiveAckChannel.toList

def publishChannels (s : MultiplexerConnection) : List PublishRole :=
  [.message, .request, .response, .ack, .topology].filter s.publishChannel

/-- The connection takes its channels with it, and the exclusive queue. -/
def closeConnection (s : MultiplexerConnection) : MultiplexerConnection :=
  { s with connectionClosed := true, closed := List.range s.opened, ackQueue := false, ackConsumers := [] }

end MultiplexerConnection

namespace Configure

/-- A step that a closed connection cannot take. -/
def needsConnection : Configure → ConfigureInput → Bool
  | .creating _, .ended | .limiting .., .ended | .creatingAck, .ended | .declaring _, .ended | .consuming _, .ended =>
    true
  | _, _ => false

/-- A step of `Configure` at which nothing disposes anything. -/
def undisturbed (prefetchCount : Nat) (s : MultiplexerConnection) (phase : Configure) (x : ConfigureInput) :
    Option (MultiplexerConnection × ShutdownThread) :=
  (phase.next prefetchCount s.toConnectionState x).map fun p =>
    ({ s with toConnectionState := p.1 }, .configure p.2)

/-- `Configure` beside `DisposeAsync`: its lock may be disposed, and its connection closed. -/
def nextBeside (prefetchCount : Nat) (s : MultiplexerConnection) (phase : Configure) (x : ConfigureInput) :
    Option (MultiplexerConnection × ShutdownThread) :=
  if s.connectionClosed && phase.needsConnection x then none
  else
    match phase, x with
    | .acquiring, .go =>
      if s.lockDisposed then some (s, .refused)
      else if s.configureLocked then some (s, .waiting)
      else undisturbed prefetchCount s .acquiring .go
    | .registering, .go => undisturbed prefetchCount s.setPublishChannels .registering .go
    -- the events of a closed connection may refuse a handler
    | .registering, .failed e _ _ => if s.connectionClosed then some (s, .configure (.releasing (.failed e))) else none
    | .creatingAck, .ended => undisturbed prefetchCount s.setAckChannel .creatingAck .ended
    | .releasing outcome, .go =>
      some ({ s with configureLocked := false }, if s.lockDisposed then .refused else .configure (.ended outcome))
    | phase, x => undisturbed prefetchCount s phase x

end Configure

namespace DisposeMultiplexer

def next (s : MultiplexerConnection) :
    DisposeMultiplexer → ConfigureInput → Option (MultiplexerConnection × DisposeMultiplexer)
  | .entered, .go => some (s, if s.disposed then .alreadyDisposed else .marking)
  | .marking, .go => some ({ s with disposed := true }, .aborting)
  | .aborting, .go => some (s, .publishing s.publishChannels)
  | .publishing [], .go => some (s, .receiving s.receiveChannels)
  | .publishing (_ :: left), .ended => some (s, .publishing left)
  | .publishing (_ :: _), .failed e _ _ => some (s, .threw e)
  | .receiving [], .go => some (s, .connection)
  | .receiving (channel :: left), .ended =>
    some ({ s with toConnectionState := s.closeChannel channel }, .receiving left)
  | .receiving (channel :: _), .failed e taken _ =>
    some (if taken then { s with toConnectionState := s.closeChannel channel } else s, .threw e)
  | .connection, .go => some (s, if s.connected then .closing else .lock)
  | .closing, .ended => some (s.closeConnection, .lock)
  | .closing, .failed e taken _ => some (if taken then s.closeConnection else s, .threw e)
  | .lock, .go => some ({ s with lockDisposed := true }, .ended)
  | _, _ => none

/-- The call may still close the connection. -/
def mayClose : DisposeMultiplexer → Bool
  | .marking | .aborting | .publishing _ | .receiving _ | .connection | .closing => true
  | _ => false

end DisposeMultiplexer

namespace ShutdownThread

def start : ShutdownThread → Bool
  | .configure .entered | .disposeAsync .entered => true
  | _ => false

def next (prefetchCount : Nat) (s : MultiplexerConnection) :
    ShutdownThread → ConfigureInput → Option (MultiplexerConnection × ShutdownThread)
  | .configure phase, x => phase.nextBeside prefetchCount s x
  -- nobody wakes who waits for a semaphore that is disposed
  | .waiting, .go =>
    if s.lockDisposed || s.configureLocked then none
    else some ({ s with configureLocked := true }, .configure .rechecking)
  | .disposeAsync phase, x => (phase.next s x).map fun p => (p.1, .disposeAsync p.2)
  | _, _ => none

/-- A call of `Configure` that has the lock and may come to set `_connection`. -/
def mayConnect : ShutdownThread → Bool
  | .configure .rechecking | .configure .connecting => true
  | _ => false

def mayClose : ShutdownThread → Bool
  | .disposeAsync phase => phase.mayClose
  | _ => false

/-- A call of `DisposeAsync` before its last line. -/
def isLast : ShutdownThread → Bool
  | .disposeAsync .lock => true
  | _ => false

end ShutdownThread

/-- Any number of calls of `Configure` and `DisposeAsync` on one multiplexer. -/
def shutdown (prefetchCount : Nat) : Threads MultiplexerConnection ShutdownThread ConfigureInput where
  start _ t := t.start
  next s _ t x := t.next prefetchCount s x

section Steps

variable {prefetchCount : Nat} {x : ConfigureInput}

/-- The call has a connection to work with. -/
def Configure.hasConnection : Configure → Bool
  | .registering | .creating _ | .limiting .. | .creatingAck | .declaring _ | .consuming _ | .completing => true
  | _ => false

/-- What a step of `Configure` means for the connection. -/
structure Configure.Connects (s s' : ConnectionState) (phase phase' : Configure) : Prop where
  connected : s'.connected = true ↔ s.connected = true ∨ phase = .connecting ∧ phase' = .registering
  rechecking : phase' = .rechecking → phase = .acquiring
  connecting : phase' = .connecting → phase = .rechecking
  has : phase'.hasConnection = true → phase.hasConnection = true ∨ s'.connected = true
  done : s'.configureDone = true → s.configureDone = true ∨ phase = .completing

theorem Configure.connects_of_next {s s' : ConnectionState} {phase phase' : Configure}
    (h : phase.next prefetchCount s x = some (s', phase')) : Connects s s' phase phase' := by
  have closing (s : ConnectionState) (channel : Nat) (closes : Bool) :
      (closing s channel closes).connected = s.connected ∧
        (Configure.closing s channel closes).configureDone = s.configureDone := by
    cases closes <;> exact ⟨rfl, rfl⟩
  unfold next at h
  split at h
  next => cases h; cases s.configureDone <;> constructor <;> simp [hasConnection]
  next => split at h <;> cases h; constructor <;> simp [hasConnection]
  next => cases h; cases s.configureDone <;> constructor <;> simp [hasConnection]
  next => split at h <;> cases h; constructor <;> simp_all [hasConnection]
  next => split at h <;> cases h; constructor <;> simp_all [hasConnection]
  next => split at h <;> cases h; constructor <;> simp_all [hasConnection]
  next => cases h; constructor <;> simp [hasConnection, ConnectionState.registerConnectionEventHandlers]
  next role =>
    split at h <;> cases h
    · constructor <;> simp [hasConnection, ConnectionState.openChannel]
    · cases role <;> constructor <;>
        simp [hasConnection, after, ConnectionState.openChannel, ConnectionState.setReceiveChannel]
  next => cases h; split <;> constructor <;> simp [hasConnection, ConnectionState.openChannel]
  next role channel =>
    cases h
    cases role <;> constructor <;> simp [hasConnection, after, ConnectionState.setReceiveChannel]
  next => cases h; constructor <;> simp [hasConnection, closing]
  next => cases h; constructor <;> simp [hasConnection, ConnectionState.openChannel]
  next => cases h; split <;> constructor <;> simp [hasConnection, ConnectionState.openChannel]
  next => cases h; constructor <;> simp [hasConnection]
  next => cases h; constructor <;> simp [hasConnection, closing]
  next => cases h; constructor <;> simp [hasConnection]
  next => cases h; constructor <;> simp [hasConnection, closing]
  next => cases h; constructor <;> simp [hasConnection]
  next => cases h; constructor <;> simp [hasConnection]
  next => cases h

/-- Everything a call of `Configure` can do in one step beside `DisposeAsync`. -/
inductive Configure.Beside (prefetchCount : Nat) (s : MultiplexerConnection) (phase : Configure) (x : ConfigureInput) :
    MultiplexerConnection → ShutdownThread → Prop
  | refused (at_ : phase = .acquiring) (disposed : s.lockDisposed = true) : Beside prefetchCount s phase x s .refused
  | waits (at_ : phase = .acquiring) (disposed : s.lockDisposed = false) : Beside prefetchCount s phase x s .waiting
  | givesUp {e} (at_ : phase = .registering) :
      Beside prefetchCount s phase x s (.configure (.releasing (.failed e)))
  | released {outcome} (at_ : phase = .releasing outcome) : Beside prefetchCount s phase x
      { s with configureLocked := false } (if s.lockDisposed then .refused else .configure (.ended outcome))
  | undisturbed {s' phase'} (set : PublishRole → Bool)
      (h : phase.next prefetchCount s.toConnectionState x = some (s', phase'))
      (lock : phase = .acquiring → s.lockDisposed = false ∧ s.configureLocked = false) :
      Beside prefetchCount s phase x { s with toConnectionState := s', publishChannel := set } (.configure phase')

theorem Configure.beside_of_next {s s' : MultiplexerConnection} {phase : Configure} {t' : ShutdownThread}
    (h : phase.nextBeside prefetchCount s x = some (s', t')) : Beside prefetchCount s phase x s' t' := by
  unfold nextBeside at h
  split at h
  next => cases h
  next =>
    split at h
    next =>
      split at h
      next disposed => cases h; exact .refused rfl disposed
      next intact =>
        split at h
        next => cases h; exact .waits rfl (by simpa using intact)
        next free =>
          obtain ⟨⟨s₁, phase'⟩, hn, he⟩ := Option.map_eq_some_iff.mp h
          cases he
          exact .undisturbed s.publishChannel hn fun _ => ⟨by simpa using intact, by simpa using free⟩
    next =>
      obtain ⟨⟨s₁, phase'⟩, hn, he⟩ := Option.map_eq_some_iff.mp h
      cases he
      exact .undisturbed s.setPublishChannels.publishChannel hn (by simp)
    next =>
      split at h <;> cases h
      exact .givesUp rfl
    next =>
      obtain ⟨⟨s₁, phase'⟩, hn, he⟩ := Option.map_eq_some_iff.mp h
      cases he
      exact .undisturbed s.setAckChannel.publishChannel hn (by simp)
    next => cases h; exact .released rfl
    next acquires _ _ _ _ =>
      obtain ⟨⟨s₁, phase'⟩, hn, he⟩ := Option.map_eq_some_iff.mp h
      cases he
      refine .undisturbed s.publishChannel hn fun at_ => ?_
      subst at_
      cases x with
      | go => exact absurd rfl (acquires rfl)
      | _ => cases hn

/-- What a step means for the connection and for the lock. -/
structure ShutdownThread.Moves (s s' : MultiplexerConnection) (t t' : ShutdownThread) : Prop where
  connected : s.connected = true → s'.connected = true
  connects : s'.connected = true → s.connected = true ∨ t = .configure .connecting
  closed : s.connectionClosed = true → s'.connectionClosed = true
  closes : s'.connectionClosed = true → s.connectionClosed = true ∨ t = .disposeAsync .closing
  lockDisposed : s.lockDisposed = true → s'.lockDisposed = true
  disposed : s.disposed = true → s'.disposed = true
  enters : t'.mayConnect = true → t.mayConnect = true ∨ s.lockDisposed = false
  disposes : t'.mayClose = true → t.mayClose = true ∨ s.disposed = false
  rechecks : t' = .configure .connecting → t = .configure .rechecking
  has : ∀ phase', t' = .configure phase' → phase'.hasConnection = true →
    (∃ phase, t = .configure phase ∧ phase.hasConnection = true) ∨ s'.connected = true
  done : s'.configureDone = true → s.configureDone = true ∨ t = .configure .completing
  reaches : t' = .disposeAsync .closing → s'.connected = true

theorem ShutdownThread.moves_of_next {s s' : MultiplexerConnection} {t t' : ShutdownThread}
    (h : t.next prefetchCount s x = some (s', t')) : Moves s s' t t' := by
  cases t with
  | configure phase =>
    cases Configure.beside_of_next h with
    | refused | waits | givesUp => constructor <;> simp_all [mayConnect, mayClose, Configure.hasConnection]
    | released =>
      cases hl : s.lockDisposed <;> constructor <;> simp_all [mayConnect, mayClose, Configure.hasConnection]
    | @undisturbed s₁ phase' set hn lock =>
      have on := Configure.connects_of_next hn
      constructor
      · exact fun before => on.connected.mpr (Or.inl before)
      · exact fun after => (on.connected.mp after).imp_right fun h => by rw [h.1]
      · exact id
      · exact Or.inl
      · exact id
      · exact id
      · intro may
        cases phase' with
        | rechecking => exact Or.inr (lock (on.rechecking rfl)).1
        | connecting =>
          left
          rw [on.connecting rfl]
          rfl
        | _ => cases may
      · intro may
        cases may
      · intro same
        cases same
        rw [on.connecting rfl]
      · intro phase'' same has
        cases same
        exact (on.has has).imp_left fun before => ⟨phase, rfl, before⟩
      · exact fun after => (on.done after).imp_right fun at_ => by rw [at_]
      · intro same
        cases same
  | waiting =>
    cases x with
    | go =>
      simp only [next] at h
      split at h
      next => cases h
      next free =>
        cases h
        obtain ⟨intact, _⟩ := Bool.or_eq_false_iff.mp (Bool.eq_false_iff.mpr free)
        constructor <;> simp_all [mayConnect, mayClose, Configure.hasConnection]
    | _ => cases h
  | refused => cases x <;> cases h
  | disposeAsync phase =>
    obtain ⟨⟨s₁, phase'⟩, hn, he⟩ := Option.map_eq_some_iff.mp h
    cases he
    unfold DisposeMultiplexer.next at hn
    split at hn
    next => cases hn; cases hs : s.disposed <;> constructor <;> simp_all [mayConnect, mayClose, DisposeMultiplexer.mayClose]
    next => cases hn; constructor <;> simp [mayConnect, mayClose, DisposeMultiplexer.mayClose]
    next => cases hn; constructor <;> simp [mayConnect, mayClose, DisposeMultiplexer.mayClose]
    next => cases hn; constructor <;> simp [mayConnect, mayClose, DisposeMultiplexer.mayClose]
    next => cases hn; constructor <;> simp [mayConnect, mayClose, DisposeMultiplexer.mayClose]
    next => cases hn; constructor <;> simp [mayConnect, mayClose, DisposeMultiplexer.mayClose]
    next => cases hn; constructor <;> simp [mayConnect, mayClose, DisposeMultiplexer.mayClose]
    next =>
      cases hn
      constructor <;>
        simp [mayConnect, mayClose, DisposeMultiplexer.mayClose, ConnectionState.closeChannel]
    next =>
      cases hn
      split <;> constructor <;>
        simp [mayConnect, mayClose, DisposeMultiplexer.mayClose, ConnectionState.closeChannel]
    next => cases hn; cases hs : s.connected <;> constructor <;> simp_all [mayConnect, mayClose, DisposeMultiplexer.mayClose]
    next =>
      cases hn
      constructor <;> simp [mayConnect, mayClose, DisposeMultiplexer.mayClose, MultiplexerConnection.closeConnection]
    next =>
      cases hn
      split <;> constructor <;>
        simp [mayConnect, mayClose, DisposeMultiplexer.mayClose, MultiplexerConnection.closeConnection]
    next => cases hn; constructor <;> simp [mayConnect, mayClose, DisposeMultiplexer.mayClose]
    next => cases hn

end Steps

section Runs

variable {prefetchCount : Nat} {customConnection : Bool} {c d : Config MultiplexerConnection ShutdownThread}

/-- Who needs a connection has had one set. -/
structure Founded (c : Config MultiplexerConnection ShutdownThread) : Prop where
  done : c.shared.configureDone = true → c.shared.connected = true
  closed : c.shared.connectionClosed = true → c.shared.connected = true
  has : ∀ (i : Nat) (phase : Configure), c.pool[i]? = some (.configure phase) → phase.hasConnection = true →
    c.shared.connected = true
  closing : ∀ i : Nat, c.pool[i]? = some (.disposeAsync .closing) → c.shared.connected = true

theorem founded_of_reachable (h : Reachable (shutdown prefetchCount) ⟨.created customConnection, []⟩ c) :
    Founded c := by
  refine h.invariant (P := Founded) ⟨?_, ?_, by simp, by simp⟩ ?_
  · intro done
    cases done
  · intro closed
    cases closed
  intro c d a _ ih _ hd
  cases a with
  | start t =>
    obtain ⟨starts, rfl⟩ := act_start hd
    refine ⟨ih.done, ih.closed, fun i phase hi has => ?_, fun i hi => ?_⟩
    · rcases pool_append_cases hi with hi | ⟨_, rfl⟩
      · exact ih.has i phase hi has
      · cases phase <;> first | (cases has; done) | cases starts
    · rcases pool_append_cases hi with hi | ⟨_, rfl⟩
      · exact ih.closing i hi
      · cases starts
  | step i x =>
    obtain ⟨t, s', t', ht, hn, rfl⟩ := act_step hd
    have moves := ShutdownThread.moves_of_next hn
    refine ⟨fun done => ?_, fun closed => ?_, fun j phase hj has => ?_, fun j hj => ?_⟩
    · rcases moves.done done with before | rfl
      · exact moves.connected (ih.done before)
      · exact moves.connected (ih.has i .completing ht rfl)
    · rcases moves.closes closed with before | rfl
      · exact moves.connected (ih.closed before)
      · exact moves.connected (ih.closing i ht)
    · rcases pool_set_cases ht hj with ⟨_, rfl⟩ | ⟨_, hj⟩
      · rcases moves.has phase rfl has with ⟨before, rfl, had⟩ | after
        · exact moves.connected (ih.has i before ht had)
        · exact after
      · exact moves.connected (ih.has j phase hj has)
    · rcases pool_set_cases ht hj with ⟨_, rfl⟩ | ⟨_, hj⟩
      · exact moves.reaches rfl
      · exact moves.connected (ih.closing j hj)

/-- Where nobody can connect any more, nobody ever does. -/
theorem closed_for_good (disposed : c.shared.lockDisposed = true) (closed : c.shared.isOpen = false)
    (idle : c.shared.connected = true ∨ ∀ (i : Nat) t, c.pool[i]? = some t → t.mayConnect = false)
    (h : Reachable (shutdown prefetchCount) c d) : d.shared.isOpen = false := by
  suffices hs : d.shared.lockDisposed = true ∧ d.shared.isOpen = false ∧
      (d.shared.connected = true ∨ ∀ (i : Nat) t, d.pool[i]? = some t → t.mayConnect = false) from hs.2.1
  induction h with
  | start => exact ⟨disposed, closed, idle⟩
  | @next d e a _ _ he ih =>
    obtain ⟨disposed, closed, idle⟩ := ih
    cases a with
    | start t =>
      obtain ⟨starts, rfl⟩ := act_start he
      refine ⟨disposed, closed, idle.imp_right fun idle i u hu => ?_⟩
      rcases pool_append_cases hu with hu | ⟨_, rfl⟩
      · exact idle i u hu
      · unfold ShutdownThread.mayConnect
        split <;> first | rfl | cases starts
    | step i x =>
      obtain ⟨t, s', t', ht, hn, rfl⟩ := act_step he
      have moves := ShutdownThread.moves_of_next hn
      refine ⟨moves.lockDisposed disposed, ?_, ?_⟩
      · rcases idle with connected | idle
        · have before : d.shared.connectionClosed = true := by
            simpa [MultiplexerConnection.isOpen, connected] using closed
          simp [MultiplexerConnection.isOpen, moves.closed before]
        · cases after : s'.connected with
          | false => simp [MultiplexerConnection.isOpen, after]
          | true =>
            rcases moves.connects after with before | rfl
            · have before : d.shared.connectionClosed = true := by
                simpa [MultiplexerConnection.isOpen, before] using closed
              simp [MultiplexerConnection.isOpen, moves.closed before]
            · cases idle i _ ht
      · rcases idle with connected | idle
        · exact Or.inl (moves.connected connected)
        · right
          intro j u hu
          rcases pool_set_cases ht hu with ⟨_, rfl⟩ | ⟨_, hu⟩
          · cases may : u.mayConnect with
            | false => rfl
            | true =>
              rcases moves.enters may with before | intact
              · rw [idle i t ht] at before
                cases before
              · rw [disposed] at intact
                cases intact
          · exact idle j u hu

/-- A call that has the lock while there is no connection may still open one. -/
theorem open_of_mayConnect (founded : Founded c) (unset : c.shared.connected = false) {i : Nat} {t : ShutdownThread}
    (ht : c.pool[i]? = some t) (may : t.mayConnect = true) :
    ∃ d, Reachable (shutdown prefetchCount) c d ∧ d.shared.isOpen = true := by
  have intact : c.shared.connectionClosed = false := by
    cases hc : c.shared.connectionClosed with
    | false => rfl
    | true => exact absurd (founded.closed hc) (by simp [unset])
  have connect {c : Config MultiplexerConnection ShutdownThread} (unset : c.shared.connected = false)
      (intact : c.shared.connectionClosed = false) (ht : c.pool[i]? = some (.configure .connecting)) :
      ∃ d, Reachable (shutdown prefetchCount) c d ∧ d.shared.isOpen = true := by
    have attempt : (shutdown prefetchCount).next c.shared i (.configure .connecting) .ended =
        some ({ c.shared with connected := true }, .configure .registering) := by
      simp [shutdown, ShutdownThread.next, Configure.nextBeside, Configure.undisturbed, Configure.next, intact, unset]
    refine ⟨_, .next .start trivial (act_of_next ht attempt), ?_⟩
    simp [MultiplexerConnection.isOpen, intact]
  unfold ShutdownThread.mayConnect at may
  split at may
  next =>
    have undone : c.shared.configureDone = false := by
      cases hc : c.shared.configureDone with
      | false => rfl
      | true => exact absurd (founded.done hc) (by simp [unset])
    have hn : (shutdown prefetchCount).next c.shared i (.configure .rechecking) .go =
        some (c.shared, .configure .connecting) := by
      show Configure.nextBeside prefetchCount c.shared .rechecking .go = _
      unfold Configure.nextBeside
      rw [if_neg (by simp [intact])]
      show Configure.undisturbed prefetchCount c.shared .rechecking .go = _
      simp [Configure.undisturbed, Configure.next, undone]
    obtain ⟨e, he, isOpen⟩ := connect (c := ⟨c.shared, c.pool.set i _⟩) unset intact (pool_set_self ht)
    exact ⟨e, (ReachableWhere.next .start trivial (act_of_next ht hn)).trans he, isOpen⟩
  next => exact connect unset intact ht
  next => cases may

/-- Where no call of `DisposeAsync` is under way that closes the connection, none ever does. -/
theorem open_for_good (disposed : c.shared.disposed = true)
    (past : ∀ (i : Nat) t, c.pool[i]? = some t → t.mayClose = false) (isOpen : c.shared.isOpen = true)
    (h : Reachable (shutdown prefetchCount) c d) : d.shared.isOpen = true := by
  suffices hs : d.shared.disposed = true ∧ (∀ (i : Nat) t, d.pool[i]? = some t → t.mayClose = false) ∧
      d.shared.isOpen = true from hs.2.2
  induction h with
  | start => exact ⟨disposed, past, isOpen⟩
  | @next d e a _ _ he ih =>
    obtain ⟨disposed, past, isOpen⟩ := ih
    cases a with
    | start t =>
      obtain ⟨starts, rfl⟩ := act_start he
      refine ⟨disposed, fun i u hu => ?_, isOpen⟩
      rcases pool_append_cases hu with hu | ⟨_, rfl⟩
      · exact past i u hu
      · replace starts : u.start = true := starts
        unfold ShutdownThread.start at starts
        split at starts <;> first | rfl | cases starts
    | step i x =>
      obtain ⟨t, s', t', ht, hn, rfl⟩ := act_step he
      have moves := ShutdownThread.moves_of_next hn
      refine ⟨moves.disposed disposed, fun j u hu => ?_, ?_⟩
      · rcases pool_set_cases ht hu with ⟨_, rfl⟩ | ⟨_, hu⟩
        · cases may : u.mayClose with
          | false => rfl
          | true =>
            rcases moves.disposes may with before | first
            · rw [past i t ht] at before
              cases before
            · rw [disposed] at first
              cases first
        · exact past j u hu
      · simp only [MultiplexerConnection.isOpen, Bool.and_eq_true, Bool.not_eq_true'] at isOpen ⊢
        refine ⟨moves.connected isOpen.1, ?_⟩
        cases after : s'.connectionClosed with
        | false => rfl
        | true =>
          rcases moves.closes after with before | rfl
          · rw [isOpen.2] at before
            cases before
          · cases past i _ ht

/-- A call of `DisposeAsync` that comes to its last line, where it disposes `_configureLock`, leaves the connection
closed for good just when it is not open then and no call of `Configure` has the lock and may still open one. And a
connection that is open once a disposal is over, because a part of it failed or because it was opened too late, is
never closed: later calls of `DisposeAsync` return at once. -/
theorem shutdown_closes (h : Reachable (shutdown prefetchCount) ⟨.created customConnection, []⟩ c) :
    (∀ (i : Nat) d, c.pool[i]? = some (.disposeAsync .lock) → (shutdown prefetchCount).act c (.step i .go) = some d →
      ((∀ e, Reachable (shutdown prefetchCount) d e → e.shared.isOpen = false) ↔ c.shared.isOpen = false ∧
        (c.shared.connected = true ∨ ∀ (j : Nat) t, c.pool[j]? = some t → t.mayConnect = false))) ∧
    (c.shared.disposed = true → (∀ (i : Nat) t, c.pool[i]? = some t → t.mayClose = false) →
      c.shared.isOpen = true → ∀ e, Reachable (shutdown prefetchCount) c e → e.shared.isOpen = true) := by
  refine ⟨fun i d ht hd => ?_, fun disposed past isOpen e he => open_for_good disposed past isOpen he⟩
  have founded : Founded d := founded_of_reachable (.next h trivial hd)
  obtain ⟨t, s', t', hi, hn, rfl⟩ := act_step hd
  cases ht.symm.trans hi
  cases hn
  have others {P : ShutdownThread → Prop} (last : P (.disposeAsync .lock)) (ended : P (.disposeAsync .ended)) :
      (∀ (j : Nat) u, (c.pool.set i (.disposeAsync .ended))[j]? = some u → P u) ↔
        ∀ (j : Nat) u, c.pool[j]? = some u → P u := by
    constructor
    · intro all j u hu
      by_cases same : j = i
      · subst same
        cases ht.symm.trans hu
        exact last
      · exact all j u ((pool_set_other same).trans hu)
    · intro all j u hu
      rcases pool_set_cases ht hu with ⟨_, rfl⟩ | ⟨_, hu⟩
      · exact ended
      · exact all j u hu
  constructor
  · intro never
    have now := never _ .start
    refine ⟨now, ?_⟩
    cases unset : c.shared.connected with
    | true => exact Or.inl rfl
    | false =>
      right
      refine (others (P := fun u => u.mayConnect = false) rfl rfl).mp fun j u hu => ?_
      cases may : u.mayConnect with
      | false => rfl
      | true =>
        obtain ⟨e, he, isOpen⟩ := open_of_mayConnect founded unset hu may
        rw [never e he] at isOpen
        cases isOpen
  · rintro ⟨closed, idle⟩ e he
    exact closed_for_good
      (c := ⟨{ c.shared with lockDisposed := true }, c.pool.set i (.disposeAsync .ended)⟩) rfl closed
      (idle.imp_right (others (P := fun u => u.mayConnect = false) rfl rfl).mpr) he

/-- The multiplexer is disposed while its first `Configure` awaits the connection. -/
def testLateConnection : List (Action ShutdownThread ConfigureInput) :=
  [.start (.configure .entered), .step 0 .go, .step 0 .go, .step 0 .go, .start (.disposeAsync .entered),
    .step 1 .go, .step 1 .go, .step 1 .go, .step 1 .go, .step 1 .go, .step 1 .go]

theorem testLateConnection_leaks :
    ∃ c d, (shutdown 10).run (fun _ _ => true) ⟨.created false, []⟩ testLateConnection = some c ∧
      (shutdown 10).act c (.step 1 .go) = some d ∧
      ¬ ∀ e, Reachable (shutdown 10) d e → e.shared.isOpen = false := by
  have h : ((shutdown 10).run (fun _ _ => true) ⟨.created false, []⟩ testLateConnection).any (fun c =>
      (c.pool[0]?).any (·.mayConnect) && !c.shared.connected && (c.pool[1]?).any (·.isLast) &&
        ((shutdown 10).act c (.step 1 .go)).isSome) = true := by decide
  obtain ⟨c, hc, found⟩ := (Option.any_eq_true _ _).mp h
  simp only [Bool.and_eq_true, Bool.not_eq_true'] at found
  obtain ⟨⟨⟨may, unset⟩, last⟩, acts⟩ := found
  obtain ⟨t, ht, may⟩ := (Option.any_eq_true _ _).mp may
  obtain ⟨u, hu, last⟩ := (Option.any_eq_true _ _).mp last
  obtain ⟨d, hd⟩ := Option.isSome_iff_exists.mp acts
  have at_ : u = .disposeAsync .lock := by
    unfold ShutdownThread.isLast at last
    split at last
    · rfl
    · cases last
  refine ⟨c, d, hc, hd, fun never => ?_⟩
  obtain ⟨_, idle⟩ := ((shutdown_closes (.of_run .start (fun _ _ _ => trivial) hc)).1 1 d (at_ ▸ hu) hd).mp never
  rcases idle with connected | idle
  · rw [unset] at connected
    cases connected
  · rw [idle 0 t ht] at may
    cases may

end Runs

end RabbitMediator
