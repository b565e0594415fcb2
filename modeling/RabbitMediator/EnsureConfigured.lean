import RabbitMediator.ReceiverRun

namespace RabbitMediator

/-- What awaits `EnsureConfigured`. -/
inductive Caller
  | ensureConfigured
  | request
  | send
deriving DecidableEq

/-- Where a call of `EnsureConfigured` stands. `checking` and `proceeding` belong to the `Request` or `Send`
that awaits it: the check for a disposed mediator, and what comes after it. -/
inductive EnsureConfigured
  | entered
  | acquiring
  | rechecking
  | connecting
  | joining
  | listing
  | configuring (remaining : List (ConsumerType × SentType))
  | ensuring (run : ReceiverRun) (remaining : List (ConsumerType × SentType))
  | finishing
  | announcing
  | releasing (outcome : Except Exception Unit)
  | checking
  | proceeding
  | returned
  | threw (e : Exception)

structure MediatorCall where
  caller : Caller
  phase : EnsureConfigured

namespace MediatorCall

def goesTo (call : MediatorCall) (phase : EnsureConfigured) : MediatorCall := { call with phase := phase }

/-- Where the call is when `EnsureConfigured` has returned. -/
def configured (call : MediatorCall) : MediatorCall :=
  call.goesTo (if call.caller = .ensureConfigured then .returned else .checking)

/-- What one step leaves: the multiplexer, the mediator, the call, and the channel the broker closes. -/
abbrev Moved := MultiplexerLife × MediatorLife × MediatorCall × Option ReceiveChannel

/-- `TryAdd` of a consumer for a sent-object type. -/
def map (l : MediatorLife) (consumerType : ConsumerType) (sentObjectType : SentType) : MediatorLife :=
  { l with configuration := l.configuration.tryAdd consumerType sentObjectType }

/-- One step while `EnsureReceiver` runs for a type. -/
def ensure (hosts : Hosts) (m : MediatorRef) (x : MultiplexerLife) (l : MediatorLife) (call : MediatorCall)
    (run : ReceiverRun) (remaining : List (ConsumerType × SentType)) (e : Event) : Option Moved :=
  match run.control, e with
  | .returned, .go => some (x, l, call.goesTo (.configuring remaining), none)
  | .threw exception, .go => some (x, l, call.goesTo (.releasing (.error exception)), none)
  | _, e => (run.next hosts m x.closed l e).map fun p =>
    (x, p.1, call.goesTo (.ensuring p.2.1 remaining), p.2.2)

def next (hosts : Hosts) (m : MediatorRef) (x : MultiplexerLife) (l : MediatorLife) (call : MediatorCall)
    (e : Event) : Option Moved :=
  match call.phase, e with
  | .entered, .go =>
    some (x, l, if l.configureDone then call.configured else call.goesTo .acquiring, none)
  | .acquiring, .go =>
    if l.configureLocked then none
    else some (x, { l with configureLocked := true }, call.goesTo .rechecking, none)
  | .rechecking, .go =>
    some (x, l, call.goesTo (if l.configureDone then .releasing (.ok ()) else .connecting), none)
  | .connecting, .ended (.ok _) => some ({ x with configureDone := true }, l, call.goesTo .joining, none)
  | .connecting, .ended (.error exception) =>
    -- a multiplexer that is configured returns at once
    if x.configureDone then none else some (x, l, call.goesTo (.releasing (.error exception)), none)
  | .joining, .go =>
    some ({ x with rabbitMediatorInstances :=
        ConcurrentDictionary.tryAdd x.rabbitMediatorInstances (hosts.scopeId m).value m },
      l, call.goesTo .listing, none)
  | .listing, .go =>
    some (x, l, call.goesTo (if l.registered then .configuring l.configuration.receivers
      else .releasing (.error (notRegistered (hosts.mediator m)))), none)
  | .configuring [], .go => some (x, l, call.goesTo .finishing, none)
  | .configuring ((consumerType, sentObjectType) :: remaining), .go =>
    some (x, map l consumerType sentObjectType, call.goesTo (.ensuring (.entered sentObjectType) remaining), none)
  | .ensuring run remaining, e => call.ensure hosts m x l run remaining e
  | .finishing, .go => some (x, { l with configureDone := true }, call.goesTo .announcing, none)
  | .announcing, .go => some (x, { l with configureEvent := true }, call.goesTo (.releasing (.ok ())), none)
  | .releasing outcome, .go =>
    some (x, { l with configureLocked := false }, match outcome with
      | .ok _ => call.configured
      | .error exception => call.goesTo (.threw exception), none)
  | .checking, .go =>
    some (x, l, call.goesTo (if l.disposed then .threw objectDisposed else .proceeding), none)
  | _, _ => none

/-- The run of `EnsureReceiver` the call is in. -/
def run? (call : MediatorCall) : Option ReceiverRun :=
  match call.phase with
  | .ensuring run _ => some run
  | _ => none

/-- The call is between the `WaitAsync` and the `Release` of `_configureLock`. -/
def inside (call : MediatorCall) : Bool :=
  match call.phase with
  | .rechecking | .connecting | .joining | .listing | .configuring _ | .ensuring _ _ | .finishing
  | .announcing | .releasing _ => true
  | _ => false

end MediatorCall

/-- Everything a call of `EnsureConfigured` can do in one step. -/
inductive MediatorCall.Step (hosts : Hosts) (m : MediatorRef) (x : MultiplexerLife) (l : MediatorLife)
    (call : MediatorCall) :
    Event → MultiplexerLife → MediatorLife → MediatorCall → Option ReceiveChannel → Prop
  | passed (before : call.phase = .entered) (done : l.configureDone = true) :
      Step hosts m x l call .go x l call.configured none
  | waits (before : call.phase = .entered) (undone : l.configureDone = false) :
      Step hosts m x l call .go x l (call.goesTo .acquiring) none
  | acquired (before : call.phase = .acquiring) (free : l.configureLocked = false) :
      Step hosts m x l call .go x { l with configureLocked := true } (call.goesTo .rechecking) none
  | found (before : call.phase = .rechecking) (done : l.configureDone = true) :
      Step hosts m x l call .go x l (call.goesTo (.releasing (.ok ()))) none
  | began (before : call.phase = .rechecking) (undone : l.configureDone = false) :
      Step hosts m x l call .go x l (call.goesTo .connecting) none
  | connected (before : call.phase = .connecting) :
      Step hosts m x l call (.ended (.ok ())) { x with configureDone := true } l (call.goesTo .joining) none
  | unconnected {e} (before : call.phase = .connecting) (undone : x.configureDone = false) :
      Step hosts m x l call (.ended (.error e)) x l (call.goesTo (.releasing (.error e))) none
  | joined (before : call.phase = .joining) :
      Step hosts m x l call .go
        { x with rabbitMediatorInstances :=
            ConcurrentDictionary.tryAdd x.rabbitMediatorInstances (hosts.scopeId m).value m }
        l (call.goesTo .listing) none
  | listed (before : call.phase = .listing) (registered : l.registered = true) :
      Step hosts m x l call .go x l (call.goesTo (.configuring l.configuration.receivers)) none
  | forgotten (before : call.phase = .listing) (gone : l.registered = false) :
      Step hosts m x l call .go x l
        (call.goesTo (.releasing (.error (notRegistered (hosts.mediator m))))) none
  | mapped {t s remaining} (before : call.phase = .configuring ((t, s) :: remaining)) :
      Step hosts m x l call .go x (map l t s) (call.goesTo (.ensuring (.entered s) remaining)) none
  | ensured {e run remaining l' run' closes} (before : call.phase = .ensuring run remaining)
      (h : run.Step hosts m x.closed l e l' run' closes) :
      Step hosts m x l call e x l' (call.goesTo (.ensuring run' remaining)) closes
  | continued {run remaining} (before : call.phase = .ensuring run remaining)
      (ended : run.control = .returned) :
      Step hosts m x l call .go x l (call.goesTo (.configuring remaining)) none
  | failed {run remaining e} (before : call.phase = .ensuring run remaining) (ended : run.control = .threw e) :
      Step hosts m x l call .go x l (call.goesTo (.releasing (.error e))) none
  | exhausted (before : call.phase = .configuring []) :
      Step hosts m x l call .go x l (call.goesTo .finishing) none
  | finished (before : call.phase = .finishing) :
      Step hosts m x l call .go x { l with configureDone := true } (call.goesTo .announcing) none
  | announced (before : call.phase = .announcing) :
      Step hosts m x l call .go x { l with configureEvent := true } (call.goesTo (.releasing (.ok ()))) none
  | released (before : call.phase = .releasing (.ok ())) :
      Step hosts m x l call .go x { l with configureLocked := false } call.configured none
  | threw {e} (before : call.phase = .releasing (.error e)) :
      Step hosts m x l call .go x { l with configureLocked := false } (call.goesTo (.threw e)) none
  | disposed (before : call.phase = .checking) (disposed : l.disposed = true) :
      Step hosts m x l call .go x l (call.goesTo (.threw objectDisposed)) none
  | proceeded (before : call.phase = .checking) (live : l.disposed = false) :
      Step hosts m x l call .go x l (call.goesTo .proceeding) none

namespace MediatorCall

variable {hosts : Hosts} {m : MediatorRef} {x x' : MultiplexerLife} {l l' : MediatorLife}
  {call call' : MediatorCall} {e : Event} {closes : Option ReceiveChannel}

theorem step_of_ensure {run : ReceiverRun} {remaining : List (ConsumerType × SentType)}
    (before : call.phase = .ensuring run remaining)
    (h : call.ensure hosts m x l run remaining e = some (x', l', call', closes)) :
    call.Step hosts m x l e x' l' call' closes := by
  unfold ensure at h
  split at h
  next ended => cases h; exact .continued before ended
  next ended => cases h; exact .failed before ended
  next =>
    obtain ⟨⟨l₁, run₁, closes₁⟩, hn, he⟩ := Option.map_eq_some_iff.mp h
    cases he
    exact .ensured before (ReceiverRun.step_of_next hn)

theorem step_of_next (h : call.next hosts m x l e = some (x', l', call', closes)) :
    call.Step hosts m x l e x' l' call' closes := by
  unfold next at h
  split at h
  next hp =>
    cases h
    cases hd : l.configureDone with
    | true => exact .passed hp hd
    | false => exact .waits hp hd
  next hp =>
    split at h <;> cases h
    next free => exact .acquired hp (by simpa using free)
  next hp =>
    cases h
    cases hd : l.configureDone with
    | true => exact .found hp hd
    | false => exact .began hp hd
  next hp => cases h; exact .connected hp
  next hp =>
    split at h <;> cases h
    next undone => exact .unconnected hp (by simpa using undone)
  next hp => cases h; exact .joined hp
  next hp =>
    cases h
    cases hr : l.registered with
    | true => exact .listed hp hr
    | false => exact .forgotten hp hr
  next hp => cases h; exact .exhausted hp
  next hp => cases h; exact .mapped hp
  next hp => exact step_of_ensure hp h
  next hp => cases h; exact .finished hp
  next hp => cases h; exact .announced hp
  next outcome hp =>
    cases h
    cases outcome with
    | ok => exact .released hp
    | error => exact .threw hp
  next hp =>
    cases h
    cases hd : l.disposed with
    | true => exact .disposed hp hd
    | false => exact .proceeded hp hd
  next => cases h

end MediatorCall
end RabbitMediator
