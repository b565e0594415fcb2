import Mathlib.Data.List.Nodup
import RabbitMediator.ServiceCollection
import RabbitMediator.Validation

namespace RabbitMediator

/-- A configuration as `AddRabbitMediator` gets it, with what the connection and the service key need. -/
structure Registration (κ : Type) extends RabbitMediatorSettings where
  serviceKey : Option κ
  connectionString : Option String

namespace Registration

variable {κ : Type}

def effectivePrefetchCount (c : Registration κ) : UInt16 := c.prefetchCount.getD c.consumerDispatchConcurrency

end Registration

/-- What `AddOptions` adds: open generic services. -/
inductive OptionsService
  | options
  | optionsSnapshot
  | optionsMonitor
  | optionsFactory
  | optionsMonitorCache
deriving DecidableEq

/-- Types of services. `configureOptions` is `IConfigureOptions<RabbitMediatorWorkerConfiguration>`. -/
inductive ServiceType
  | rabbitMediator
  | rabbitMediatorMultiplexer
  | rabbitMediatorWorker
  | hostedService
  | configureOptions
  | options (service : OptionsService)
  | application (type : Nat)
deriving DecidableEq

/-- What a descriptor makes its service of. `configure` runs an action on the `RabbitMediatorWorkerConfiguration`,
which adds an entry to `RegisteredMediators` or does nothing. -/
inductive Implementation (κ : Type)
  | multiplexer (configuration : Registration κ)
  | mediator (configuration : Registration κ)
  | configure (registers : Option (Option κ × ServiceLifetime))
  | worker
  | options (service : OptionsService)
  | application (type : Nat)

/-- The type of implementation that `TryAddEnumerable` compares. -/
inductive ImplementationType
  | object
  | configureNamedOptions
  | worker
  | options (service : OptionsService)
  | application (type : Nat)
deriving DecidableEq

namespace Implementation

variable {κ : Type}

def type : Implementation κ → ImplementationType
  | .multiplexer _ | .mediator _ => .object
  | .configure _ => .configureNamedOptions
  | .worker => .worker
  | .options service => .options service
  | .application type => .application type

def registers : Implementation κ → Option (Option κ × ServiceLifetime)
  | .configure registers => registers
  | _ => none

end Implementation

abbrev Descriptor (κ : Type) := ServiceDescriptor ServiceType κ (Implementation κ) ServiceLifetime

abbrev Services (κ : Type) := ServiceCollection ServiceType κ (Implementation κ) ServiceLifetime

namespace Descriptor

variable {κ : Type}

/-- The application's own: for its services, its hosted services, or a mediator of its making. -/
def isOwn (d : Descriptor κ) : Bool :=
  match d.serviceType, d.implementation with
  | .rabbitMediator, .application _ | .hostedService, .application _ | .application _, .application _ => true
  | _, _ => false

def worker : Descriptor κ := ⟨.hostedService, none, .worker, .singleton⟩

/-- The descriptors of the options and of the worker belong to no registration alone. -/
def isShared (d : Descriptor κ) : Bool :=
  match d.serviceType with
  | .hostedService | .configureOptions | .options _ => true
  | _ => false

theorem own_cases {d : Descriptor κ} (h : d.isOwn = true) :
    (∃ type, d.implementation = .application type) ∧ d.serviceType ≠ .rabbitMediatorMultiplexer ∧
      d.serviceType ≠ .rabbitMediatorWorker := by
  unfold isOwn at h
  split at h
  next type implementation => exact ⟨⟨_, implementation⟩, by simp [type], by simp [type]⟩
  next type implementation => exact ⟨⟨_, implementation⟩, by simp [type], by simp [type]⟩
  next type implementation => exact ⟨⟨_, implementation⟩, by simp [type], by simp [type]⟩
  next => cases h

end Descriptor

namespace Registration

variable {κ : Type}

def multiplexerDescriptor (c : Registration κ) : Descriptor κ :=
  ⟨.rabbitMediatorMultiplexer, c.serviceKey, .multiplexer c, c.serviceLifetime⟩

def instanceDescriptor (c : Registration κ) : Descriptor κ :=
  ⟨.rabbitMediator, c.serviceKey, .mediator c, c.serviceLifetime⟩

end Registration

namespace Services

variable {κ : Type} [DecidableEq κ]

def optionsServices : List (OptionsService × ServiceLifetime) :=
  [(.options, .singleton), (.optionsSnapshot, .scoped), (.optionsMonitor, .singleton),
    (.optionsFactory, .transient), (.optionsMonitorCache, .singleton)]

def addOptions (services : Services κ) : Services κ :=
  optionsServices.foldl
    (fun services p => services.tryAdd ⟨.options p.1, none, .options p.1, p.2⟩) services

/-- `Configure<RabbitMediatorWorkerConfiguration>` with an action that adds this entry, or does nothing. -/
def configure (services : Services κ) (registers : Option (Option κ × ServiceLifetime)) : Services κ :=
  addOptions services ++ [⟨.configureOptions, none, .configure registers, .singleton⟩]

def addHostedService (services : Services κ) : Services κ :=
  services.tryAddEnumerable Implementation.type Descriptor.worker

def addRabbitMediatorWorker (services : Services κ) : Services κ :=
  if services.all fun sd => sd.serviceType ≠ .rabbitMediatorWorker then
    addHostedService (configure services none)
  else services

def alreadyRegistered (keyText : κ → String) : Option κ → Exception
  | none => .new .argument ("A RabbitMediator without a service key is already registered. Give one of them a " ++
      "ServiceKey to run several mediators side by side. (Parameter 'ServiceKey')")
  | some key => .new .argument ("A RabbitMediator with the service key '" ++ keyText key ++
      "' is already registered. (Parameter 'ServiceKey')")

/-- The services afterwards, and how the call ends. -/
def addRabbitMediator (interfaceMap : InterfaceMap) (keyText : κ → String) (services : Services κ)
    (configuration : Registration κ) : Services κ × Except Exception Unit :=
  match configuration.validate interfaceMap with
  | .error e => (services, .error e)
  | .ok _ =>
    if services.any fun sd => sd.serviceType = .rabbitMediator &&
        sd.isKeyedService = configuration.serviceKey.isSome &&
        (if sd.isKeyedService then sd.serviceKey else none) = configuration.serviceKey then
      (services, .error (alreadyRegistered keyText configuration.serviceKey))
    else
      let services := services ++ [configuration.multiplexerDescriptor, configuration.instanceDescriptor]
      let services := configure services (some (configuration.serviceKey, configuration.serviceLifetime))
      (addRabbitMediatorWorker services, .ok ())

/-- `RegisteredMediators` of the options, after all the actions have run. -/
def registeredMediators (services : Services κ) : List (Option κ × ServiceLifetime) :=
  services.filterMap (·.implementation.registers)

end Services

/-- What the application does to its services before the host is built. -/
inductive ServiceOperation (κ : Type)
  | addRabbitMediator (configuration : Registration κ)
  | add (d : Descriptor κ) (own : d.isOwn = true)

/-- The services with the configurations that `AddRabbitMediator` has accepted so far. -/
structure Setup (κ : Type) where
  services : Services κ
  accepted : List (Registration κ)

namespace Setup

variable {κ : Type} [DecidableEq κ]

def apply (interfaceMap : InterfaceMap) (keyText : κ → String) (s : Setup κ) : ServiceOperation κ → Setup κ
  | .addRabbitMediator configuration =>
    match s.services.addRabbitMediator interfaceMap keyText configuration with
    | (services, .ok _) => ⟨services, s.accepted ++ [configuration]⟩
    | (services, .error _) => ⟨services, s.accepted⟩
  | .add d _ => ⟨s.services ++ [d], s.accepted⟩

/-- The services of the application after these operations. -/
def of (interfaceMap : InterfaceMap) (keyText : κ → String) (operations : List (ServiceOperation κ)) : Setup κ :=
  operations.foldl (apply interfaceMap keyText) ⟨[], []⟩

end Setup

namespace Services

section Extends

variable {κ : Type} {services after later : Services κ}

def workers (services : Services κ) : Services κ := services.filter fun d => d.implementation.type = .worker

theorem registeredMediators_append (services added : Services κ) :
    registeredMediators (services ++ added) = services.registeredMediators ++ registeredMediators added :=
  List.filterMap_append ..

theorem workers_append (services added : Services κ) :
    workers (services ++ added) = services.workers ++ workers added :=
  List.filter_append ..

/-- Descriptors that are shared were added: with these entries for the worker, and with these workers. -/
structure Extends (services : Services κ) (registers : List (Option κ × ServiceLifetime)) (hosted : Services κ)
    (after : Services κ) : Prop where
  added : ∃ added, after = services ++ added ∧ ∀ d ∈ added, Descriptor.isShared d = true
  registered : after.registeredMediators = services.registeredMediators ++ registers
  workers : after.workers = services.workers ++ hosted

theorem Extends.refl (services : Services κ) : Extends services [] [] services where
  added := ⟨[], (List.append_nil services).symm, by simp⟩
  registered := (List.append_nil _).symm
  workers := (List.append_nil _).symm

theorem Extends.trans {first second : List (Option κ × ServiceLifetime)} {hosted more : Services κ}
    (h : Extends services first hosted after) (h' : Extends after second more later) :
    Extends services (first ++ second) (hosted ++ more) later := by
  obtain ⟨added, rfl, shared⟩ := h.added
  obtain ⟨added', rfl, shared'⟩ := h'.added
  refine ⟨⟨added ++ added', List.append_assoc .., fun d hd => ?_⟩, ?_, ?_⟩
  · rcases List.mem_append.mp hd with hd | hd
    · exact shared d hd
    · exact shared' d hd
  · rw [h'.registered, h.registered, List.append_assoc]
  · rw [h'.workers, h.workers, List.append_assoc]

theorem extends_append {d : Descriptor κ} (shared : d.isShared = true) :
    Extends services d.implementation.registers.toList (if d.implementation.type = .worker then [d] else [])
      (services ++ [d]) := by
  refine ⟨⟨[d], rfl, fun e he => ?_⟩, ?_, ?_⟩
  · rw [List.mem_singleton.mp he]
    exact shared
  · rw [registeredMediators_append]
    cases h : d.implementation.registers <;> simp [registeredMediators, h]
  · rw [workers_append]
    by_cases h : d.implementation.type = .worker <;> simp [workers, h]

variable [DecidableEq κ]

theorem extends_addOptions (services : Services κ) : Extends services [] [] services.addOptions := by
  unfold addOptions
  generalize optionsServices = options
  induction options generalizing services with
  | nil => exact .refl services
  | cons p options ih =>
    rw [List.foldl_cons]
    refine Extends.trans (?_ : Extends services [] [] _) (ih _)
    rcases services.tryAdd_cases ⟨.options p.1, none, .options p.1, p.2⟩ with same | added
    · rw [same]
      exact .refl services
    · rw [added]
      exact extends_append (d := ⟨.options p.1, none, .options p.1, p.2⟩) rfl

theorem extends_configure (services : Services κ) (registers : Option (Option κ × ServiceLifetime)) :
    Extends services registers.toList [] (services.configure registers) :=
  (extends_addOptions services).trans (extends_append (d := ⟨_, _, .configure registers, _⟩) rfl)

/-- The first worker is added, and no second one. -/
theorem extends_addHostedService (h : services.workers = [] ∨ services.workers = [Descriptor.worker]) :
    ∃ hosted, Extends services [] hosted services.addHostedService ∧
      services.workers ++ hosted = [Descriptor.worker] := by
  rcases services.tryAddEnumerable_cases Implementation.type Descriptor.worker with ⟨same, e, he, type⟩ | ⟨added, new⟩
  · -- the one that keeps the worker from being added is a worker
    have worker : e ∈ services.workers :=
      List.mem_filter.mpr ⟨(ServiceCollection.mem_fitting.mp he).1, decide_eq_true type⟩
    refine ⟨[], ?_, ?_⟩
    · unfold addHostedService
      rw [same]
      exact .refl services
    · rw [List.append_nil]
      apply h.resolve_left
      intro none
      rw [none] at worker
      cases worker
  · refine ⟨[Descriptor.worker], ?_, ?_⟩
    · unfold addHostedService
      rw [added]
      exact extends_append (d := Descriptor.worker) rfl
    · rw [h.resolve_right, List.nil_append]
      intro one
      have worker : Descriptor.worker ∈ services.workers := one ▸ List.mem_singleton_self _
      have fits := ServiceCollection.mem_fitting.mpr ⟨(List.mem_filter.mp worker).1, rfl, rfl⟩
      exact new _ fits rfl

end Extends
end Services

namespace Services

section Accepted

variable {κ : Type} [DecidableEq κ] {services after : Services κ} {interfaceMap : InterfaceMap}
  {keyText : κ → String} {c : Registration κ}

theorem fitting_append_of_ne {added : Services κ} {serviceType : ServiceType} {serviceKey : Option κ}
    (h : ∀ d ∈ added, d.serviceType ≠ serviceType) :
    ServiceCollection.fitting (services ++ added) serviceType serviceKey =
      services.fitting serviceType serviceKey := by
  rw [ServiceCollection.fitting_append, ServiceCollection.fitting_eq_nil h, List.append_nil]

/-- No service of a registration is touched by what is shared. -/
theorem Extends.fitting {registers : List (Option κ × ServiceLifetime)} {hosted : Services κ}
    (h : Extends services registers hosted after) {serviceType : ServiceType}
    (type : serviceType = .rabbitMediator ∨ serviceType = .rabbitMediatorMultiplexer) (serviceKey : Option κ) :
    after.fitting serviceType serviceKey = services.fitting serviceType serviceKey := by
  obtain ⟨added, rfl, shared⟩ := h.added
  apply fitting_append_of_ne
  intro d hd same
  have := shared d hd
  rcases type with rfl | rfl <;> simp [Descriptor.isShared, same] at this

/-- The guard of `AddRabbitMediator` looks for a mediator that is resolved under the same key. -/
theorem guard_iff : (services.any fun sd => sd.serviceType = .rabbitMediator &&
    sd.isKeyedService = c.serviceKey.isSome &&
    (if sd.isKeyedService then sd.serviceKey else none) = c.serviceKey) = true ↔
      services.fitting .rabbitMediator c.serviceKey ≠ [] := by
  have nonempty : services.fitting .rabbitMediator c.serviceKey ≠ [] ↔
      ∃ d, d ∈ services.fitting .rabbitMediator c.serviceKey :=
    ⟨List.exists_mem_of_ne_nil _, fun ⟨_, hd⟩ => List.ne_nil_of_mem hd⟩
  rw [nonempty, List.any_eq_true]
  refine exists_congr fun d => ?_
  rw [ServiceCollection.mem_fitting]
  apply and_congr_right
  intro _
  simp only [Bool.and_eq_true, decide_eq_true_eq, and_assoc]
  apply and_congr_right
  intro _
  rw [ServiceDescriptor.isKeyedService]
  cases d.serviceKey with
  | none => cases c.serviceKey <;> simp
  | some key => cases c.serviceKey <;> simp

theorem addRabbitMediator_of_valid (valid : c.validate interfaceMap = .ok ())
    (new : services.fitting .rabbitMediator c.serviceKey = []) :
    services.addRabbitMediator interfaceMap keyText c = (addRabbitMediatorWorker (configure
      (services ++ [c.multiplexerDescriptor, c.instanceDescriptor]) (some (c.serviceKey, c.serviceLifetime))),
      .ok ()) := by
  unfold addRabbitMediator
  simp only [valid]
  rw [if_neg (fun h => guard_iff.mp h new)]

/-- A call that is rejected changes nothing. -/
theorem addRabbitMediator_cases (interfaceMap : InterfaceMap) (keyText : κ → String) (services : Services κ)
    (c : Registration κ) :
    c.validate interfaceMap = .ok () ∧ services.fitting .rabbitMediator c.serviceKey = [] ∨
      (¬ (c.validate interfaceMap = .ok () ∧ services.fitting .rabbitMediator c.serviceKey = [])) ∧
      ∃ e, services.addRabbitMediator interfaceMap keyText c = (services, .error e) := by
  by_cases h : c.validate interfaceMap = .ok () ∧ services.fitting .rabbitMediator c.serviceKey = []
  · exact Or.inl h
  · refine Or.inr ⟨h, ?_⟩
    unfold addRabbitMediator
    cases valid : c.validate interfaceMap with
    | error e => exact ⟨e, rfl⟩
    | ok u =>
      have taken : services.fitting .rabbitMediator c.serviceKey ≠ [] := fun new => h ⟨valid, new⟩
      simp only
      rw [if_pos (guard_iff.mpr taken)]
      exact ⟨_, rfl⟩

/-- An accepted call adds the two descriptors of its own and what is shared. -/
theorem extends_addRabbitMediator (valid : c.validate interfaceMap = .ok ())
    (new : services.fitting .rabbitMediator c.serviceKey = [])
    (unnamed : ∀ d ∈ services, d.serviceType ≠ .rabbitMediatorWorker)
    (workers : services.workers = [] ∨ services.workers = [Descriptor.worker]) :
    ∃ after hosted, services.addRabbitMediator interfaceMap keyText c = (after, .ok ()) ∧
      Extends (services ++ [c.multiplexerDescriptor, c.instanceDescriptor])
        [(c.serviceKey, c.serviceLifetime)] hosted after ∧ services.workers ++ hosted = [Descriptor.worker] := by
  rw [addRabbitMediator_of_valid valid new]
  generalize hm : services ++ [c.multiplexerDescriptor, c.instanceDescriptor] = middle
  have same : middle.workers = services.workers := by
    rw [← hm, workers_append]
    exact List.append_nil _
  have first := extends_configure middle (some (c.serviceKey, c.serviceLifetime))
  have second := first.trans (extends_configure _ none)
  obtain ⟨hosted, third, one⟩ := extends_addHostedService (by rw [second.workers, same]; simpa using workers)
  refine ⟨_, hosted, rfl, ?_, ?_⟩
  · unfold addRabbitMediatorWorker
    rw [if_pos]
    · exact second.trans third
    · -- nothing is registered under the worker's own type, so the guard never holds it back
      obtain ⟨added, ha, shared⟩ := first.added
      rw [ha, ← hm]
      refine List.all_eq_true.mpr fun d hd => decide_eq_true fun type => ?_
      rcases List.mem_append.mp hd with hd | hd
      · rcases List.mem_append.mp hd with hd | hd
        · exact unnamed d hd type
        · rcases List.mem_pair.mp hd with rfl | rfl <;> cases type
      · have := shared d hd
        simp [Descriptor.isShared, type] at this
  · rw [second.workers, same] at one
    simpa using one

end Accepted
end Services

/-- The prefetch window of an accepted configuration keeps every dispatcher busy. -/
theorem effectivePrefetchCount_of_validate {κ : Type} {interfaceMap : InterfaceMap} {c : Registration κ} (h : c.validate interfaceMap = .ok ()) :
    c.consumerDispatchConcurrency ≠ 0 ∧
      (c.effectivePrefetchCount = 0 ∨ c.consumerDispatchConcurrency ≤ c.effectivePrefetchCount) := by
  unfold RabbitMediatorSettings.validate at h
  split at h
  next => cases h
  next =>
    split at h
    next => cases h
    next some_ =>
      refine ⟨some_, ?_⟩
      split at h
      next => cases h
      next fits =>
        unfold Registration.effectivePrefetchCount
        cases prefetch : c.prefetchCount with
        | none => exact Or.inr (UInt16.le_refl _)
        | some p =>
          rw [prefetch] at fits
          by_cases zero : p = 0
          · exact Or.inl zero
          · right
            have positive : 0 < p := UInt16.pos_iff_ne_zero.mpr zero
            simpa [positive] using fits

section Separate

variable {κ : Type} [DecidableEq κ] {interfaceMap : InterfaceMap} {keyText : κ → String} {s : Setup κ}

/-- The services of the configurations accepted so far do not get in each other's way. -/
structure Separate (interfaceMap : InterfaceMap) (s : Setup κ) : Prop where
  valid : ∀ c ∈ s.accepted, c.validate interfaceMap = .ok ()
  keys : (s.accepted.map (·.serviceKey)).Nodup
  multiplexer : ∀ c ∈ s.accepted,
    s.services.fitting .rabbitMediatorMultiplexer c.serviceKey = [c.multiplexerDescriptor]
  mediator : ∀ c ∈ s.accepted, ∃ own, s.services.fitting .rabbitMediator c.serviceKey = c.instanceDescriptor :: own ∧
    ∀ d ∈ own, Descriptor.isOwn d = true
  multiplexers : ∀ d ∈ s.services, d.serviceType = .rabbitMediatorMultiplexer →
    ∃ c ∈ s.accepted, d.serviceKey = c.serviceKey
  mediators : ∀ d ∈ s.services, d.serviceType = .rabbitMediator →
    Descriptor.isOwn d = true ∨ ∃ c ∈ s.accepted, d.serviceKey = c.serviceKey
  unnamed : ∀ d ∈ s.services, d.serviceType ≠ .rabbitMediatorWorker
  registered : s.services.registeredMediators = s.accepted.map fun c => (c.serviceKey, c.serviceLifetime)
  workers : s.services.workers = if s.accepted.isEmpty then [] else [Descriptor.worker]

theorem Separate.none (interfaceMap : InterfaceMap) : Separate interfaceMap (⟨[], []⟩ : Setup κ) where
  valid := by simp
  keys := List.nodup_nil
  multiplexer := by simp
  mediator := by simp
  multiplexers := by simp
  mediators := by simp
  unnamed := by simp
  registered := rfl
  workers := rfl

theorem Separate.add (h : Separate interfaceMap s) {d : Descriptor κ} (own : d.isOwn = true) :
    Separate interfaceMap ⟨s.services ++ [d], s.accepted⟩ := by
  obtain ⟨⟨type, implementation⟩, notMultiplexer, notWorker⟩ := Descriptor.own_cases own
  refine ⟨h.valid, h.keys, fun c hc => ?_, fun c hc => ?_, fun e he type => ?_, fun e he type => ?_,
    fun e he => ?_, ?_, ?_⟩
  · rw [Services.fitting_append_of_ne (by simpa using notMultiplexer)]
    exact h.multiplexer c hc
  · obtain ⟨later, fits, all⟩ := h.mediator c hc
    refine ⟨later ++ ServiceCollection.fitting [d] .rabbitMediator c.serviceKey, ?_, fun e he => ?_⟩
    · rw [ServiceCollection.fitting_append, fits, List.cons_append]
    · rcases List.mem_append.mp he with he | he
      · exact all e he
      · exact List.mem_singleton.mp (ServiceCollection.mem_fitting.mp he).1 ▸ own
  · rcases List.mem_append.mp he with he | he
    · exact h.multiplexers e he type
    · exact absurd (List.mem_singleton.mp he ▸ type) notMultiplexer
  · rcases List.mem_append.mp he with he | he
    · exact h.mediators e he type
    · exact Or.inl (List.mem_singleton.mp he ▸ own)
  · rcases List.mem_append.mp he with he | he
    · exact h.unnamed e he
    · exact List.mem_singleton.mp he ▸ notWorker
  · have none : Services.registeredMediators [d] = [] := by
      simp [Services.registeredMediators, implementation, Implementation.registers]
    rw [Services.registeredMediators_append, none, List.append_nil]
    exact h.registered
  · have none : Services.workers [d] = [] := by simp [Services.workers, implementation, Implementation.type]
    rw [Services.workers_append, none, List.append_nil]
    exact h.workers

theorem Separate.accept (h : Separate interfaceMap s) {c : Registration κ} {after hosted : Services κ}
    (valid : c.validate interfaceMap = .ok ()) (new : s.services.fitting .rabbitMediator c.serviceKey = [])
    (extends_ : Services.Extends (s.services ++ [c.multiplexerDescriptor, c.instanceDescriptor])
      [(c.serviceKey, c.serviceLifetime)] hosted after)
    (one : s.services.workers ++ hosted = [Descriptor.worker]) :
    Separate interfaceMap ⟨after, s.accepted ++ [c]⟩ := by
  -- no configuration accepted before has the key, or its mediator would fit
  have other : ∀ e ∈ s.accepted, e.serviceKey ≠ c.serviceKey := by
    intro e he same
    obtain ⟨own, fits, _⟩ := h.mediator e he
    rw [same, new] at fits
    cases fits
  have unused : s.services.fitting .rabbitMediatorMultiplexer c.serviceKey = [] := by
    apply List.eq_nil_iff_forall_not_mem.mpr
    intro d hd
    obtain ⟨hd, type, key⟩ := ServiceCollection.mem_fitting.mp hd
    obtain ⟨e, he, same⟩ := h.multiplexers d hd type
    exact other e he (same.symm.trans key)
  have fitting (e : Registration κ) (he : e ∈ s.accepted) {type : ServiceType}
      (ht : type = .rabbitMediator ∨ type = .rabbitMediatorMultiplexer) :
      after.fitting type e.serviceKey = s.services.fitting type e.serviceKey := by
    rw [extends_.fitting ht, ServiceCollection.fitting_append]
    have key := (other e he).symm
    simp [ServiceCollection.fitting, ServiceDescriptor.isFor, Registration.multiplexerDescriptor,
      Registration.instanceDescriptor, key]
  obtain ⟨added, rest, shared⟩ := extends_.added
  have members (d : Descriptor κ) (hd : d ∈ after) : d ∈ s.services ∨ d = c.multiplexerDescriptor ∨
      d = c.instanceDescriptor ∨ d.isShared = true := by
    rw [rest] at hd
    rcases List.mem_append.mp hd with hd | hd
    · rcases List.mem_append.mp hd with hd | hd
      · exact Or.inl hd
      · exact Or.inr ((List.mem_pair.mp hd).imp_right Or.inl)
    · exact Or.inr (Or.inr (Or.inr (shared d hd)))
  refine ⟨fun e he => ?_, ?_, fun e he => ?_, fun e he => ?_, fun d hd type => ?_, fun d hd type => ?_,
    fun d hd type => ?_, ?_, ?_⟩
  · rcases List.mem_append.mp he with he | he
    · exact h.valid e he
    · exact List.mem_singleton.mp he ▸ valid
  · rw [List.map_append, List.map_singleton]
    refine List.nodup_append'.mpr ⟨h.keys, List.nodup_singleton _, fun key hk hc => ?_⟩
    obtain ⟨e, he, rfl⟩ := List.mem_map.mp hk
    exact other e he (List.mem_singleton.mp hc)
  · rcases List.mem_append.mp he with he | he
    · rw [fitting e he (Or.inr rfl)]
      exact h.multiplexer e he
    · rw [List.mem_singleton.mp he, extends_.fitting (Or.inr rfl), ServiceCollection.fitting_append, unused]
      simp [ServiceCollection.fitting, ServiceDescriptor.isFor, Registration.multiplexerDescriptor,
        Registration.instanceDescriptor]
  · rcases List.mem_append.mp he with he | he
    · rw [fitting e he (Or.inl rfl)]
      exact h.mediator e he
    · refine ⟨[], ?_, by simp⟩
      rw [List.mem_singleton.mp he, extends_.fitting (Or.inl rfl), ServiceCollection.fitting_append, new]
      simp [ServiceCollection.fitting, ServiceDescriptor.isFor, Registration.multiplexerDescriptor,
        Registration.instanceDescriptor]
  · rcases members d hd with hd | rfl | rfl | hd
    · obtain ⟨e, he, same⟩ := h.multiplexers d hd type
      exact ⟨e, List.mem_append_left _ he, same⟩
    · exact ⟨c, by simp, rfl⟩
    · cases type
    · simp [Descriptor.isShared, type] at hd
  · rcases members d hd with hd | rfl | rfl | hd
    · rcases h.mediators d hd type with own | ⟨e, he, same⟩
      · exact Or.inl own
      · exact Or.inr ⟨e, List.mem_append_left _ he, same⟩
    · cases type
    · exact Or.inr ⟨c, by simp, rfl⟩
    · simp [Descriptor.isShared, type] at hd
  · rcases members d hd with hd | rfl | rfl | hd
    · exact h.unnamed d hd type
    · cases type
    · cases type
    · simp [Descriptor.isShared, type] at hd
  · have none : Services.registeredMediators [c.multiplexerDescriptor, c.instanceDescriptor] = [] := rfl
    rw [extends_.registered, Services.registeredMediators_append, none, List.append_nil, h.registered,
      List.map_append]
    rfl
  · have none : Services.workers [c.multiplexerDescriptor, c.instanceDescriptor] = [] := rfl
    rw [extends_.workers, Services.workers_append, none, List.append_nil, one]
    simp

theorem Separate.apply (h : Separate interfaceMap s) (operation : ServiceOperation κ) :
    Separate interfaceMap (s.apply interfaceMap keyText operation) := by
  cases operation with
  | add d own => exact h.add own
  | addRabbitMediator c =>
    rcases Services.addRabbitMediator_cases interfaceMap keyText s.services c with
      ⟨valid, new⟩ | ⟨_, e, rejected⟩
    · have workers : s.services.workers = [] ∨ s.services.workers = [Descriptor.worker] := by
        rw [h.workers]
        cases s.accepted <;> simp
      obtain ⟨after, hosted, accepted, extends_, one⟩ : ∃ after hosted,
          s.services.addRabbitMediator interfaceMap keyText c = (after, .ok ()) ∧
          Services.Extends (s.services ++ [c.multiplexerDescriptor, c.instanceDescriptor])
            [(c.serviceKey, c.serviceLifetime)] hosted after ∧ s.services.workers ++ hosted = [Descriptor.worker] :=
        Services.extends_addRabbitMediator valid new h.unnamed workers
      rw [Setup.apply, accepted]
      exact h.accept valid new extends_ one
    · rw [Setup.apply, rejected]
      exact h

theorem separate_of (interfaceMap : InterfaceMap) (keyText : κ → String)
    (operations : List (ServiceOperation κ)) : Separate interfaceMap (Setup.of interfaceMap keyText operations) := by
  unfold Setup.of
  generalize hs : (⟨[], []⟩ : Setup κ) = s
  have start : Separate interfaceMap s := hs ▸ .none interfaceMap
  clear hs
  induction operations generalizing s with
  | nil => exact start
  | cons operation operations ih => exact ih _ (start.apply operation)

/-- What the container resolves under the key of an accepted configuration: the multiplexer made with this
configuration, and the mediator made with it unless the application has put one of its own in its place. -/
structure Resolves (services : Services κ) (c : Registration κ) : Prop where
  multiplexer : services.getService .rabbitMediatorMultiplexer c.serviceKey = some c.multiplexerDescriptor
  mediator : (∀ d ∈ services, Descriptor.isOwn d = true → d.isFor .rabbitMediator c.serviceKey = false) →
    services.getService .rabbitMediator c.serviceKey = some c.instanceDescriptor
  replaced : (∃ d ∈ services, Descriptor.isOwn d = true ∧ d.isFor .rabbitMediator c.serviceKey = true) →
    ∃ d ∈ services, Descriptor.isOwn d = true ∧ services.getService .rabbitMediator c.serviceKey = some d

theorem Separate.resolves (h : Separate interfaceMap s) {c : Registration κ} (hc : c ∈ s.accepted) :
    Resolves s.services c := by
  obtain ⟨own, fits, all⟩ := h.mediator c hc
  refine ⟨ServiceCollection.getService_of_single (h.multiplexer c hc), fun none => ?_, ?_⟩
  · rcases ServiceCollection.getService_of_cons fits with ⟨_, found⟩ | ⟨e, he, _⟩
    · exact found
    · have fit : e ∈ s.services.fitting .rabbitMediator c.serviceKey := fits ▸ List.mem_cons_of_mem _ he
      obtain ⟨mem, fit⟩ := List.mem_filter.mp fit
      rw [none e mem (all e he)] at fit
      cases fit
  · rintro ⟨d, hd, isOwn, fit⟩
    have fit : d ∈ c.instanceDescriptor :: own := fits ▸ List.mem_filter.mpr ⟨hd, fit⟩
    rcases ServiceCollection.getService_of_cons fits with ⟨rfl, _⟩ | ⟨e, he, found⟩
    · rw [List.mem_singleton.mp fit] at isOwn
      cases isOwn
    · have mem : e ∈ s.services.fitting .rabbitMediator c.serviceKey := fits ▸ List.mem_cons_of_mem _ he
      exact ⟨e, (List.mem_filter.mp mem).1, all e he, found⟩

/-- When the next call of `AddRabbitMediator` is accepted. -/
theorem Separate.accepts_iff (h : Separate interfaceMap s) (c : Registration κ) :
    (s.services.addRabbitMediator interfaceMap keyText c).2 = .ok () ↔
      c.validate interfaceMap = .ok () ∧ c.serviceKey ∉ s.accepted.map (·.serviceKey) ∧
        ∀ d ∈ s.services, Descriptor.isOwn d = true → d.isFor .rabbitMediator c.serviceKey = false := by
  have free : s.services.fitting .rabbitMediator c.serviceKey = [] ↔
      c.serviceKey ∉ s.accepted.map (·.serviceKey) ∧
        ∀ d ∈ s.services, Descriptor.isOwn d = true → d.isFor .rabbitMediator c.serviceKey = false := by
    constructor
    · intro new
      refine ⟨fun mem => ?_, fun d hd _ => ?_⟩
      · obtain ⟨e, he, same⟩ := List.mem_map.mp mem
        obtain ⟨own, fits, _⟩ := h.mediator e he
        rw [same, new] at fits
        cases fits
      · exact Bool.eq_false_iff.mpr (List.filter_eq_nil_iff.mp new d hd)
    · rintro ⟨unused, none⟩
      apply List.filter_eq_nil_iff.mpr
      intro d hd fit
      obtain ⟨type, key⟩ := ServiceDescriptor.isFor_iff.mp fit
      rcases h.mediators d hd type with own | ⟨e, he, same⟩
      · rw [none d hd own] at fit
        cases fit
      · exact unused (List.mem_map.mpr ⟨e, he, same.symm.trans key⟩)
  rw [← free]
  rcases Services.addRabbitMediator_cases interfaceMap keyText s.services c with ⟨valid, new⟩ | ⟨refused, e, rejected⟩
  · rw [Services.addRabbitMediator_of_valid valid new]
    exact iff_of_true rfl ⟨valid, new⟩
  · rw [rejected]
    exact iff_of_false (by simp) refused

/-- However often `AddRabbitMediator` is called, with the application's own services in between: every accepted
configuration has a key, or the lack of one, of its own, and under it the multiplexer made with it, whose
prefetch window keeps its dispatchers busy; the worker is hosted once and knows of each of them; and a call is
refused just when it is invalid or its key is taken, and then changes nothing. -/
theorem registrations_separate (interfaceMap : InterfaceMap) (keyText : κ → String)
    (operations : List (ServiceOperation κ)) :
    let s := Setup.of interfaceMap keyText operations
    (s.accepted.map (·.serviceKey)).Nodup ∧ (∀ c ∈ s.accepted, Resolves s.services c ∧
        c.consumerDispatchConcurrency ≠ 0 ∧
        (c.effectivePrefetchCount = 0 ∨ c.consumerDispatchConcurrency ≤ c.effectivePrefetchCount)) ∧
      s.services.registeredMediators = s.accepted.map (fun c => (c.serviceKey, c.serviceLifetime)) ∧
      s.services.workers = (if s.accepted.isEmpty then [] else [Descriptor.worker]) ∧
      ∀ c, let call := s.services.addRabbitMediator interfaceMap keyText c
        (call.2 = .ok () ↔ c.validate interfaceMap = .ok () ∧ c.serviceKey ∉ s.accepted.map (·.serviceKey) ∧
          ∀ d ∈ s.services, Descriptor.isOwn d = true → d.isFor .rabbitMediator c.serviceKey = false) ∧
        (call.2 ≠ .ok () → call.1 = s.services) := by
  intro s
  have h : Separate interfaceMap s := separate_of interfaceMap keyText operations
  refine ⟨h.keys, fun c hc => ⟨h.resolves hc, effectivePrefetchCount_of_validate (h.valid c hc)⟩, h.registered,
    h.workers, fun c => ⟨h.accepts_iff c, fun refused => ?_⟩⟩
  rcases Services.addRabbitMediator_cases interfaceMap keyText s.services c with ⟨valid, new⟩ | ⟨_, e, rejected⟩
  · rw [Services.addRabbitMediator_of_valid valid new] at refused
    exact absurd rfl refused
  · rw [rejected]

end Separate
end RabbitMediator
