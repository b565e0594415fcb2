import Mathlib.Data.List.Perm.Basic
import RabbitMediator.Channel
import RabbitMediator.Registration
import RabbitMediator.Resolution

namespace RabbitMediator

/-- A mediator that the factory of a configuration has made, with the configuration its multiplexer was made with. -/
structure MadeMediator (κ : Type) where
  configuration : Registration κ
  multiplexer : Registration κ

/-- What the root provider has made. A configuration has at most one multiplexer there; mediators are numbered
as they are made, and `held` are the configurations whose mediator was returned and is kept. -/
structure HostState (κ : Type) where
  multiplexers : List (Registration κ)
  mediators : List (MadeMediator κ)
  held : List (Registration κ)
  pleaseConfigureMultiplexers : Channel (Registration κ)
  pleaseConfigureMediators : Channel Nat

/-- What code outside decides: whether the constructor of a multiplexer accepts the connection string, whether a
mediator is ready within its `WaitReadyTimeOut`, whether the application's own mediator can be made, and whether
the host validates scopes. -/
structure HostEnvironment (κ : Type) where
  interfaceMap : InterfaceMap
  makes : Registration κ → Except Exception Unit
  ready : Nat → Bool
  application : Option κ → Except Exception Unit
  validateScopes : Bool

def noService (type : String) : Exception :=
  .new .invalidOperation ("No service for type 'Weltmeyer.RabbitMediator." ++ type ++ "' has been registered.")

def scopedFromRoot : Exception :=
  .new .invalidOperation ("Cannot resolve scoped service 'Weltmeyer.RabbitMediator.IRabbitMediator' from root provider.")

deriving instance DecidableEq for RabbitMediatorSettings
deriving instance DecidableEq for Registration

namespace HostState

variable {κ : Type} [DecidableEq κ]

def initial : HostState κ := ⟨[], [], [], .createUnbounded, .createUnbounded⟩

/-- The factory of a multiplexer's descriptor. -/
def makeMultiplexer (env : HostEnvironment κ) (s : HostState κ) (c : Registration κ) :
    HostState κ × Except Exception (Registration κ) :=
  match env.makes c with
  | .error e => (s, .error e)
  | .ok _ => ({ s with
      multiplexers := s.multiplexers ++ [c]
      pleaseConfigureMultiplexers := s.pleaseConfigureMultiplexers.tryWrite c }, .ok c)

/-- `GetRequiredService<RabbitMediatorMultiplexer>`, or `GetRequiredKeyedService`. -/
def getMultiplexer (env : HostEnvironment κ) (services : Services κ) (s : HostState κ) (key : Option κ) :
    HostState κ × Except Exception (Registration κ) :=
  match (services.getService .rabbitMediatorMultiplexer key).map ServiceDescriptor.implementation with
  | some (.multiplexer c) => if s.multiplexers.contains c then (s, .ok c) else s.makeMultiplexer env c
  | _ => (s, .error (noService "RabbitMediatorMultiplexer"))

/-- The factory of a mediator's descriptor, after it has its multiplexer. -/
def makeMediator (env : HostEnvironment κ) (s : HostState κ) (c multiplexer : Registration κ) :
    HostState κ × Except Exception Unit :=
  match c.validate env.interfaceMap with
  | .error e => (s, .error e)
  | .ok _ =>
    let made := { s with
      mediators := s.mediators ++ [⟨c, multiplexer⟩]
      pleaseConfigureMediators := s.pleaseConfigureMediators.tryWrite s.mediators.length }
    if env.ready s.mediators.length then ({ made with held := made.held ++ [c] }, .ok ())
    else (made, .error notReady)

/-- `GetRequiredService<IRabbitMediator>`, or `GetRequiredKeyedService`, of the root provider. -/
def getMediator (env : HostEnvironment κ) (services : Services κ) (s : HostState κ) (key : Option κ) :
    HostState κ × Except Exception Unit :=
  match (services.getService .rabbitMediator key).map ServiceDescriptor.implementation with
  | some (.mediator c) =>
    if c.serviceLifetime ≠ .singleton && env.validateScopes then (s, .error scopedFromRoot)
    else if s.held.contains c then (s, .ok ())
    else
      match s.getMultiplexer env services key with
      | (s, .ok multiplexer) => s.makeMediator env c multiplexer
      | (s, .error e) => (s, .error e)
  | some (.application _) => (s, env.application key)
  | _ => (s, .error (noService "IRabbitMediator"))

/-- What the application resolves by itself, whether that fails or not. -/
def resolves (env : HostEnvironment κ) (services : Services κ) (s : HostState κ) (keys : List (Option κ)) :
    HostState κ :=
  keys.foldl (fun s key => (s.getMediator env services key).1) s

/-- The loop of `StartingAsync` over the registered mediators, in the order in which the bag has them. -/
def startingAsync (env : HostEnvironment κ) (services : Services κ) (s : HostState κ) :
    List (Option κ × ServiceLifetime) → HostState κ × Except Exception Unit
  | [] => (s, .ok ())
  | (serviceKey, lifetime) :: registered =>
    if lifetime ≠ .singleton then s.startingAsync env services registered
    else
      match s.getMediator env services serviceKey with
      | (s, .ok _) => s.startingAsync env services registered
      | (s, .error _) => s.startingAsync env services registered

end HostState

section Resolving

variable {κ : Type} [DecidableEq κ] {env : HostEnvironment κ} {setup : Setup κ} {s : HostState κ}

/-- The application has put a mediator of its own in the place of this configuration's. -/
def Replaced (services : Services κ) (c : Registration κ) : Prop :=
  ∃ d ∈ services, Descriptor.isOwn d = true ∧ d.isFor .rabbitMediator c.serviceKey = true

/-- The next resolution under the key of `c` makes a mediator, and hands it to the worker. -/
structure Makes (env : HostEnvironment κ) (services : Services κ) (s : HostState κ) (c : Registration κ) : Prop where
  free : ¬ Replaced services c
  root : c.serviceLifetime = .singleton ∨ env.validateScopes = false
  new : c ∉ s.held
  multiplexer : env.makes c = .ok ()

/-- The provider after a mediator was made for `c`, with its multiplexer if that is the first time. -/
def HostState.withMediator (env : HostEnvironment κ) (s : HostState κ) (c : Registration κ) : HostState κ where
  multiplexers := if c ∈ s.multiplexers then s.multiplexers else s.multiplexers ++ [c]
  mediators := s.mediators ++ [⟨c, c⟩]
  held := if env.ready s.mediators.length then s.held ++ [c] else s.held
  pleaseConfigureMultiplexers :=
    if c ∈ s.multiplexers then s.pleaseConfigureMultiplexers else s.pleaseConfigureMultiplexers.tryWrite c
  pleaseConfigureMediators := s.pleaseConfigureMediators.tryWrite s.mediators.length

/-- What the provider has made belongs to accepted configurations, each mediator to the multiplexer made with its
own configuration, and the worker was given all of it. -/
structure HandedOver (env : HostEnvironment κ) (setup : Setup κ) (s : HostState κ) : Prop where
  accepted : ∀ c ∈ s.multiplexers, c ∈ setup.accepted ∧ env.makes c = .ok ()
  once : s.multiplexers.Nodup
  own : ∀ m ∈ s.mediators, m.multiplexer = m.configuration ∧ m.configuration ∈ s.multiplexers
  multiplexers : s.pleaseConfigureMultiplexers = ⟨s.multiplexers, 0, false⟩
  mediators : s.pleaseConfigureMediators = ⟨List.range s.mediators.length, 0, false⟩

omit [DecidableEq κ] in
theorem handedOver_initial (env : HostEnvironment κ) (setup : Setup κ) : HandedOver env setup .initial where
  accepted := by simp [HostState.initial]
  once := List.nodup_nil
  own := by simp [HostState.initial]
  multiplexers := rfl
  mediators := rfl

theorem HandedOver.withMediator (h : HandedOver env setup s) {c : Registration κ} (hc : c ∈ setup.accepted)
    (makes : env.makes c = .ok ()) : HandedOver env setup (s.withMediator env c) := by
  have members (e : Registration κ) : e ∈ (s.withMediator env c).multiplexers ↔ e ∈ s.multiplexers ∨ e = c := by
    unfold HostState.withMediator
    by_cases mem : c ∈ s.multiplexers
    · simp only [if_pos mem]
      exact ⟨Or.inl, fun he => he.elim id fun same => same ▸ mem⟩
    · simp [if_neg mem]
  refine ⟨fun e he => ?_, ?_, fun m hm => ?_, ?_, ?_⟩
  · rcases (members e).mp he with he | rfl
    · exact h.accepted e he
    · exact ⟨hc, makes⟩
  · unfold HostState.withMediator
    by_cases mem : c ∈ s.multiplexers
    · simp only [if_pos mem]
      exact h.once
    · simp only [if_neg mem]
      exact List.nodup_append'.mpr ⟨h.once, List.nodup_singleton c, by simpa using mem⟩
  · rcases List.mem_append.mp hm with hm | hm
    · obtain ⟨own, mem⟩ := h.own m hm
      exact ⟨own, (members _).mpr (Or.inl mem)⟩
    · rw [List.mem_singleton.mp hm]
      exact ⟨rfl, (members _).mpr (Or.inr rfl)⟩
  · by_cases mem : c ∈ s.multiplexers
    · simp [HostState.withMediator, mem, h.multiplexers]
    · simp [HostState.withMediator, mem, h.multiplexers, Channel.tryWrite]
  · simp [HostState.withMediator, h.mediators, Channel.tryWrite, List.range_succ]

theorem implementation_of_accepted (separate : Separate env.interfaceMap setup) {c : Registration κ}
    (hc : c ∈ setup.accepted) (free : ¬ Replaced setup.services c) :
    (setup.services.getService .rabbitMediator c.serviceKey).map ServiceDescriptor.implementation =
      some (.mediator c) := by
  have found := (separate.resolves hc).mediator fun d hd own =>
    Bool.eq_false_iff.mpr fun fit => free ⟨d, hd, own, fit⟩
  rw [found]
  rfl

theorem getMultiplexer_of_accepted (separate : Separate env.interfaceMap setup) (h : HandedOver env setup s)
    {c : Registration κ} (hc : c ∈ setup.accepted) :
    env.makes c = .ok () ∧ s.getMultiplexer env setup.services c.serviceKey = ({ s with
      multiplexers := (s.withMediator env c).multiplexers
      pleaseConfigureMultiplexers := (s.withMediator env c).pleaseConfigureMultiplexers }, .ok c) ∨
    env.makes c ≠ .ok () ∧ ∃ e, s.getMultiplexer env setup.services c.serviceKey = (s, .error e) := by
  have found : (setup.services.getService .rabbitMediatorMultiplexer c.serviceKey).map
      ServiceDescriptor.implementation = some (.multiplexer c) := by
    rw [(separate.resolves hc).multiplexer]
    rfl
  simp only [HostState.getMultiplexer, found, List.contains_eq_mem, decide_eq_true_eq, HostState.withMediator]
  by_cases mem : c ∈ s.multiplexers
  · left
    simp only [if_pos mem]
    exact ⟨(h.accepted c mem).2, trivial⟩
  · simp only [if_neg mem, HostState.makeMultiplexer]
    cases makes : env.makes c with
    | error e => exact Or.inr ⟨by simp, e, rfl⟩
    | ok u => exact Or.inl ⟨rfl, rfl⟩

/-- What one resolution under the key of an accepted configuration does. -/
theorem getMediator_of_accepted (separate : Separate env.interfaceMap setup) (h : HandedOver env setup s)
    {c : Registration κ} (hc : c ∈ setup.accepted) :
    Makes env setup.services s c ∧
        (s.getMediator env setup.services c.serviceKey).1 = s.withMediator env c ∨
      ¬ Makes env setup.services s c ∧ (s.getMediator env setup.services c.serviceKey).1 = s := by
  by_cases replaced : Replaced setup.services c
  · right
    refine ⟨fun makes => makes.free replaced, ?_⟩
    obtain ⟨d, _, own, found⟩ := (separate.resolves hc).replaced replaced
    obtain ⟨⟨type, implementation⟩, _, _⟩ := Descriptor.own_cases own
    simp [HostState.getMediator, found, implementation]
  · simp only [HostState.getMediator, implementation_of_accepted separate hc replaced, List.contains_eq_mem,
      decide_eq_true_eq]
    by_cases root : c.serviceLifetime = .singleton ∨ env.validateScopes = false
    · have goes : ¬ (decide (c.serviceLifetime ≠ .singleton) && env.validateScopes) = true := by
        rcases root with root | root <;> simp [root]
      rw [if_neg goes]
      by_cases held : c ∈ s.held
      · rw [if_pos held]
        exact Or.inr ⟨fun makes => makes.new held, rfl⟩
      · rw [if_neg held]
        rcases getMultiplexer_of_accepted separate h hc with ⟨makes, get⟩ | ⟨fails, e, get⟩
        · left
          refine ⟨⟨replaced, root, held, makes⟩, ?_⟩
          simp only [get, HostState.makeMediator, separate.valid c hc, HostState.withMediator]
          cases env.ready s.mediators.length <;> rfl
        · rw [get]
          exact Or.inr ⟨fun makes => fails makes.multiplexer, rfl⟩
    · right
      refine ⟨fun makes => root makes.root, ?_⟩
      obtain ⟨notSingleton, validates⟩ := not_or.mp root
      simp [notSingleton, validates]

/-- Under any other key there is at most a mediator of the application's own. -/
theorem getMediator_of_foreign (separate : Separate env.interfaceMap setup) {key : Option κ}
    (foreign : ∀ c ∈ setup.accepted, c.serviceKey ≠ key) : (s.getMediator env setup.services key).1 = s := by
  unfold HostState.getMediator
  cases found : setup.services.getService .rabbitMediator key with
  | none => rfl
  | some d =>
    obtain ⟨hd, type, same⟩ := ServiceCollection.mem_fitting.mp (List.mem_of_getLast? found)
    rcases separate.mediators d hd type with own | ⟨c, hc, key⟩
    · obtain ⟨⟨type, implementation⟩, _, _⟩ := Descriptor.own_cases own
      simp [implementation]
    · exact absurd (key.symm.trans same) (foreign c hc)

theorem HandedOver.getMediator (separate : Separate env.interfaceMap setup) (h : HandedOver env setup s)
    (key : Option κ) : HandedOver env setup (s.getMediator env setup.services key).1 := by
  by_cases hk : ∃ c ∈ setup.accepted, c.serviceKey = key
  · obtain ⟨c, hc, rfl⟩ := hk
    rcases getMediator_of_accepted separate h hc with ⟨makes, same⟩ | ⟨_, same⟩
    · rw [same]
      exact h.withMediator hc makes.multiplexer
    · rw [same]
      exact h
  · rw [getMediator_of_foreign separate fun c hc same => hk ⟨c, hc, same⟩]
    exact h

theorem HandedOver.resolves (separate : Separate env.interfaceMap setup) (h : HandedOver env setup s)
    (keys : List (Option κ)) : HandedOver env setup (s.resolves env setup.services keys) := by
  induction keys generalizing s with
  | nil => exact h
  | cons key keys ih => exact ih (h.getMediator separate key)

/-- What the loop of `StartingAsync` over these configurations has done: it has made a mediator for those of
`started`, in this order, and the provider keeps the ones that were ready. -/
structure Starts (env : HostEnvironment κ) (services : Services κ) (s : HostState κ)
    (registered started : List (Registration κ)) (after : HostState κ) : Prop where
  members : ∀ c, c ∈ started ↔ c ∈ registered ∧ c.serviceLifetime = .singleton ∧ Makes env services s c
  order : started.Sublist registered
  mediators : after.mediators = s.mediators ++ started.map fun c => ⟨c, c⟩
  held : ∀ c, c ∈ after.held ↔ c ∈ s.held ∨
    ∃ n, started[n]? = some c ∧ env.ready (s.mediators.length + n) = true

theorem Starts.skip {registered started : List (Registration κ)} {after : HostState κ} {c : Registration κ}
    (starts : Starts env setup.services s registered started after)
    (no : c.serviceLifetime = .singleton → ¬ Makes env setup.services s c) :
    Starts env setup.services s (c :: registered) started after := by
  refine ⟨fun e => ?_, starts.order.cons c, starts.mediators, starts.held⟩
  rw [starts.members, List.mem_cons]
  by_cases he : e = c
  · subst he
    exact iff_of_false (fun h => no h.2.1 h.2.2) (fun h => no h.2.1 h.2.2)
  · simp [he]

/-- A mediator made for one configuration changes nothing for another. -/
theorem makes_withMediator_iff {c e : Registration κ} (h : e ≠ c) :
    Makes env setup.services (s.withMediator env c) e ↔ Makes env setup.services s e := by
  have held : e ∈ (s.withMediator env c).held ↔ e ∈ s.held := by
    unfold HostState.withMediator
    cases env.ready s.mediators.length <;> simp [h]
  exact ⟨fun m => ⟨m.free, m.root, fun mem => m.new (held.mpr mem), m.multiplexer⟩,
    fun m => ⟨m.free, m.root, fun mem => m.new (held.mp mem), m.multiplexer⟩⟩

theorem mem_held_withMediator {c e : Registration κ} :
    e ∈ (s.withMediator env c).held ↔ e ∈ s.held ∨ e = c ∧ env.ready s.mediators.length = true := by
  unfold HostState.withMediator
  cases env.ready s.mediators.length <;> simp

theorem Starts.make {registered started : List (Registration κ)} {after : HostState κ} {c : Registration κ}
    (starts : Starts env setup.services (s.withMediator env c) registered started after)
    (singleton : c.serviceLifetime = .singleton) (makes : Makes env setup.services s c)
    (other : ∀ e ∈ registered, e ≠ c) :
    Starts env setup.services s (c :: registered) (c :: started) after := by
  refine ⟨fun e => ?_, starts.order.cons_cons c, ?_, fun e => ?_⟩
  · rw [List.mem_cons, List.mem_cons, starts.members]
    by_cases he : e = c
    · subst he
      exact iff_of_true (Or.inl rfl) ⟨Or.inl rfl, singleton, makes⟩
    · simp [he, makes_withMediator_iff he]
  · rw [starts.mediators]
    simp [HostState.withMediator]
  · have shift (n : Nat) : (s.withMediator env c).mediators.length + n = s.mediators.length + (n + 1) := by
      simp only [HostState.withMediator, List.length_append, List.length_singleton]
      omega
    rw [starts.held, mem_held_withMediator, or_assoc]
    apply or_congr_right
    constructor
    · rintro (⟨rfl, ready⟩ | ⟨n, at_, ready⟩)
      · exact ⟨0, rfl, ready⟩
      · exact ⟨n + 1, at_, shift n ▸ ready⟩
    · rintro ⟨n, at_, ready⟩
      cases n with
      | zero => exact Or.inl ⟨(Option.some.inj at_).symm, ready⟩
      | succ n => exact Or.inr ⟨n, at_, (shift n).symm ▸ ready⟩

/-- A mediator that fails keeps the loop from nothing. -/
theorem startingAsync_cons {key : Option κ} (registered : List (Option κ × ServiceLifetime)) :
    s.startingAsync env setup.services ((key, .singleton) :: registered) =
      (s.getMediator env setup.services key).1.startingAsync env setup.services registered := by
  rw [HostState.startingAsync, if_neg (by simp)]
  cases s.getMediator env setup.services key with
  | mk after result => cases result <;> rfl

theorem starts_startingAsync (separate : Separate env.interfaceMap setup) (h : HandedOver env setup s)
    {registered : List (Registration κ)} (listed : ∀ c ∈ registered, c ∈ setup.accepted)
    (distinct : (registered.map (·.serviceKey)).Nodup) :
    ∃ after started, s.startingAsync env setup.services
        (registered.map fun c => (c.serviceKey, c.serviceLifetime)) = (after, .ok ()) ∧
      HandedOver env setup after ∧ Starts env setup.services s registered started after := by
  induction registered generalizing s with
  | nil => exact ⟨s, [], rfl, h, ⟨by simp, .refl _, by simp, by simp⟩⟩
  | cons c registered ih =>
    have hc := listed c List.mem_cons_self
    have listed' : ∀ e ∈ registered, e ∈ setup.accepted := fun e he => listed e (List.mem_cons_of_mem _ he)
    rw [List.map_cons, List.nodup_cons] at distinct
    obtain ⟨new, distinct⟩ := distinct
    have other : ∀ e ∈ registered, e ≠ c := fun e he same => new (List.mem_map.mpr ⟨e, he, same ▸ rfl⟩)
    rw [List.map_cons]
    by_cases singleton : c.serviceLifetime = .singleton
    · rw [singleton, startingAsync_cons]
      rcases getMediator_of_accepted separate h hc with ⟨makes, same⟩ | ⟨no, same⟩
      · rw [same]
        obtain ⟨after, started, run, handed, starts⟩ := ih (h.withMediator hc makes.multiplexer) listed' distinct
        exact ⟨after, c :: started, run, handed, starts.make singleton makes other⟩
      · rw [same]
        obtain ⟨after, started, run, handed, starts⟩ := ih h listed' distinct
        exact ⟨after, started, run, handed, starts.skip fun _ => no⟩
    · obtain ⟨after, started, run, handed, starts⟩ := ih h listed' distinct
      refine ⟨after, started, ?_, handed, starts.skip fun h => absurd h singleton⟩
      rw [HostState.startingAsync, if_pos singleton]
      exact run

/-- The start of the host, after the application has registered what it likes and resolved what it likes from the
root provider, and in whatever order the bag has the mediators: it completes, whichever of them fail. It makes a
mediator, once, for just those singletons that are not there yet, that the application has not replaced and whose
multiplexer can be made; and the worker is given every multiplexer and every mediator once. -/
theorem host_starts (env : HostEnvironment κ) (keyText : κ → String) (operations : List (ServiceOperation κ))
    (keys : List (Option κ)) {order : List (Option κ × ServiceLifetime)}
    (bag : order.Perm (Setup.of env.interfaceMap keyText operations).services.registeredMediators) :
    let setup := Setup.of env.interfaceMap keyText operations
    let s := HostState.initial.resolves env setup.services keys
    ∃ (after : HostState κ) (started : List (Registration κ)),
      s.startingAsync env setup.services order = (after, .ok ()) ∧ HandedOver env setup after ∧ started.Nodup ∧
      (∀ c, c ∈ started ↔ c ∈ setup.accepted ∧ c.serviceLifetime = .singleton ∧ Makes env setup.services s c) ∧
      after.mediators = s.mediators ++ started.map (fun c => ⟨c, c⟩) ∧
      ∀ c, c ∈ after.held ↔ c ∈ s.held ∨
        ∃ n, started[n]? = some c ∧ env.ready (s.mediators.length + n) = true := by
  intro setup s
  have separate : Separate env.interfaceMap setup := separate_of env.interfaceMap keyText operations
  have handed : HandedOver env setup s := (handedOver_initial env setup).resolves separate keys
  rw [separate.registered] at bag
  -- the bag holds the accepted configurations, in some order
  obtain ⟨registered, rfl, perm⟩ :=
    (congrFun₂ (List.eq_map_comp_perm fun c : Registration κ => (c.serviceKey, c.serviceLifetime)) order
      setup.accepted).mpr bag
  have distinct : (registered.map (·.serviceKey)).Nodup := (perm.map _).nodup_iff.mpr separate.keys
  obtain ⟨after, started, run, handed, starts⟩ :=
    starts_startingAsync separate handed (fun c hc => perm.mem_iff.mp hc) distinct
  refine ⟨after, started, run, handed, distinct.of_map.sublist starts.order, fun c => ?_, starts.mediators,
    starts.held⟩
  rw [starts.members, perm.mem_iff]

/-- Three mediators under keys of their own and one without, of which one lives in scopes. -/
def testOperations : List (ServiceOperation String) :=
  [.addRabbitMediator ⟨testSettings, some "first", some "amqp://localhost"⟩,
    .addRabbitMediator ⟨{ testSettings with serviceLifetime := .scoped }, none, some "amqp://localhost"⟩,
    .add ⟨.hostedService, none, .application 0, .singleton⟩ rfl,
    .addRabbitMediator ⟨testSettings, some "second", none⟩,
    .addRabbitMediator ⟨testSettings, some "third", some "amqp://localhost"⟩]

/-- A multiplexer needs a connection string; the second mediator that is made is not ready in time. -/
def testHostEnvironment : HostEnvironment String where
  interfaceMap := testInterfaceMap
  makes c := if c.connectionString.isSome then .ok () else .error (.new .argument "connectionString")
  ready n := n ≠ 1
  application _ := .ok ()
  validateScopes := true

/-- What the application resolves before the start. -/
def testResolved : HostState String :=
  HostState.initial.resolves testHostEnvironment (Setup.of testInterfaceMap id testOperations).services
    [some "third", none, some "first"]

/-- The provider has kept the third mediator only, and the start makes the first one again. -/
theorem testOperations_start :
    let setup := Setup.of testInterfaceMap id testOperations
    testResolved.mediators.length = 2 ∧ testResolved.held.map (·.serviceKey) = [some "third"] ∧
    ∃ (after : HostState String) (started : List (Registration String)),
      testResolved.startingAsync testHostEnvironment setup.services
        setup.services.registeredMediators.reverse = (after, .ok ()) ∧
      HandedOver testHostEnvironment setup after ∧ started.Nodup ∧
      (∀ c, c ∈ started ↔ c ∈ setup.accepted ∧ c.serviceLifetime = .singleton ∧
        Makes testHostEnvironment setup.services testResolved c) ∧
      after.mediators = testResolved.mediators ++ started.map (fun c => ⟨c, c⟩) ∧
      started.map (·.serviceKey) = [some "first"] := by
  intro setup
  have count : (testResolved.startingAsync testHostEnvironment setup.services
      setup.services.registeredMediators.reverse).1.mediators.map (·.configuration.serviceKey) =
    testResolved.mediators.map (·.configuration.serviceKey) ++ [some "first"] := by decide +kernel
  obtain ⟨after, started, run, handed, distinct, members, mediators, _⟩ :=
    host_starts testHostEnvironment id testOperations [some "third", none, some "first"] (List.reverse_perm _)
  refine ⟨by decide +kernel, by decide +kernel, after, started, run, handed, distinct, members, mediators, ?_⟩
  change testResolved.startingAsync testHostEnvironment setup.services
    setup.services.registeredMediators.reverse = (after, .ok ()) at run
  change after.mediators = testResolved.mediators ++ started.map (fun c => ⟨c, c⟩) at mediators
  rw [run, mediators, List.map_append] at count
  simpa using List.append_cancel_left count

end Resolving
end RabbitMediator
