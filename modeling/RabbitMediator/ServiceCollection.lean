import Mathlib.Data.List.Basic

/-- A descriptor of a service as a container for dependency injection has it: a keyed one has a key. -/
structure ServiceDescriptor (σ κ φ ℓ : Type) where
  serviceType : σ
  serviceKey : Option κ
  implementation : φ
  lifetime : ℓ
deriving DecidableEq

namespace ServiceDescriptor

variable {σ κ φ ℓ : Type} [DecidableEq σ] [DecidableEq κ]

def isKeyedService (d : ServiceDescriptor σ κ φ ℓ) : Bool := d.serviceKey.isSome

/-- The descriptor is for this type and this key, or for no key. -/
def isFor (d : ServiceDescriptor σ κ φ ℓ) (serviceType : σ) (serviceKey : Option κ) : Bool :=
  d.serviceType = serviceType && d.serviceKey = serviceKey

theorem isFor_iff {d : ServiceDescriptor σ κ φ ℓ} {serviceType : σ} {serviceKey : Option κ} :
    d.isFor serviceType serviceKey = true ↔ d.serviceType = serviceType ∧ d.serviceKey = serviceKey := by
  simp [isFor]

end ServiceDescriptor

/-- The descriptors in the order they were added. -/
abbrev ServiceCollection (σ κ φ ℓ : Type) := List (ServiceDescriptor σ κ φ ℓ)

namespace ServiceCollection

variable {σ κ φ ℓ : Type} [DecidableEq σ] [DecidableEq κ]

/-- The descriptors that fit, in the order they were added. -/
def fitting (services : ServiceCollection σ κ φ ℓ) (serviceType : σ) (serviceKey : Option κ) :
    ServiceCollection σ κ φ ℓ :=
  services.filter (·.isFor serviceType serviceKey)

/-- The descriptor that `GetService` or `GetKeyedService` uses: the last one that fits. -/
def getService (services : ServiceCollection σ κ φ ℓ) (serviceType : σ) (serviceKey : Option κ) :
    Option (ServiceDescriptor σ κ φ ℓ) :=
  (services.fitting serviceType serviceKey).getLast?

/-- `TryAdd`: a service that has a descriptor gets no second one. -/
def tryAdd (services : ServiceCollection σ κ φ ℓ) (d : ServiceDescriptor σ κ φ ℓ) :
    ServiceCollection σ κ φ ℓ :=
  if services.any (·.isFor d.serviceType d.serviceKey) then services else services ++ [d]

/-- `TryAddEnumerable`: a service gets each type of implementation once. -/
def tryAddEnumerable {τ : Type} [DecidableEq τ] (implementationType : φ → τ)
    (services : ServiceCollection σ κ φ ℓ) (d : ServiceDescriptor σ κ φ ℓ) : ServiceCollection σ κ φ ℓ :=
  if services.any fun e => e.isFor d.serviceType d.serviceKey &&
    implementationType e.implementation = implementationType d.implementation then services
  else services ++ [d]

theorem fitting_append (services more : ServiceCollection σ κ φ ℓ) (serviceType : σ) (serviceKey : Option κ) :
    fitting (services ++ more) serviceType serviceKey =
      services.fitting serviceType serviceKey ++ fitting more serviceType serviceKey :=
  List.filter_append ..

theorem mem_fitting {services : ServiceCollection σ κ φ ℓ} {serviceType : σ} {serviceKey : Option κ}
    {d : ServiceDescriptor σ κ φ ℓ} :
    d ∈ services.fitting serviceType serviceKey ↔
      d ∈ services ∧ d.serviceType = serviceType ∧ d.serviceKey = serviceKey := by
  rw [fitting, List.mem_filter, ServiceDescriptor.isFor_iff]

theorem fitting_eq_nil {services : ServiceCollection σ κ φ ℓ} {serviceType : σ} {serviceKey : Option κ}
    (h : ∀ d ∈ services, d.serviceType ≠ serviceType) : services.fitting serviceType serviceKey = [] := by
  apply List.eq_nil_iff_forall_not_mem.mpr
  intro d hd
  obtain ⟨hd, type, _⟩ := mem_fitting.mp hd
  exact h d hd type

/-- A service with one descriptor is resolved with it. -/
theorem getService_of_single {services : ServiceCollection σ κ φ ℓ} {serviceType : σ} {serviceKey : Option κ}
    {d : ServiceDescriptor σ κ φ ℓ} (h : services.fitting serviceType serviceKey = [d]) :
    services.getService serviceType serviceKey = some d := by
  rw [getService, h]
  rfl

/-- A service is resolved with its first descriptor, or with a later one. -/
theorem getService_of_cons {services later : ServiceCollection σ κ φ ℓ} {serviceType : σ} {serviceKey : Option κ}
    {d : ServiceDescriptor σ κ φ ℓ} (h : services.fitting serviceType serviceKey = d :: later) :
    later = [] ∧ services.getService serviceType serviceKey = some d ∨
      ∃ e ∈ later, services.getService serviceType serviceKey = some e := by
  rw [getService, h]
  cases later with
  | nil => exact Or.inl ⟨rfl, rfl⟩
  | cons e later =>
    right
    refine ⟨(e :: later).getLast (List.cons_ne_nil e later), List.getLast_mem _, ?_⟩
    rw [List.getLast?_cons_cons]
    exact List.getLast?_eq_some_getLast (List.cons_ne_nil e later)

theorem tryAdd_cases (services : ServiceCollection σ κ φ ℓ) (d : ServiceDescriptor σ κ φ ℓ) :
    services.tryAdd d = services ∨ services.tryAdd d = services ++ [d] := by
  unfold tryAdd
  split
  · exact Or.inl rfl
  · exact Or.inr rfl

theorem tryAddEnumerable_cases {τ : Type} [DecidableEq τ] (implementationType : φ → τ)
    (services : ServiceCollection σ κ φ ℓ) (d : ServiceDescriptor σ κ φ ℓ) :
    services.tryAddEnumerable implementationType d = services ∧
      (∃ e ∈ services.fitting d.serviceType d.serviceKey,
        implementationType e.implementation = implementationType d.implementation) ∨
    services.tryAddEnumerable implementationType d = services ++ [d] ∧
      ∀ e ∈ services.fitting d.serviceType d.serviceKey,
        implementationType e.implementation ≠ implementationType d.implementation := by
  unfold tryAddEnumerable
  split
  next h =>
    obtain ⟨e, he, fits⟩ := List.any_eq_true.mp h
    obtain ⟨fits, same⟩ := Bool.and_eq_true_iff.mp fits
    exact Or.inl ⟨rfl, e, List.mem_filter.mpr ⟨he, fits⟩, of_decide_eq_true same⟩
  next h =>
    refine Or.inr ⟨rfl, fun e he same => h (List.any_eq_true.mpr ?_)⟩
    obtain ⟨he, fits⟩ := List.mem_filter.mp he
    exact ⟨e, he, Bool.and_eq_true_iff.mpr ⟨fits, decide_eq_true same⟩⟩

end ServiceCollection
