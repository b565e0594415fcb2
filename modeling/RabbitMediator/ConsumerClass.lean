import RabbitMediator.Environment
import RabbitMediator.Validation

namespace RabbitMediator

inductive ParameterType
  | sentObject (type : SentType)
  | cancellationToken
  | other (fullName : String)
deriving DecidableEq

/-- How a class declares a method. An explicit implementation of `IMessageConsumer<messageType>` is private. -/
inductive MethodKind
  | ofInstance (isPublic isOverride : Bool)
  | ofClass (isPublic : Bool)
  | explicit (messageType : SentType)
deriving DecidableEq

structure Method where
  declaringType : String
  name : String
  genericParameters : Nat
  parameters : List ParameterType
  returnsTask : Bool
  kind : MethodKind
deriving DecidableEq

namespace Method

def isPublic (m : Method) : Bool :=
  match m.kind with
  | .ofInstance p _ | .ofClass p => p
  | .explicit _ => false

def isStatic (m : Method) : Bool :=
  match m.kind with
  | .ofClass _ => true
  | _ => false

def isOverride (m : Method) : Bool :=
  match m.kind with
  | .ofInstance _ o => o
  | _ => false

def sameSignature (m k : Method) : Bool :=
  m.name = k.name && m.genericParameters = k.genericParameters && m.parameters = k.parameters

/-- A method named `Consume` whose one parameter has the type. -/
def takes (m : Method) (t : SentType) : Bool := m.name = "Consume" && m.parameters = [.sentObject t]

/-- The method can implement `IMessageConsumer<t>.Consume` without saying so. -/
def fits (m : Method) (t : SentType) : Bool :=
  m.takes t && m.genericParameters = 0 && m.isPublic && !m.isStatic && m.returnsTask

/-- `GetMethods` shows the method, as one of the class itself or of a base class, unless it is overridden. -/
def isSeen (itself : Bool) (m : Method) : Bool := m.isPublic && (itself || !m.isStatic)

end Method

/-- One class of a hierarchy, with the messages it has an `IMessageConsumer` for in its list of interfaces. -/
structure ClassDeclaration where
  fullName : String
  messageTypes : List SentType
  methods : List Method
  declared : ∀ m ∈ methods, m.declaringType = fullName

namespace ClassDeclaration

/-- The public method of the class that has the signature. -/
def slot (d : ClassDeclaration) (m : Method) : Option Method :=
  d.methods.find? fun k => k.isPublic && k.sameSignature m

/-- What a call of the method ends at, in the classes derived from the declaring one, the nearest first. -/
def finalOverride : List ClassDeclaration → Method → Method
  | [], m => m
  | d :: derived, m =>
    match d.slot m with
    | some k => if k.isOverride then finalOverride derived k else m
    | none => finalOverride derived m

def overridden : List ClassDeclaration → Method → Bool
  | [], _ => false
  | d :: derived, m =>
    match d.slot m with
    | some k => k.isOverride
    | none => overridden derived m

/-- `GetMethods`, from the class itself on to its bases. -/
def getMethods (derived : List ClassDeclaration) : List ClassDeclaration → List Method
  | [] => []
  | d :: bases =>
    d.methods.filter (fun m => m.isSeen derived.isEmpty && !overridden derived m) ++ getMethods (d :: derived) bases

/-- Interface mapping, from the class that lists the interface on to its bases. -/
def mapped (t : SentType) (derived : List ClassDeclaration) : List ClassDeclaration → Option Method
  | [] => none
  | d :: bases =>
    match d.methods.find? fun m => m.kind = .explicit t with
    | some m => some m
    | none =>
      match d.methods.find? (·.fits t) with
      | some m => some (finalOverride derived m)
      | none => mapped t (d :: derived) bases

/-- The class that lists the interface last decides. -/
def implementation (t : SentType) (derived : List ClassDeclaration) : List ClassDeclaration → Option Method
  | [] => none
  | d :: bases => if t ∈ d.messageTypes then mapped t derived (d :: bases) else implementation t (d :: derived) bases

end ClassDeclaration

/-- Where a class has the two overloads of a request interface. `none` is the default of the interface. -/
structure RequestBodies where
  plain : Option Method
  cancellable : Option Method

/-- The default of the cancellable overload calls the plain one. -/
def RequestBodies.invoked (b : RequestBodies) : Option Method := b.cancellable.or b.plain

/-- A consumer class as it is declared, from the class itself on to its bases. `defaultBody` is a body that
another interface brings, which is explicit. -/
structure ConsumerClass where
  consumerType : ConsumerType
  declarations : List ClassDeclaration
  defaultBody : SentType → Option Method
  requestBodies : RequestInterface → RequestBodies
  named : (declarations.map (·.fullName)).Nodup
  explicit : ∀ {t m}, defaultBody t = some m → m.isPublic = false
  implemented : ∀ i ∈ consumerType.messageInterfaces,
    ((ClassDeclaration.implementation i.messageType [] declarations).or (defaultBody i.messageType)).isSome = true
  consumeParameters : ∀ t, t ∈ consumerType.consumeParameters ↔
    ∃ m ∈ ClassDeclaration.getMethods [] declarations, m.takes t = true

namespace ConsumerClass

/-- The method that implements `IMessageConsumer<t>.Consume` for the class. -/
def implementation (c : ConsumerClass) (t : SentType) : Option Method :=
  (ClassDeclaration.implementation t [] c.declarations).or (c.defaultBody t)

def getConsumeMethod (c : ConsumerClass) (t : SentType) : Except Exception Method :=
  match (ClassDeclaration.getMethods [] c.declarations).find? (·.takes t) with
  | some m => .ok m
  | none => .error (.new .invalidOperation "Sequence contains no matching element")

/-- `GetInterfaceMap` on a request interface. -/
def interfaceMap (c : ConsumerClass) (i : RequestInterface) : List InterfaceMethod :=
  [⟨"Consume", (c.requestBodies i).plain.isNone⟩, ⟨"Consume", (c.requestBodies i).cancellable.isNone⟩]

/-- The lookup that a delivery makes succeeds just when a method is found. -/
theorem getConsumeMethod_iff (c : ConsumerClass) (t : SentType) :
    (∃ m, c.getConsumeMethod t = .ok m) ↔ ∃ p, RabbitMediator.getConsumeMethod c.consumerType t = .ok p := by
  rw [getConsumeMethod_ok_iff, c.consumeParameters t]
  unfold getConsumeMethod
  cases hf : (ClassDeclaration.getMethods [] c.declarations).find? (·.takes t) with
  | some m =>
    have takes := List.find?_some (p := fun m : Method => m.takes t) hf
    exact iff_of_true ⟨m, rfl⟩ ⟨m, List.mem_of_find?_eq_some hf, takes⟩
  | none =>
    refine iff_of_false (by simp) ?_
    rintro ⟨m, hm, takes⟩
    exact List.find?_eq_none.mp hf m hm takes

end ConsumerClass

namespace ClassDeclaration

/-- The first method of the class that `GetMethods` shows if it is not overridden, and that takes the type. -/
def exposes (d : ClassDeclaration) (itself : Bool) (t : SentType) : Option Method :=
  d.methods.find? fun m => m.isSeen itself && m.takes t

/-- The first one, from the class itself on to its bases. -/
def firstExposed (t : SentType) : Bool → List ClassDeclaration → Option Method
  | _, [] => none
  | itself, d :: bases => (d.exposes itself t).or (firstExposed t false bases)

variable {t : SentType} {d : ClassDeclaration} {derived ds : List ClassDeclaration} {m k : Method}

theorem takes_of_sameSignature (h : m.sameSignature k = true) (hk : k.takes t = true) : m.takes t = true := by
  simp only [Method.sameSignature, Method.takes, Bool.and_eq_true, decide_eq_true_eq] at h hk ⊢
  exact ⟨h.1.1.trans hk.1, h.2.trans hk.2⟩

theorem slot_some (h : d.slot m = some k) :
    k ∈ d.methods ∧ k.isPublic = true ∧ k.sameSignature m = true := by
  have found := List.find?_some h
  simp only [Bool.and_eq_true] at found
  exact ⟨List.mem_of_find?_eq_some h, found.1, found.2⟩

theorem isSeen_of_isOverride (itself : Bool) (pub : m.isPublic = true) (override : m.isOverride = true) :
    m.isSeen itself = true := by
  have dynamic : m.isStatic = false := by
    unfold Method.isStatic
    unfold Method.isOverride at override
    cases hk : m.kind <;> simp_all
  simp [Method.isSeen, pub, dynamic]

/-- A method is not overridden where no derived class shows one that takes the same. -/
theorem overridden_eq_false (takes : m.takes t = true)
    (free : ∀ e ∈ derived, ∀ k ∈ e.methods, k.isSeen false = true → k.takes t = false) :
    overridden derived m = false := by
  induction derived with
  | nil => rfl
  | cons e derived ih =>
    unfold overridden
    split
    next k hk =>
      obtain ⟨mem, pub, same⟩ := slot_some hk
      by_contra override
      have override : k.isOverride = true := by simpa using override
      have shown := free e List.mem_cons_self k mem (isSeen_of_isOverride false pub override)
      rw [takes_of_sameSignature same takes] at shown
      cases shown
    next => exact ih fun e he => free e (List.mem_cons_of_mem _ he)

/-- What `GetMethods` leaves out for being overridden is never the first to take a type. -/
theorem find_getMethods (free : ∀ e ∈ derived, ∀ k ∈ e.methods, k.isSeen false = true → k.takes t = false) :
    (getMethods derived ds).find? (·.takes t) = firstExposed t derived.isEmpty ds := by
  induction ds generalizing derived with
  | nil => rfl
  | cons d bases ih =>
    have here : (d.methods.filter fun m => m.isSeen derived.isEmpty && !overridden derived m).find? (·.takes t) =
        d.exposes derived.isEmpty t := by
      rw [List.find?_filter, exposes]
      congr 1
      funext m
      cases takes : m.takes t with
      | false => simp
      | true => simp [overridden_eq_false takes free]
    rw [getMethods, firstExposed, List.find?_append, here]
    cases hd : d.exposes derived.isEmpty t with
    | some m => rfl
    | none =>
      have free' : ∀ e ∈ d :: derived, ∀ k ∈ e.methods, k.isSeen false = true → k.takes t = false := by
        intro e he k hk shown
        rcases List.mem_cons.mp he with rfl | he
        · have none := List.find?_eq_none.mp hd k hk
          have shown' : k.isSeen derived.isEmpty = true := by
            simp only [Method.isSeen, Bool.and_eq_true, Bool.or_eq_true] at shown ⊢
            exact ⟨shown.1, Or.inr (by simpa using shown.2)⟩
          simpa [shown'] using none
        · exact free e he k hk shown
      rw [ih free']
      rfl

theorem firstExposed_eq_none_iff {itself : Bool} : firstExposed t itself ds = none ↔
    ∀ (i : Nat) d, ds[i]? = some d → d.exposes (itself && i == 0) t = none := by
  induction ds generalizing itself with
  | nil => simp [firstExposed]
  | cons d bases ih =>
    rw [firstExposed, Option.or_eq_none_iff, ih]
    constructor
    · rintro ⟨first, rest⟩ i e he
      cases i with
      | zero => cases he; simpa using first
      | succ i => simpa using rest i e (by simpa using he)
    · intro h
      exact ⟨by simpa using h 0 d rfl, fun i e he => by simpa using h (i + 1) e (by simpa using he)⟩

theorem firstExposed_append {itself : Bool} (ds es : List ClassDeclaration) :
    firstExposed t itself (ds ++ es) =
      (firstExposed t itself ds).or (firstExposed t (itself && ds.isEmpty) es) := by
  induction ds generalizing itself with
  | nil => simp [firstExposed]
  | cons d bases ih =>
    rw [List.cons_append, firstExposed, firstExposed, ih]
    cases d.exposes itself t <;> simp

theorem firstExposed_mem {itself : Bool} (h : firstExposed t itself ds = some m) : ∃ d ∈ ds, m ∈ d.methods := by
  induction ds generalizing itself with
  | nil => cases h
  | cons d bases ih =>
    rcases Option.or_eq_some_iff.mp h with h | ⟨_, h⟩
    · exact ⟨d, List.mem_cons_self, List.mem_of_find?_eq_some h⟩
    · obtain ⟨e, he, hm⟩ := ih h
      exact ⟨e, List.mem_cons_of_mem _ he, hm⟩

theorem isPublic_of_firstExposed {itself : Bool} (h : firstExposed t itself ds = some m) : m.isPublic = true := by
  induction ds generalizing itself with
  | nil => cases h
  | cons d bases ih =>
    rcases Option.or_eq_some_iff.mp h with h | ⟨_, h⟩
    · have shown := List.find?_some h
      simp only [Method.isSeen, Bool.and_eq_true] at shown
      exact shown.1.1
    · exact ih h

/-- What a call ends at is declared in one of the classes, and takes the same. -/
theorem finalOverride_mem (takes : m.takes t = true) (instance_ : m.isStatic = false)
    (mem : ∃ d ∈ ds, m ∈ d.methods) (derived_mem : ∀ e ∈ derived, e ∈ ds) :
    (∃ d ∈ ds, finalOverride derived m ∈ d.methods) ∧ (finalOverride derived m).takes t = true ∧
      (finalOverride derived m).isStatic = false := by
  induction derived generalizing m with
  | nil => exact ⟨mem, takes, instance_⟩
  | cons e derived ih =>
    have rest : ∀ e ∈ derived, e ∈ ds := fun e he => derived_mem e (List.mem_cons_of_mem _ he)
    unfold finalOverride
    split
    next k hk =>
      obtain ⟨km, _, same⟩ := slot_some hk
      split
      next override =>
        refine ih (takes_of_sameSignature same takes) ?_ ⟨e, derived_mem e List.mem_cons_self, km⟩ rest
        unfold Method.isStatic
        unfold Method.isOverride at override
        cases hkind : k.kind <;> simp_all
      next => exact ⟨mem, takes, instance_⟩
    next => exact ih takes instance_ mem rest

theorem mapped_mem (h : mapped t derived ds = some m) (pub : m.isPublic = true) :
    (∃ d ∈ derived ++ ds, m ∈ d.methods) ∧ m.takes t = true ∧ m.isStatic = false := by
  induction ds generalizing derived with
  | nil => cases h
  | cons d bases ih =>
    unfold mapped at h
    split at h
    next k hk =>
      cases h
      have explicit : m.kind = .explicit t := by simpa using List.find?_some hk
      simp [Method.isPublic, explicit] at pub
    next =>
      split at h
      next k hk =>
        cases h
        have fits := List.find?_some (p := fun m : Method => m.fits t) hk
        simp only [Method.fits, Bool.and_eq_true, Bool.not_eq_true'] at fits
        exact finalOverride_mem fits.1.1.1.1 fits.1.2 ⟨d, by simp, List.mem_of_find?_eq_some hk⟩
          fun e he => List.mem_append_left _ he
      next =>
        obtain ⟨⟨e, he, hm⟩, rest⟩ := ih h
        exact ⟨⟨e, by simpa [or_left_comm] using he, hm⟩, rest⟩

/-- A public implementation is declared in one of the classes. -/
theorem implementation_mem (h : implementation t derived ds = some m) (pub : m.isPublic = true) :
    (∃ d ∈ derived ++ ds, m ∈ d.methods) ∧ m.takes t = true ∧ m.isStatic = false := by
  induction ds generalizing derived with
  | nil => cases h
  | cons d bases ih =>
    unfold implementation at h
    split at h
    next => exact mapped_mem h pub
    next =>
      obtain ⟨⟨e, he, hm⟩, rest⟩ := ih h
      exact ⟨⟨e, by simpa [or_left_comm] using he, hm⟩, rest⟩

end ClassDeclaration

/-- The implementing method is public. No class derived from the one that declares it shows another public
method that takes the type, and in its own class it is the first such method. -/
structure Exposed (c : ConsumerClass) (t : SentType) (m : Method) : Prop where
  isPublic : m.isPublic = true
  unhidden : ∀ derived d bases, c.declarations = derived ++ d :: bases → m ∈ d.methods →
    ∀ (i : Nat) e, derived[i]? = some e → e.exposes (i == 0) t = none
  first : ∀ derived d bases, c.declarations = derived ++ d :: bases → m ∈ d.methods →
    d.exposes derived.isEmpty t = some m

section Dispatch

open ClassDeclaration

variable {c : ConsumerClass} {t : SentType} {m : Method}

theorem getConsumeMethod_ok_iff_firstExposed :
    c.getConsumeMethod t = .ok m ↔ firstExposed t true c.declarations = some m := by
  unfold ConsumerClass.getConsumeMethod
  rw [find_getMethods (by simp)]
  cases h : firstExposed t true c.declarations <;> simp [h]

/-- A method is declared in one class only. -/
theorem declared_once {derived bases : List ClassDeclaration} {d e : ClassDeclaration}
    (h : c.declarations = derived ++ d :: bases) (hm : m ∈ d.methods) (he : e ∈ derived) : m ∉ e.methods := by
  intro again
  have named := c.named
  rw [h, List.map_append, List.nodup_append'] at named
  refine named.2.2 (List.mem_map_of_mem he) ?_
  rw [← e.declared m again, d.declared m hm]
  exact List.mem_cons_self

/-- The first method that is exposed is the first one in its own class, and no derived class has one. -/
theorem exposed_of_firstExposed (found : firstExposed t true c.declarations = some m)
    {derived bases : List ClassDeclaration} {d : ClassDeclaration} (h : c.declarations = derived ++ d :: bases)
    (hm : m ∈ d.methods) : firstExposed t true derived = none ∧ d.exposes derived.isEmpty t = some m := by
  rw [h, firstExposed_append, firstExposed] at found
  cases hf : firstExposed t true derived with
  | some k =>
    obtain ⟨e, he, hk⟩ := firstExposed_mem hf
    simp only [hf, Option.some_or, Option.some.injEq] at found
    exact absurd (found ▸ hk) (declared_once h hm he)
  | none =>
    rw [hf, Option.none_or, Bool.true_and] at found
    rcases Option.or_eq_some_iff.mp found with here | ⟨_, later⟩
    · exact ⟨rfl, here⟩
    · obtain ⟨e, he, hk⟩ := firstExposed_mem later
      obtain ⟨before, after, rfl⟩ := List.append_of_mem he
      have h' : c.declarations = (derived ++ d :: before) ++ e :: after := by simp [h]
      exact absurd hm (declared_once h' hk (by simp))

/-- The lookup finds the implementing method just when that method is exposed. -/
theorem getConsumeMethod_eq_iff (implements : c.implementation t = some m) :
    c.getConsumeMethod t = .ok m ↔ Exposed c t m := by
  rw [getConsumeMethod_ok_iff_firstExposed]
  constructor
  · intro found
    exact ⟨isPublic_of_firstExposed found,
      fun derived d bases h hm i e he =>
        firstExposed_eq_none_iff.mp (exposed_of_firstExposed found h hm).1 i e he,
      fun derived d bases h hm => (exposed_of_firstExposed found h hm).2⟩
  · intro exposed
    rcases Option.or_eq_some_iff.mp implements with own | ⟨_, foreign⟩
    · obtain ⟨⟨d, hd, hm⟩, _⟩ := implementation_mem own exposed.isPublic
      rw [List.nil_append] at hd
      obtain ⟨derived, bases, h⟩ := List.append_of_mem hd
      have hidden : firstExposed t true derived = none :=
        firstExposed_eq_none_iff.mpr fun i e he => exposed.unhidden derived d bases h hm i e he
      rw [h, firstExposed_append, hidden, firstExposed, Bool.true_and, exposed.first derived d bases h hm]
      rfl
    · have pub := exposed.isPublic
      rw [c.explicit foreign] at pub
      cases pub

/-- Every message goes to the method that implements its interface, and no request ends at the default that
says neither overload is implemented. -/
structure Dispatches (c : ConsumerClass) : Prop where
  messages : ∀ i ∈ c.consumerType.messageInterfaces, ∃ m, c.implementation i.messageType = some m ∧
    c.getConsumeMethod i.messageType = .ok m
  requests : ∀ i ∈ c.consumerType.requestInterfaces, ∃ consumeMethod,
    getRequestConsumeMethod c.consumerType i.requestType = .ok consumeMethod ∧
      (c.requestBodies consumeMethod).invoked.isSome = true

theorem invoked_isSome_of_validate {interfaceMap : InterfaceMap} {settings : RabbitMediatorSettings}
    (h : settings.validate interfaceMap = .ok ()) {types : List ConsumerType}
    (listed : settings.getAllConsumerTypes = .ok types) (ht : c.consumerType ∈ types)
    (map : interfaceMap c.consumerType = c.interfaceMap) {i : RequestInterface}
    (hi : i ∈ c.consumerType.requestInterfaces) : (c.requestBodies i).invoked.isSome = true := by
  have own := implementsAnyConsumeOverload_of_validate h listed ht hi
  unfold implementsAnyConsumeOverload at own
  rw [map] at own
  unfold RequestBodies.invoked
  cases hc : (c.requestBodies i).cancellable with
  | some m => rfl
  | none =>
    cases hp : (c.requestBodies i).plain with
    | some m => rfl
    | none => simp [ConsumerClass.interfaceMap, hc, hp] at own

/-- Dispatch calls the implementations of an accepted consumer class just when each of its message
implementations is exposed. -/
theorem dispatches_iff {interfaceMap : InterfaceMap} {settings : RabbitMediatorSettings}
    (h : settings.validate interfaceMap = .ok ()) {types : List ConsumerType}
    (listed : settings.getAllConsumerTypes = .ok types) (ht : c.consumerType ∈ types)
    (map : interfaceMap c.consumerType = c.interfaceMap) :
    Dispatches c ↔ ∀ i ∈ c.consumerType.messageInterfaces, ∀ m, c.implementation i.messageType = some m →
      Exposed c i.messageType m := by
  constructor
  · intro right i hi m hm
    obtain ⟨k, hk, found⟩ := right.messages i hi
    cases hm.symm.trans hk
    exact (getConsumeMethod_eq_iff hm).mp found
  · intro exposed
    refine ⟨fun i hi => ?_, fun i hi => ?_⟩
    · obtain ⟨m, hm⟩ := Option.isSome_iff_exists.mp (c.implemented i hi)
      exact ⟨m, hm, (getConsumeMethod_eq_iff hm).mpr (exposed i hi m hm)⟩
    · obtain ⟨k, hk⟩ : ∃ k, getRequestConsumeMethod c.consumerType i.requestType = .ok k := by
        unfold getRequestConsumeMethod
        cases hf : c.consumerType.requestInterfaces.find? (·.requestType = i.requestType) with
        | some k => exact ⟨k, rfl⟩
        | none => simpa using List.find?_eq_none.mp hf i hi
      exact ⟨k, hk, invoked_isSome_of_validate h listed ht map (getRequestConsumeMethod_ok hk).1⟩

end Dispatch

/-- A class of the tests with one method, for the test message. -/
def testDeclaration (name : String) (kind : MethodKind) : ClassDeclaration where
  fullName := testAnyTargetedMessageConsumer.fullName
  messageTypes := [testAnyTargetedMessage]
  methods := [⟨testAnyTargetedMessageConsumer.fullName, name, 0, [.sentObject testAnyTargetedMessage], true, kind⟩]
  declared k hk := by rw [List.mem_singleton.mp hk]

def testConsumerClass : ConsumerClass where
  consumerType := testAnyTargetedMessageConsumer
  declarations := [testDeclaration "Consume" (.ofInstance true false)]
  defaultBody _ := none
  requestBodies _ := ⟨none, none⟩
  named := List.nodup_singleton _
  explicit h := by cases h
  implemented i hi := by
    cases List.mem_singleton.mp hi
    rfl
  consumeParameters t := by
    constructor
    · intro ht
      rw [List.mem_singleton.mp ht]
      exact ⟨_, List.mem_singleton.mpr rfl, by decide⟩
    · rintro ⟨m, hm, takes⟩
      rw [List.mem_singleton.mp hm] at takes
      simp only [Method.takes, Bool.and_eq_true, decide_eq_true_eq] at takes
      cases takes.2
      exact List.mem_singleton.mpr rfl

def testMessageSettings (t : ConsumerType) : RabbitMediatorSettings :=
  ⟨{ testConfiguration with consumerTypes := [t] }, .singleton, 10, none⟩

theorem testConsumerClass_dispatches : Dispatches testConsumerClass := by
  have accepted : (testMessageSettings testAnyTargetedMessageConsumer).validate
      (fun _ => testConsumerClass.interfaceMap) = .ok () := by decide
  have listed : (testMessageSettings testAnyTargetedMessageConsumer).getAllConsumerTypes =
      .ok [testAnyTargetedMessageConsumer] := rfl
  refine (dispatches_iff accepted listed (List.mem_singleton.mpr rfl) rfl).mpr fun i hi m hm => ?_
  cases List.mem_singleton.mp hi
  cases hm
  exact (getConsumeMethod_eq_iff rfl).mp rfl

/-- The same class with an explicit implementation of its interface. -/
def testExplicitClass : ConsumerClass where
  consumerType := { testAnyTargetedMessageConsumer with consumeParameters := [] }
  declarations :=
    [testDeclaration "IMessageConsumer<TestAnyTargetedMessage>.Consume" (.explicit testAnyTargetedMessage)]
  defaultBody _ := none
  requestBodies _ := ⟨none, none⟩
  named := List.nodup_singleton _
  explicit h := by cases h
  implemented i hi := by
    cases List.mem_singleton.mp hi
    rfl
  consumeParameters t := by
    constructor
    · intro ht
      cases ht
    · rintro ⟨m, hm, _⟩
      cases hm

theorem explicit_implementation_not_found :
    ¬∀ interfaceMap (settings : RabbitMediatorSettings), settings.validate interfaceMap = .ok () →
      ∀ types, settings.getAllConsumerTypes = .ok types → ∀ c : ConsumerClass, c.consumerType ∈ types →
      interfaceMap c.consumerType = c.interfaceMap → Dispatches c := by
  intro claim
  have right := claim (fun _ => testExplicitClass.interfaceMap) (testMessageSettings testExplicitClass.consumerType)
    (by decide) [testExplicitClass.consumerType] rfl testExplicitClass (List.mem_singleton.mpr rfl) rfl
  obtain ⟨m, _, found⟩ := right.messages ⟨testAnyTargetedMessage, by decide⟩ (List.mem_singleton.mpr rfl)
  cases found

end RabbitMediator
