import RabbitMediator.WireFormat

namespace RabbitMediator

namespace SentType

variable {t : SentType}

theorem contractProperties_of_response (h : t.isAssignableTo .response = true) : t.contractProperties =
    [.targetInstance, .success, .exceptionData, .timedOut, .sendFailure, .senderInstance, .requireAck,
      .correlationId] := by
  induction t with
  | response => rfl
  | derived info base ih => exact ih (by simpa [isAssignableTo, selfAndBases] using h)
  | _ => simp [isAssignableTo, selfAndBases] at h

theorem contractProperties_of_message (isMessage : t.implements .iMessage = true)
    (noResponse : t.isAssignableTo .response = false) : t.contractProperties =
      (if t.requiresTarget then [.targetInstance] else []) ++ [.senderInstance, .requireAck, .correlationId] := by
  induction t with
  | derived info base ih =>
    exact ih (by simpa using isMessage) (by simpa [isAssignableTo, selfAndBases] using noResponse)
  | response => simp [isAssignableTo, selfAndBases] at noResponse
  | request | anyTargetedRequest | targetedRequest => simp [implements, selfAndBases, declares] at isMessage
  | _ => rfl

theorem contractProperties_of_request {r : SentType} (h : t.getResponseTypeOfRequest = some r) :
    t.contractProperties =
      (if t.requiresTarget then [.targetInstance] else []) ++ [.senderInstance, .correlationId, .timeOut] := by
  induction t with
  | derived info base ih => exact ih (by simpa using h)
  | request | anyTargetedRequest | targetedRequest => rfl
  | _ => simp [getResponseTypeOfRequest, selfAndBases] at h

theorem targetInstance_of_requiresTarget (h : t.requiresTarget = true) : .targetInstance ∈ t.contractProperties := by
  induction t with
  | targetedMessage | targetedRequest => exact List.mem_cons_self
  | derived info base ih => exact ih h
  | _ => cases h

end SentType

theorem ContractProperty.name_injective : Function.Injective ContractProperty.name := by
  intro p q h
  cases p <;> cases q <;> first | rfl | exact absurd h (by decide)

theorem InstanceInformation.read_write (i : Option InstanceInformation) : read (write i) = .ok i := by
  cases i <;> rfl

theorem readString_string (text : String) : readString (.string text) = .ok (some text) := rfl

theorem readString_ofString (text : Option String) : readString (.ofString text) = .ok text := by
  cases text <;> rfl

/-- The data of an exception is read back with all that is inside it. -/
theorem ExceptionData.read_write (d : ExceptionData) : read d.write = .ok (some d) := by
  have head (h : ExceptionDataHead) (inner : Json) (innerException : Option ExceptionData)
      (back : read inner = .ok innerException) :
      read (.object (properties h inner)) = .ok (some (Fields.toData ⟨h, innerException⟩)) := by
    simp [read, properties, readProperties, readString_ofString, readString_string, back, Except.map, bind,
      Except.bind]
  induction d with
  | plain h => exact head h .null none rfl
  | wrapping h innerException ih => exact head h _ (some innerException) ih

theorem ExceptionData.read_writeOption (d : Option ExceptionData) : read (writeOption d) = .ok d := by
  cases d with
  | none => rfl
  | some d => exact read_write d

namespace Contract

variable {classes : SentClasses}

/-- The value of a property in `d` instead, if it is read back at all. -/
def copy (c d : Contract) : ContractProperty → Contract
  | .senderInstance => { c with senderInstance := d.senderInstance }
  | .requireAck => { c with requireAck := d.requireAck }
  | .correlationId => { c with correlationId := d.correlationId }
  | .targetInstance => { c with targetInstance := d.targetInstance }
  | .success => { c with success := d.success }
  | .exceptionData => { c with exceptionData := d.exceptionData }
  | .timedOut | .sendFailure => c
  | .timeOut => { c with timeOut := d.timeOut }

theorem read_write (c d : Contract) (p : ContractProperty) :
    c.read classes (d.write classes p) p = .ok (c.copy d p) := by
  cases p with
  | senderInstance | targetInstance => simp only [read, write, InstanceInformation.read_write, copy, Except.map]
  | correlationId => simp only [read, write, readGuid, classes.guid.readsBack, copy, Except.map]
  | exceptionData => simp only [read, write, ExceptionData.read_writeOption, copy, Except.map]
  | timeOut =>
    simp only [read, write, copy]
    cases d.timeOut with
    | none => rfl
    | some t =>
      show (readTimeSpan classes (.string (classes.timeSpan.write t))).map _ = _
      rw [readTimeSpan, classes.timeSpan.readsBack]
      rfl
  | _ => rfl

variable {t : SentType} {c d : Contract}

theorem readProperties_append (ps qs : List (String × Json)) :
    readProperties classes t c (ps ++ qs) = readProperties classes t c ps >>= fun c =>
      readProperties classes t c qs := by
  induction ps generalizing c with
  | nil => rfl
  | cons p ps ih =>
    obtain ⟨name, json⟩ := p
    simp only [List.cons_append, readProperties]
    cases t.contractProperties.find? (fun p => p.name = name) with
    | none => exact ih
    | some p =>
      dsimp only
      cases c.read classes json p with
      | error e => rfl
      | ok c => exact ih

/-- What the contracts of the class do not have changes nothing. -/
theorem readProperties_foreign {ps : List (String × Json)}
    (foreign : ∀ p ∈ ps, ∀ q : ContractProperty, p.1 ≠ q.name) : readProperties classes t c ps = .ok c := by
  induction ps with
  | nil => rfl
  | cons p ps ih =>
    obtain ⟨first, rest⟩ := List.forall_mem_cons.mp foreign
    have unknown : t.contractProperties.find? (fun q => q.name = p.1) = none :=
      List.find?_eq_none.mpr fun q _ => by simpa using (first q).symm
    simp only [readProperties, unknown]
    exact ih rest

theorem find_contractProperty {p : ContractProperty} (h : p ∈ t.contractProperties) :
    t.contractProperties.find? (fun q => q.name = p.name) = some p := by
  cases found : t.contractProperties.find? fun q => q.name = p.name with
  | none => exact absurd (List.find?_eq_none.mp found p h) (by simp)
  | some q =>
    have same : q.name = p.name := by simpa using List.find?_some found
    rw [ContractProperty.name_injective same]

/-- What was written is read back, property by property. -/
theorem readProperties_written {ps : List ContractProperty} (known : ∀ p ∈ ps, p ∈ t.contractProperties) :
    readProperties classes t c (ps.map fun p => (p.name, d.write classes p)) =
      .ok (ps.foldl (fun c p => c.copy d p) c) := by
  induction ps generalizing c with
  | nil => rfl
  | cons p ps ih =>
    obtain ⟨first, rest⟩ := List.forall_mem_cons.mp known
    simp only [List.map_cons, readProperties, find_contractProperty first, read_write, List.foldl_cons]
    exact ih rest

end Contract

namespace SentObject

variable {o : SentObject}

theorem make_of_message (m : Message) (c : Contract) (content : String) : make m.type c content =
    .ok (.message (.message { m with
      senderInstance := c.senderInstance
      requireAck := c.requireAck
      correlationId := c.correlationId
      targetInstance := c.targetInstance
      content })) := by
  unfold make
  rw [dif_neg (by simp [m.noResponse]), dif_pos m.isMessage]

theorem make_of_response (r : Response) (c : Contract) (content : String) : make r.type c content =
    .ok (.message (.response { r with
      senderInstance := c.senderInstance
      requireAck := c.requireAck
      correlationId := c.correlationId
      targetInstance := c.targetInstance
      success := c.success
      exceptionData := c.exceptionData
      timedOut := c.timedOut
      sendFailure := c.sendFailure
      content })) := by
  unfold make
  rw [dif_pos r.isResponse]

theorem make_of_request (q : Request) (c : Contract) (content : String) : make q.type c content =
    .ok (.request { q with
      senderInstance := c.senderInstance
      correlationId := c.correlationId
      targetInstance := c.targetInstance
      timeOut := c.timeOut
      content }) := by
  obtain ⟨_, noMessage⟩ := SentType.request_of_getResponseTypeOfRequest q.isRequest
  have noResponse : ¬q.type.isAssignableTo .response = true := by
    intro isResponse
    rw [SentType.implements_iMessage_of_response q.type isResponse] at noMessage
    cases noMessage
  unfold make
  rw [dif_neg noResponse, dif_neg (by simp [noMessage])]
  split
  next tResponse isRequest =>
    obtain rfl : q.tResponse = tResponse := Option.some.inj (q.isRequest.symm.trans isRequest)
    rw [dif_pos q.isResponse]
  next none => cases none.symm.trans q.isRequest

/-- The object that is made of what has been read is the one that was written, but for the two flags. -/
theorem make_received (carries : o.Carries) :
    make o.type (o.type.contractProperties.foldl (fun c p => c.copy o.contract p) .default) o.content =
      .ok o.overTheWire := by
  have untargeted (h : .targetInstance ∉ o.type.contractProperties) : o.targetInstance = none := by
    by_contra target
    exact h (carries target)
  rcases o with (m | r) | q
  · refine (make_of_message m _ _).trans ?_
    change .targetInstance ∉ m.type.contractProperties → m.targetInstance = none at untargeted
    show Except.ok _ = Except.ok (SentObject.message (.message m))
    simp only [type, IMessage.type]
    rw [SentType.contractProperties_of_message m.isMessage m.noResponse] at untargeted ⊢
    cases target : m.type.requiresTarget with
    | true => rfl
    | false =>
      rw [target] at untargeted
      have none := untargeted (by decide)
      cases m
      cases none
      rfl
  · refine (make_of_response r _ _).trans ?_
    simp only [type, IMessage.type]
    rw [SentType.contractProperties_of_response r.isResponse]
    rfl
  · refine (make_of_request q _ _).trans ?_
    change .targetInstance ∉ q.type.contractProperties → q.targetInstance = none at untargeted
    simp only [type]
    rw [SentType.contractProperties_of_request q.isRequest] at untargeted ⊢
    cases target : q.type.requiresTarget with
    | true => rfl
    | false =>
      rw [target] at untargeted
      have none := untargeted (by decide)
      cases q
      cases none
      rfl

end SentObject

/-- The types can be used together: none is abstract, and each has a name of its own. -/
structure SentClasses.Supports (classes : SentClasses) (types : List SentType) : Prop where
  concrete : ∀ t ∈ types, classes.isAbstract t = false
  named : (types.map (·.fullName)).Nodup

/-- What users are promised of a class: its own properties have names of their own, and come back with whatever the
contracts add to the document. -/
structure SentClasses.RoundTrips (classes : SentClasses) (t : SentType) : Prop where
  separate : ∀ content own, classes.write t content = .ok own → ∀ p ∈ own, ∀ q : ContractProperty, p.1 ≠ q.name
  readsBack : ∀ content own rest, classes.write t content = .ok own →
    (∀ p ∈ rest, ∃ q : ContractProperty, p.1 = q.name) → classes.read t (own ++ rest) = .ok content

namespace JsonSerializer

variable {classes : SentClasses} {options : JsonSerializerOptions} {t : SentType} {o : SentObject}

theorem mem_derivedTypes {dt : JsonDerivedType} : dt ∈ (polymorphism (some options)).derivedTypes ↔
    dt.derivedType ∈ options.typeInfoResolver.sentObjectTypes ∧ dt.typeDiscriminator = dt.derivedType.fullName := by
  obtain ⟨u, name⟩ := dt
  show _ ∈ List.map _ _ ↔ _
  rw [List.mem_map]
  constructor
  · rintro ⟨_, mem, he⟩
    cases he
    exact ⟨mem, rfl⟩
  · rintro ⟨mem, he⟩
    exact ⟨u, mem, congrArg (JsonDerivedType.mk u) he.symm⟩

theorem eq_of_mem_derivedTypes {dt : JsonDerivedType} (h : dt ∈ (polymorphism (some options)).derivedTypes)
    (same : dt.derivedType = t) : dt = ⟨t, t.fullName⟩ := by
  obtain ⟨_, name⟩ := mem_derivedTypes.mp h
  obtain ⟨u, n⟩ := dt
  change u = t at same
  subst same
  exact congrArg (JsonDerivedType.mk u) name

theorem check_iff (mem : t ∈ options.typeInfoResolver.sentObjectTypes) :
    (polymorphism (some options)).check classes = .ok () ↔
      classes.Supports options.typeInfoResolver.sentObjectTypes := by
  have some : (polymorphism (some options)).derivedTypes ≠ [] := by
    have := mem_derivedTypes.mpr (show (⟨t, t.fullName⟩ : JsonDerivedType).derivedType ∈ _ ∧ _ from ⟨mem, rfl⟩)
    exact List.ne_nil_of_mem this
  have types : (polymorphism (Option.some options)).derivedTypes.map (·.derivedType) =
      options.typeInfoResolver.sentObjectTypes := by
    show List.map _ (List.map _ _) = _
    rw [List.map_map]
    exact List.map_id _
  have names : (polymorphism (Option.some options)).derivedTypes.map (·.typeDiscriminator) =
      options.typeInfoResolver.sentObjectTypes.map (·.fullName) := by
    show List.map _ (List.map _ _) = _
    rw [List.map_map]
    rfl
  unfold JsonPolymorphismOptions.check
  rw [if_neg some, types, names]
  split
  next bad =>
    obtain ⟨_, dt, hdt, isAbstract⟩ := bad
    refine iff_of_false nofun fun h => ?_
    rw [h.concrete _ (mem_derivedTypes.mp hdt).1] at isAbstract
    cases isAbstract
  next good =>
    have concrete : ∀ u ∈ options.typeInfoResolver.sentObjectTypes, classes.isAbstract u = false := by
      intro u hu
      by_contra isAbstract
      exact good ⟨nofun, ⟨u, u.fullName⟩, mem_derivedTypes.mpr ⟨hu, rfl⟩, by simpa using isAbstract⟩
    split
    next twice => exact iff_of_false nofun fun h => twice (List.Nodup.of_map _ h.named)
    next =>
      split
      next twice => exact iff_of_false nofun fun h => twice h.named
      next once => exact iff_of_true rfl ⟨concrete, not_not.mp once⟩

theorem find_derivedType (mem : t ∈ options.typeInfoResolver.sentObjectTypes) :
    (polymorphism (some options)).derivedTypes.find? (fun dt => dt.derivedType = t) = some ⟨t, t.fullName⟩ := by
  cases found : (polymorphism (some options)).derivedTypes.find? fun dt => dt.derivedType = t with
  | none =>
    exact absurd (List.find?_eq_none.mp found ⟨t, t.fullName⟩ (mem_derivedTypes.mpr ⟨mem, rfl⟩)) (by simp)
  | some dt =>
    have same : dt.derivedType = t := by simpa using List.find?_some found
    rw [eq_of_mem_derivedTypes (List.mem_of_find?_eq_some found) same]

/-- Under the name of a type nothing else is found, as long as the types are supported. -/
theorem find_typeDiscriminator (mem : t ∈ options.typeInfoResolver.sentObjectTypes)
    (supports : classes.Supports options.typeInfoResolver.sentObjectTypes) :
    (polymorphism (some options)).derivedTypes.find? (fun dt => dt.typeDiscriminator = t.fullName) =
      some ⟨t, t.fullName⟩ := by
  cases found : (polymorphism (some options)).derivedTypes.find? fun dt => dt.typeDiscriminator = t.fullName with
  | none =>
    exact absurd (List.find?_eq_none.mp found ⟨t, t.fullName⟩ (mem_derivedTypes.mpr ⟨mem, rfl⟩)) (by simp)
  | some dt =>
    obtain ⟨other, name⟩ := mem_derivedTypes.mp (List.mem_of_find?_eq_some found)
    have same : dt.typeDiscriminator = t.fullName := by simpa using List.find?_some found
    have one : dt.derivedType = t :=
      List.inj_on_of_nodup_map supports.named other mem (name.symm.trans same)
    rw [eq_of_mem_derivedTypes (List.mem_of_find?_eq_some found) one]

end JsonSerializer

theorem ExceptionData.count_fromException (e : Exception) : (fromException e).count = e.count := by
  induction e with
  | plain h => rfl
  | wrapping h inner ih => exact congrArg (· + 1) ih

theorem ExceptionData.height_write (d : ExceptionData) : d.write.height = d.count + 1 := by
  have head (h : ExceptionDataHead) (inner : Json) :
      (Json.object (properties h inner)).height = max 1 inner.height + 1 := by
    have stacktrace := Json.height_ofString h.stacktrace
    have typeFullName := Json.height_ofString h.typeFullName
    have source := Json.height_ofString h.source
    simp only [properties, Json.height, Json.heightOfProperties]
    omega
  induction d with
  | plain h => exact head h .null
  | wrapping h innerException ih =>
    rw [write, head, ih, count]
    omega

/-- The data of `n` exceptions inside each other needs a height of `n + 1`. -/
theorem ExceptionData.height_writeOption {d : Option ExceptionData} {n : Nat} :
    (writeOption d).height ≤ n + 1 ↔ ∀ e, d = some e → e.count ≤ n := by
  cases d with
  | none => exact iff_of_true (Nat.zero_le _) nofun
  | some e =>
    show e.write.height ≤ n + 1 ↔ _
    rw [height_write]
    constructor
    · rintro few _ ⟨⟩
      omega
    · intro few
      have := few e rfl
      omega

theorem InstanceInformation.height_write (i : Option InstanceInformation) : (write i).height ≤ 2 := by
  cases i with
  | none => exact Nat.zero_le 2
  | some => exact Nat.le_refl 2

theorem Contract.height_write_le {classes : SentClasses} (c : Contract) {p : ContractProperty}
    (other : p ≠ .exceptionData) : (c.write classes p).height ≤ 2 := by
  cases p with
  | senderInstance => exact InstanceInformation.height_write _
  | targetInstance => exact InstanceInformation.height_write _
  | timeOut => exact Nat.le_trans (Json.height_ofString _) (by decide)
  | exceptionData => exact absurd rfl other
  | _ => exact Nat.le_succ 1

/-- An acknowledgement is written if it has at most 62 exceptions inside each other, and then comes back. -/
structure AckPasses (classes : SentClasses) (ack : SentObjectAck) : Prop where
  writes : (∃ json, JsonSerializer.serializeAck classes ack = .ok json) ↔
    ∀ d, ack.exceptionData = some d → d.count ≤ 62
  reads : ∀ json, JsonSerializer.serializeAck classes ack = .ok json →
    JsonSerializer.deserializeAck classes json = .ok (some ack)

/-- What can be written of an object whose class adds `own`: at most 62 exceptions inside each other. -/
structure SentObject.Shallow (o : SentObject) (own : List (String × Json)) : Prop where
  own : ∀ p ∈ own, p.2.height ≤ 63
  exceptions : ∀ d, o.contract.exceptionData = some d → d.count ≤ 62

/-- Only a response has the data of an exception. -/
theorem SentObject.exceptionData_of_mem {o : SentObject} {d : ExceptionData}
    (h : o.contract.exceptionData = some d) : .exceptionData ∈ o.type.contractProperties := by
  rcases o with (m | r) | q
  · cases h
  · show _ ∈ r.type.contractProperties
    rw [SentType.contractProperties_of_response r.isResponse]
    decide
  · cases h

namespace JsonSerializer

variable {classes : SentClasses} {options : JsonSerializerOptions} {t : SentType} {o : SentObject}
  {own : List (String × Json)} {json : Json}

theorem height_document (name : String) :
    (document classes (some options) name own o).height ≤ maxDepth ↔ o.Shallow own := by
  have all : (document classes (some options) name own o).height ≤ maxDepth ↔
      (∀ p ∈ own, p.2.height ≤ 63) ∧ ∀ p ∈ o.type.contractProperties, (o.contract.write classes p).height ≤ 63 := by
    have fields : Json.heightOfProperties (own ++
        o.type.contractProperties.map fun p => (p.name, o.contract.write classes p)) ≤ 63 ↔ _ :=
      Json.heightOfProperties_le_iff
    rw [List.forall_mem_append, List.forall_mem_map] at fields
    rw [← fields]
    simp only [document, Json.height, List.cons_append, Json.heightOfProperties, maxDepth]
    omega
  rw [all]
  constructor
  · rintro ⟨shallow, contract⟩
    refine ⟨shallow, fun d hd => ?_⟩
    have height := contract .exceptionData (SentObject.exceptionData_of_mem hd)
    exact ExceptionData.height_writeOption.mp height d hd
  · rintro ⟨shallow, exceptions⟩
    refine ⟨shallow, fun p _ => ?_⟩
    by_cases data : p = .exceptionData
    · subst data
      exact ExceptionData.height_writeOption.mpr exceptions
    · exact Nat.le_trans (o.contract.height_write_le data) (by decide)

/-- What `Serialize` writes of an object whose type it knows, and when it writes it. -/
theorem serialize_eq_ok (mem : o.type ∈ options.typeInfoResolver.sentObjectTypes) :
    serialize classes (some options) o = .ok json ↔
      classes.Supports options.typeInfoResolver.sentObjectTypes ∧ ∃ own, classes.write o.type o.content = .ok own ∧
        o.Shallow own ∧ json = document classes (some options) o.type.fullName own o := by
  unfold serialize
  rw [except_bind_eq_ok, find_derivedType mem]
  dsimp only
  constructor
  · rintro ⟨_, ok, h⟩
    obtain ⟨own, written, h⟩ := except_bind_eq_ok.mp h
    split at h
    next shallow =>
      cases h
      exact ⟨(check_iff mem).mp ok, own, written, (height_document _).mp shallow, rfl⟩
    next => cases h
  · rintro ⟨supports, own, written, shallow, rfl⟩
    refine ⟨(), (check_iff mem).mpr supports, except_bind_eq_ok.mpr ⟨own, written, ?_⟩⟩
    exact if_pos ((height_document _).mpr shallow)

/-- Nothing else is written. -/
theorem mem_of_serialize {options : Option JsonSerializerOptions} (h : serialize classes options o = .ok json) :
    ∃ known, options = some known ∧ o.type ∈ known.typeInfoResolver.sentObjectTypes := by
  unfold serialize at h
  obtain ⟨_, _, h⟩ := except_bind_eq_ok.mp h
  split at h
  next dt found =>
    have mem := List.mem_of_find?_eq_some found
    have same : dt.derivedType = o.type := by simpa using List.find?_some found
    cases options with
    | none => exact absurd mem List.not_mem_nil
    | some known => exact ⟨known, rfl, same ▸ (mem_derivedTypes.mp mem).1⟩
  next => cases h

theorem readObject_written (carries : o.Carries) (roundTrips : classes.RoundTrips o.type)
    (written : classes.write o.type o.content = .ok own) :
    readObject classes o.type (own ++ o.type.contractProperties.map fun p => (p.name, o.contract.write classes p)) =
      .ok o.overTheWire := by
  have contract : Contract.readProperties classes o.type .default
      (own ++ o.type.contractProperties.map fun p => (p.name, o.contract.write classes p)) =
      .ok (o.type.contractProperties.foldl (fun c p => c.copy o.contract p) .default) := by
    rw [Contract.readProperties_append, Contract.readProperties_foreign (roundTrips.separate _ _ written)]
    exact Contract.readProperties_written fun _ h => h
  have content : classes.read o.type
      (own ++ o.type.contractProperties.map fun p => (p.name, o.contract.write classes p)) = .ok o.content := by
    refine roundTrips.readsBack _ _ _ written fun p hp => ?_
    obtain ⟨q, _, rfl⟩ := List.mem_map.mp hp
    exact ⟨q, rfl⟩
  have complete : (o.type.requiresTarget && !(own ++ o.type.contractProperties.map fun p =>
      (p.name, o.contract.write classes p)).any fun p => p.1 = ContractProperty.targetInstance.name) = false := by
    cases required : o.type.requiresTarget with
    | false => rfl
    | true =>
      have mem := SentType.targetInstance_of_requiresTarget required
      simp only [Bool.true_and, Bool.not_eq_false', List.any_append, List.any_map, Bool.or_eq_true, List.any_eq_true]
      exact Or.inr ⟨_, mem, by simp⟩
  unfold readObject
  rw [contract]
  show (classes.read _ _ >>= _) = _
  rw [content]
  show (if _ then _ else _) = _
  rw [if_neg (by simp only [complete, Bool.false_eq_true, not_false_eq_true])]
  exact SentObject.make_received carries

/-- What was written is read back by any options that know the type. -/
theorem deserialize_document {written : JsonSerializerOptions}
    (mem : o.type ∈ options.typeInfoResolver.sentObjectTypes)
    (supports : classes.Supports options.typeInfoResolver.sentObjectTypes) (carries : o.Carries)
    (roundTrips : classes.RoundTrips o.type) (hw : classes.write o.type o.content = .ok own) (shallow : o.Shallow own) :
    deserialize classes (some options) (document classes (some written) o.type.fullName own o) =
      .ok (some o.overTheWire) := by
  have height : (document classes (some written) o.type.fullName own o).height ≤ maxDepth :=
    (height_document _).mpr shallow
  have nesting := Nat.le_trans (Json.nesting_le_height _) height
  unfold deserialize
  rw [(check_iff mem).mpr supports]
  show (if _ then _ else _) = _
  rw [if_neg (Nat.not_lt.mpr nesting)]
  have discriminator : (polymorphism (some written)).typeDiscriminatorPropertyName =
      (polymorphism (some options)).typeDiscriminatorPropertyName := rfl
  rw [if_pos discriminator]
  dsimp only
  rw [find_typeDiscriminator mem supports]
  dsimp only
  rw [List.append_eq, readObject_written carries roundTrips hw]
  rfl

/-- With types that cannot be used together nothing is read or written any more. -/
theorem unsupported (mem : t ∈ options.typeInfoResolver.sentObjectTypes)
    (bad : ¬classes.Supports options.typeInfoResolver.sentObjectTypes) :
    (∀ o, ∃ e, serialize classes (some options) o = .error e) ∧
      ∀ json, ∃ e, deserialize classes (some options) json = .error e := by
  cases checked : (polymorphism (some options)).check classes with
  | ok => exact absurd ((check_iff mem).mp checked) bad
  | error e =>
    refine ⟨fun o => ⟨e, ?_⟩, fun json => ⟨e, ?_⟩⟩
    · unfold serialize
      rw [checked]
      rfl
    · unfold deserialize
      rw [checked]
      rfl

theorem ack_passes (classes : SentClasses) (ack : SentObjectAck) : AckPasses classes ack := by
  have height : (ack.write classes).height ≤ maxDepth ↔ ∀ d, ack.exceptionData = some d → d.count ≤ 62 := by
    rw [← ExceptionData.height_writeOption]
    simp only [SentObjectAck.write, Json.height, Json.heightOfProperties, maxDepth]
    omega
  have back : SentObjectAck.read classes (ack.write classes) = .ok (some ack) := by
    simp [SentObjectAck.read, SentObjectAck.write, SentObjectAck.readProperties, Contract.readGuid, Contract.readBool,
      classes.guid.readsBack, ExceptionData.read_writeOption, readString_string, Except.map, bind, Except.bind]
  by_cases shallow : (ack.write classes).height ≤ maxDepth
  · have written : serializeAck classes ack = .ok (ack.write classes) := if_pos shallow
    refine ⟨iff_of_true ⟨_, written⟩ (height.mp shallow), fun json h => ?_⟩
    cases written.symm.trans h
    unfold deserializeAck
    rw [if_neg (Nat.not_lt.mpr (Nat.le_trans (Json.nesting_le_height _) shallow))]
    exact back
  · have refused (json : Json) : serializeAck classes ack ≠ .ok json := by
      unfold serializeAck
      rw [if_neg shallow]
      nofun
    exact ⟨iff_of_false (fun ⟨json, h⟩ => refused json h) fun few => shallow (height.mpr few),
      fun json h => absurd h (refused json)⟩

end JsonSerializer

/-- Types that cannot be used together cannot be used with others either. -/
theorem SentClasses.unsupported_of_subset {classes : SentClasses} {types others : List SentType} (nodup : types.Nodup)
    (subset : types ⊆ others) (bad : ¬classes.Supports types) : ¬classes.Supports others := by
  intro supports
  refine bad ⟨fun t ht => supports.concrete t (subset ht), nodup.map_on fun t ht u hu same => ?_⟩
  exact List.inj_on_of_nodup_map supports.named (subset ht) (subset hu) same

end RabbitMediator
