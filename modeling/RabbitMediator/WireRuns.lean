import RabbitMediator.ResponseAddress
import RabbitMediator.RoundTrip
import RabbitMediator.TypeRegistry

namespace RabbitMediator

open Interleaving

/-- A sent object on its way from the options that write it to those that read it. It is written just when the types
of the one side can be used together and its own data is not too deep. It is read back as it was, but for the two flags
of a response, when the types of the other side can be used together; else nothing is. -/
structure Passes (classes : SentClasses) (written read : JsonSerializerOptions) (o : SentObject) : Prop where
  writes : (∃ json, JsonSerializer.serialize classes (some written) o = .ok json) ↔
    classes.Supports written.typeInfoResolver.sentObjectTypes ∧
      ∃ own, classes.write o.type o.content = .ok own ∧ o.Shallow own
  reads : ∀ json, JsonSerializer.serialize classes (some written) o = .ok json →
    classes.Supports read.typeInfoResolver.sentObjectTypes →
      JsonSerializer.deserialize classes (some read) json = .ok (some o.overTheWire)
  refuses : ¬classes.Supports read.typeInfoResolver.sentObjectTypes →
    ∀ json, ∃ e, JsonSerializer.deserialize classes (some read) json = .error e

theorem passes_of_recognises {classes : SentClasses} {written read : JsonSerializerOptions} {o : SentObject}
    (hw : written.Recognises o.type) (hr : read.Recognises o.type) (carries : o.Carries)
    (roundTrips : classes.RoundTrips o.type) : Passes classes written read o := by
  have known := JsonSerializerOptions.recognises_iff.mp hw
  have awaited := JsonSerializerOptions.recognises_iff.mp hr
  refine ⟨⟨?_, ?_⟩, fun json h supports => ?_, fun bad => (JsonSerializer.unsupported awaited bad).2⟩
  · rintro ⟨json, h⟩
    obtain ⟨supports, own, hown, shallow, _⟩ := (JsonSerializer.serialize_eq_ok known).mp h
    exact ⟨supports, own, hown, shallow⟩
  · rintro ⟨supports, own, hown, shallow⟩
    exact ⟨_, (JsonSerializer.serialize_eq_ok known).mpr ⟨supports, own, hown, shallow, rfl⟩⟩
  · obtain ⟨_, own, hown, shallow, rfl⟩ := (JsonSerializer.serialize_eq_ok known).mp h
    exact JsonSerializer.deserialize_document awaited supports carries roundTrips hown shallow

/-- The options that a call of a serializer has read, with the multiplexer of the serializer. -/
def SerializingThread.hasRead : SerializingThread → Option (Nat × Option JsonSerializerOptions)
  | .serialize n (.serializing _ options) => some (n, options)
  | .deserialize n (.deserializing options) => some (n, options)
  | .received m _ (.deserializing options) => some (m.multiplexer, options)
  | _ => none

theorem SerializingThread.hasRead_goesTo (t : SerializingThread) (call : AddTypeIfMissing) :
    (t.goesTo call).hasRead = t.hasRead := by
  cases t with
  | serialize n c => cases c <;> rfl
  | _ => rfl

section Runs

variable {hosts : Hosts} {configuration : MediatorRef → RabbitMultiplexerMediatorConfiguration}
  {c d : Config SerializingWorld SerializingThread} {s s' : SerializingWorld} {t t' : SerializingThread} {n : Nat}

/-- A step that reads the options reads those in use. -/
theorem SerializingThread.Step.hasRead (h : t.Step hosts s s' t') {options : Option JsonSerializerOptions}
    (after : t'.hasRead = some (n, options)) :
    t.hasRead = some (n, options) ∨ options = (s.serializerHelper n).options := by
  cases h with
  | adds =>
    rw [SerializingThread.hasRead_goesTo] at after
    exact Or.inl after
  | serializes | deserializes | receives =>
    cases after
    exact Or.inr rfl
  | added | leads => cases after

theorem SerializingThread.hasRead_of_start (h : t.start s = true) : t.hasRead = none := by
  unfold start at h
  split at h <;> first | rfl | cases h

/-- Who reads the options from now on has all types in them that are known by now. -/
theorem recognised_later (h : Reachable (serializing hosts) ⟨.created configuration, []⟩ c)
    {u : SentType} (known : u ∈ (c.shared.serializerHelper n).knownTypes) (hd : Reachable (serializing hosts) c d) :
    ∀ (i : Nat) t options, c.pool.length ≤ i → d.pool[i]? = some t → t.hasRead = some (n, options) →
      ∃ o, options = some o ∧ o.Recognises u := by
  refine hd.invariant (P := fun d => ∀ (i : Nat) t options, c.pool.length ≤ i → d.pool[i]? = some t →
    t.hasRead = some (n, options) → ∃ o, options = some o ∧ o.Recognises u) ?_ ?_
  · intro i t options later ht
    rw [List.getElem?_eq_none later] at ht
    cases ht
  · intro d e a hd ih _ he
    have inUse := recognised_of_known h known hd
    cases a with
    | start t =>
      obtain ⟨hs, rfl⟩ := act_start he
      intro i v options later hv hasRead
      rcases pool_append_cases hv with hv | ⟨_, rfl⟩
      · exact ih i v options later hv hasRead
      · rw [SerializingThread.hasRead_of_start hs] at hasRead
        cases hasRead
    | step i x =>
      obtain ⟨t, s, t', ht, hn, rfl⟩ := act_step he
      intro j v options later hv hasRead
      rcases pool_set_cases ht hv with ⟨rfl, rfl⟩ | ⟨_, hv⟩
      · rcases (SerializingThread.step_of_next hn).hasRead hasRead with before | rfl
        · exact ih _ t options later ht before
        · exact inUse
      · exact ih j v options later hv hasRead

variable {classes : SentClasses} {i j : Nat} {options options' : Option JsonSerializerOptions}

/-- Whatever types the serializers learn in the meantime: what one multiplexer writes, a multiplexer that consumes
the type reads as it was. An acknowledgement passes whatever types they know. -/
theorem wire_round_trip (h : Reachable (serializing hosts) ⟨.created configuration, []⟩ c) {m : MediatorRef}
    {u : SentType} (hi : c.pool[i]? = some (.serialize n (.serializing (some u) options)))
    (hj : c.pool[j]? = some (.received m u (.deserializing options'))) (roundTrips : classes.RoundTrips u) :
    (∃ written read, options = some written ∧ options' = some read ∧
      ∀ o : SentObject, o.type = u → o.Carries → Passes classes written read o) ∧
      ∀ ack, AckPasses classes ack := by
  obtain ⟨_, knows⟩ := registry_known h
  obtain ⟨written, rfl, hw⟩ := (knows i _ hi).uses _ _ rfl
  obtain ⟨read, rfl, hr⟩ := (knows j _ hj).uses _ _ rfl
  refine ⟨⟨written, read, rfl, rfl, fun o same carries => ?_⟩, JsonSerializer.ack_passes classes⟩
  subst same
  exact passes_of_recognises hw hr carries roundTrips

/-- Once a serializer knows an abstract class, or two classes of one name, it never again writes or reads a sent
object, of whatever class. -/
theorem unsupported_for_good (h : Reachable (serializing hosts) ⟨.created configuration, []⟩ c)
    (bad : ¬classes.Supports (c.shared.serializerHelper n).knownTypes) (hd : Reachable (serializing hosts) c d)
    (later : c.pool.length ≤ i) (ht : d.pool[i]? = some t) (hasRead : t.hasRead = some (n, options)) :
    (∀ o, ∃ e, JsonSerializer.serialize classes options o = .error e) ∧
      ∀ json, ∃ e, JsonSerializer.deserialize classes options json = .error e := by
  have recognised {u : SentType} (known : u ∈ (c.shared.serializerHelper n).knownTypes) :=
    recognised_later h known hd i t options later ht hasRead
  cases types : (c.shared.serializerHelper n).knownTypes with
  | nil =>
    rw [types] at bad
    exact absurd ⟨by simp, List.nodup_nil⟩ bad
  | cons u us =>
    have first : u ∈ (c.shared.serializerHelper n).knownTypes := types ▸ List.mem_cons_self
    obtain ⟨o, rfl, recognises⟩ := recognised first
    have subset : (c.shared.serializerHelper n).knownTypes ⊆ o.typeInfoResolver.sentObjectTypes := by
      intro v hv
      obtain ⟨o', same, recognises'⟩ := recognised hv
      cases same
      exact JsonSerializerOptions.recognises_iff.mp recognises'
    apply JsonSerializer.unsupported (subset first)
    exact SentClasses.unsupported_of_subset (serializer_sound h n).1.nodup subset bad

end Runs

theorem testClasses_roundTrips (t : SentType) : testClasses.RoundTrips t where
  separate content own hown := by
    cases hown
    intro p hp q
    rw [List.mem_singleton.mp hp]
    show "TestRequiredString" ≠ q.name
    cases q <;> decide
  readsBack content own rest hown _ := by
    cases hown
    rfl

/-- A response that reports a failure, and has a flag set that is not read back. -/
def testReport : Response := { testResponse with
  senderInstance := some testMediator.getInstanceInformation
  targetInstance := some testMediator.getInstanceInformation
  success := false
  exceptionData := some (.fromException (.invocation objectDisposed))
  timedOut := true }

/-- One multiplexer consumes a response class, and another writes a response. -/
def testWire : List (Action SerializingThread Event) :=
  .start (.mediator ⟨⟨0, 0⟩, .receiver (.entered testAnyTargetedResponse)⟩ .entered) ::
      testSteps 0 (testConsumes.take 5 ++ List.replicate 8 .go ++ testConsumes.drop 5 ++ [.took]) ++
    .start (.serialize 1 (.entered (some testAnyTargetedResponse))) :: testSteps 1 (List.replicate 10 .go) ++
    .start (.received ⟨0, 0⟩ testAnyTargetedResponse .reading) :: testSteps 2 [.go]

/-- The call of `Serialize` that is about to write, with its type and its options. -/
def SerializingThread.writes : SerializingThread → Option (Nat × SentType × Option JsonSerializerOptions)
  | .serialize n (.serializing (some t) options) => some (n, t, options)
  | _ => none

/-- The delivery that is about to be read, with its type and its options. -/
def SerializingThread.reads : SerializingThread → Option (MediatorRef × SentType × Option JsonSerializerOptions)
  | .received m t (.deserializing options) => some (m, t, options)
  | _ => none

theorem SerializingThread.eq_of_writes {t : SerializingThread} {n : Nat} {u : SentType}
    {options : Option JsonSerializerOptions} (h : t.writes = some (n, u, options)) :
    t = .serialize n (.serializing (some u) options) := by
  unfold writes at h
  split at h <;> cases h
  rfl

theorem SerializingThread.eq_of_reads {t : SerializingThread} {m : MediatorRef} {u : SentType}
    {options : Option JsonSerializerOptions} (h : t.reads = some (m, u, options)) :
    t = .received m u (.deserializing options) := by
  unfold reads at h
  split at h <;> cases h
  rfl

/-- The options were made for this one type. -/
def testKnowsOnly (t : SentType) (options : Option JsonSerializerOptions) : Bool :=
  options.any fun o => o.typeInfoResolver.sentObjectTypes = [t]

theorem testReport_passes :
    ∃ c written read json, (serializing testHosts).run (fun _ _ => true)
        ⟨.created fun _ => testMediatorConfiguration, []⟩ testWire = some c ∧
      c.pool[1]? = some (.serialize 1 (.serializing (some testAnyTargetedResponse) (some written))) ∧
      c.pool[2]? = some (.received ⟨0, 0⟩ testAnyTargetedResponse (.deserializing (some read))) ∧
      JsonSerializer.serialize testClasses (some written) (.message (.response testReport)) = .ok json ∧
      JsonSerializer.deserialize testClasses (some read) json =
        .ok (some (.message (.response { testReport with timedOut := false }))) := by
  have h : ((serializing testHosts).run (fun _ _ => true) ⟨.created fun _ => testMediatorConfiguration, []⟩
      testWire).any (fun c =>
        (c.pool[1]?.bind SerializingThread.writes).any (fun p => decide (p.1 = 1 ∧ p.2.1 = testAnyTargetedResponse) &&
          testKnowsOnly testAnyTargetedResponse p.2.2) &&
        (c.pool[2]?.bind SerializingThread.reads).any (fun p =>
          decide (p.1 = ⟨0, 0⟩ ∧ p.2.1 = testAnyTargetedResponse) &&
            testKnowsOnly testAnyTargetedResponse p.2.2)) = true := by decide +kernel
  obtain ⟨c, hc, found⟩ := (Option.any_eq_true _ _).mp h
  obtain ⟨writes, reads⟩ := Bool.and_eq_true_iff.mp found
  obtain ⟨⟨n, u, options⟩, hw, writes⟩ := (Option.any_eq_true _ _).mp writes
  obtain ⟨⟨m, v, options'⟩, hr, reads⟩ := (Option.any_eq_true _ _).mp reads
  obtain ⟨t, ht, hw⟩ := Option.bind_eq_some_iff.mp hw
  obtain ⟨t', ht', hr⟩ := Option.bind_eq_some_iff.mp hr
  cases SerializingThread.eq_of_writes hw
  cases SerializingThread.eq_of_reads hr
  obtain ⟨writes, known⟩ := Bool.and_eq_true_iff.mp writes
  obtain ⟨reads, awaited⟩ := Bool.and_eq_true_iff.mp reads
  obtain ⟨rfl, rfl⟩ := of_decide_eq_true writes
  obtain ⟨rfl, rfl⟩ := of_decide_eq_true reads
  obtain ⟨written, rfl, known⟩ := (Option.any_eq_true _ _).mp known
  obtain ⟨read, rfl, awaited⟩ := (Option.any_eq_true _ _).mp awaited
  replace known := of_decide_eq_true known
  replace awaited := of_decide_eq_true awaited
  have supports : testClasses.Supports [testAnyTargetedResponse] := ⟨by decide, List.nodup_singleton _⟩
  obtain ⟨⟨_, _, hw, hr, passes⟩, _⟩ :=
    wire_round_trip (.of_run .start (fun _ _ _ => trivial) hc) ht ht' (testClasses_roundTrips _)
  cases hw
  cases hr
  have report := passes (.message (.response testReport)) rfl fun _ => by decide
  obtain ⟨json, serialized⟩ := report.writes.mpr ⟨known ▸ supports, _, rfl, by decide, fun d hd => by cases hd; decide⟩
  exact ⟨c, written, read, json, hc, ht, ht', serialized, report.reads json serialized (awaited ▸ supports)⟩

/-- A serializer learns an abstract class. -/
def testAbstract : List (Action SerializingThread Event) :=
  .start (.addTypeIfMissing 0 .message .entered) :: testSteps 0 (List.replicate 8 .go)

def testRequestWritten : List (Action SerializingThread Event) :=
  .start (.serialize 0 (.entered (some testAnyTargetedRequest))) :: testSteps 1 (List.replicate 10 .go)

theorem testRequest_unsupported :
    ∃ c d options, (serializing testHosts).run (fun _ _ => true)
        ⟨.created fun _ => testMediatorConfiguration, []⟩ testAbstract = some c ∧
      (serializing testHosts).run (fun _ _ => true) c testRequestWritten = some d ∧
      d.pool[1]? = some (.serialize 0 (.serializing (some testAnyTargetedRequest) options)) ∧
      ∃ e, JsonSerializer.serialize testClasses options (.request testRequest) = .error e := by
  have h : ((serializing testHosts).run (fun _ _ => true) ⟨.created fun _ => testMediatorConfiguration, []⟩
      testAbstract).any (fun c =>
        decide ((c.shared.serializerHelper 0).knownTypes = [.message] ∧ c.pool.length = 1) &&
        ((serializing testHosts).run (fun _ _ => true) c testRequestWritten).any fun d =>
          (d.pool[1]?.bind SerializingThread.writes).any fun p =>
            p.1 = 0 ∧ p.2.1 = testAnyTargetedRequest) = true := by decide +kernel
  obtain ⟨c, hc, found⟩ := (Option.any_eq_true _ _).mp h
  obtain ⟨before, after⟩ := Bool.and_eq_true_iff.mp found
  obtain ⟨known, one⟩ := of_decide_eq_true before
  obtain ⟨d, hd, found⟩ := (Option.any_eq_true _ _).mp after
  obtain ⟨⟨n, u, options⟩, hw, writes⟩ := (Option.any_eq_true _ _).mp found
  obtain ⟨t, ht, hw⟩ := Option.bind_eq_some_iff.mp hw
  cases SerializingThread.eq_of_writes hw
  obtain ⟨rfl, rfl⟩ := of_decide_eq_true writes
  have bad : ¬testClasses.Supports (c.shared.serializerHelper 0).knownTypes := by
    rw [known]
    exact fun supports => absurd (supports.concrete _ List.mem_cons_self) (by decide)
  have never := unsupported_for_good (.of_run .start (fun _ _ _ => trivial) hc) bad
    (.of_run .start (fun _ _ _ => trivial) hd) (Nat.le_of_eq one) ht rfl
  exact ⟨c, d, options, hc, hd, ht, never.1 (.request testRequest)⟩

end RabbitMediator
