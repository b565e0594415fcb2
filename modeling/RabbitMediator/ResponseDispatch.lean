import RabbitMediator.Correlation
import RabbitMediator.Settlement
import RabbitMediator.Validation

namespace RabbitMediator

open Interleaving Registry Rendezvous Traced

section Handling

variable {env : Environment} {mediator : Mediator} {s : ResponseWaiters} {r : Response}

/-- What `Remove` and `SetResult` of a run find when these are the awaiters. -/
def Environment.meeting (env : Environment) (s : ResponseWaiters) (id : Guid) : Environment :=
  { env with
    removedWaiter := s.entries.lookup id
    setResult := if (s.entries.lookup id).all fun w => s.completion w = .pending then .ok ()
      else .error setResultTwice }

/-- What an effect does to the awaiters: `Remove`, `Result` and `SetResult` stand behind one another. -/
def applyEffect (s : ResponseWaiters) : Effect → ResponseWaiters
  | .wroteResult w r => ((s.remove r.correlationId).writeResult w r).complete w .ranToCompletion
  | _ => s

def applyEffects (s : ResponseWaiters) (effects : List Effect) : ResponseWaiters :=
  effects.foldl applyEffect s

theorem applyEffects_of_only {α : Type} {x : Run α} (h : Only (fun e => ∀ s, applyEffect s e = s) x)
    (s : ResponseWaiters) : applyEffects s x.effects = s := by
  unfold Only at h
  unfold applyEffects
  generalize x.effects = es at h
  induction es with
  | nil => rfl
  | cons e es ih =>
    rw [List.foldl_cons, h e List.mem_cons_self]
    exact ih fun e he => h e (List.mem_cons_of_mem _ he)

theorem spares_of_publishes {e : Effect} (h : e.publishes = true) (s : ResponseWaiters) :
    applyEffect s e = s := by
  cases e <;> first | rfl | cases h

theorem consumeMessage_spares (m : IMessage) (t : ConsumerType) :
    Only (fun e => ∀ s, applyEffect s e = s) (consumeMessage env mediator m t) := by
  unfold consumeMessage
  refine only_bind (only_lift _ _) fun consumer _ => only_bind (only_lift _ _) fun _ _ => ?_
  unfold invoke
  cases consumer with
  | none => exact only_lift _ (.error _)
  | some u =>
    refine only_bind (only_emit fun _ => rfl) fun _ _ => ?_
    cases env.consumeMessage m <;> first | exact only_pure _ _ | exact only_lift _ (.error _)

/-- A message that goes to a consumer leaves the awaiters alone, be it a response or not. -/
theorem handleMessage_spares {c : RabbitMultiplexerMediatorConfiguration} {m : IMessage} {t : ConsumerType}
    (hc : env.configuration = some c) (hm : c.sentTypeToConsumerMapping.lookup m.type = some t) :
    Only (fun e => ∀ s, applyEffect s e = s) (handleMessage env mediator m) := by
  unfold handleMessage
  rw [hc]
  simp only [getConfiguration, lift_ok_bind, hm]
  refine only_bind (only_lift _ _) fun sender _ => only_bind (only_tryCatch ?_ ?_) fun ack _ => ?_
  · exact only_bind (consumeMessage_spares m t) fun _ _ => only_pure _ _
  · exact fun _ _ => only_pure _ _
  · exact only_bind (fun e he => spares_of_publishes (acknowledge_publishes _ _ e he)) fun _ _ => only_pure _ _

theorem handleMessage_unmapped {c : RabbitMultiplexerMediatorConfiguration} (hc : env.configuration = some c)
    (hm : c.sentTypeToConsumerMapping.lookup r.type = none) :
    (handleMessage (env.meeting s r.correlationId) mediator (.response r)).effects =
      match s.entries.lookup r.correlationId with
      | some w => [.wroteResult w r]
      | none => [] := by
  have same : (env.meeting s r.correlationId).configuration = some c := hc
  have unmapped : c.sentTypeToConsumerMapping.lookup (IMessage.response r).type = none := hm
  unfold handleMessage
  rw [same]
  simp only [getConfiguration, lift_ok_bind, unmapped]
  have met : (env.meeting s r.correlationId).removedWaiter = s.entries.lookup r.correlationId := rfl
  rw [met]
  cases s.entries.lookup r.correlationId with
  | none => rfl
  | some w => cases (env.meeting s r.correlationId).setResult <;> rfl

/-- A handler that nobody disturbs leaves the awaiters as `HandleMessage` does. -/
theorem run_received_eq_handleMessage {c : RabbitMultiplexerMediatorConfiguration}
    (hc : env.configuration = some c) (hm : c.sentTypeToConsumerMapping.lookup r.type = none) :
    (Handler.run responseProtocol 4 (s, .received r)).1 =
      applyEffects s (handleMessage (env.meeting s r.correlationId) mediator (.response r)).effects := by
  rw [handleMessage_unmapped hc hm]
  cases hl : s.entries.lookup r.correlationId with
  | none =>
    have absent : s.entries.lookup (responseProtocol.key r) = none := hl
    have missed : Handler.next responseProtocol s (.received r) = some (s, .missed) := by
      simp only [Handler.next, absent]
    rw [Handler.run_step missed]
    rfl
  | some w =>
    have entry : s.entries.lookup (responseProtocol.key r) = some w := hl
    have found : Handler.next responseProtocol s (.received r) = some (s, .found r w) := by
      simp only [Handler.next, entry]
    have removed : Handler.next responseProtocol s (.found r w) =
        some (s.remove r.correlationId, .removed r w) := rfl
    have written : Handler.next responseProtocol (s.remove r.correlationId) (.removed r w) =
        some ((s.remove r.correlationId).writeResult w r, .ready r w) := rfl
    rw [Handler.run_step found, Handler.run_step removed, Handler.run_step written]
    have applied : applyEffects s [.wroteResult w r] =
        ((s.remove r.correlationId).writeResult w r).complete w .ranToCompletion := rfl
    rw [applied]
    by_cases hp : ((s.remove r.correlationId).writeResult w r).completion w = .pending
    · simp [Handler.run, Handler.next, responseProtocol, hp]
    · simp [Handler.run, Handler.next, hp, complete_of_completed hp]

/-- What a delivery does to the awaiters is what `HandleMessage` does. -/
theorem applyEffects_received (ready : env.configureDone = true ∧ env.mediatorConfigureDone = true)
    (live : env.disposed = false) (arrived : env.deserialized = .ok (some (.message (.response r))))
    (channel deliveryTag : Nat) :
    applyEffects s (handleSentObjectReceived env mediator channel deliveryTag).effects =
      applyEffects s (handleMessage env mediator (.response r)).effects := by
  have caught := tryCatch_pure (handleMessage env mediator (.response r)) false
  have handled : tryHandleSentObjectReceived env mediator =
      tryCatch (handleMessage env mediator (.response r)) fun _ => pure false := by
    simp [tryHandleSentObjectReceived, live, arrived, handleSentObject]
  obtain ⟨same, success, he⟩ := caught
  unfold handleSentObjectReceived
  simp only [ready.1, ready.2, Bool.not_true, Bool.or_self, Bool.false_eq_true, if_false]
  rw [handled, bind_of_ok he, same, applyEffects, List.foldl_append]
  cases success <;> rfl

/-- A response that a consumer takes for a message leaves the awaiters as they are. -/
theorem consumed_response_spares {c : RabbitMultiplexerMediatorConfiguration} {t : ConsumerType}
    (ready : env.configureDone = true ∧ env.mediatorConfigureDone = true) (live : env.disposed = false)
    (arrived : env.deserialized = .ok (some (.message (.response r)))) (hc : env.configuration = some c)
    (hm : c.sentTypeToConsumerMapping.lookup r.type = some t) (channel deliveryTag : Nat) :
    applyEffects s (handleSentObjectReceived (env.meeting s r.correlationId) mediator channel
      deliveryTag).effects = s := by
  have same : applyEffects s (handleSentObjectReceived (env.meeting s r.correlationId) mediator channel
      deliveryTag).effects = applyEffects s (handleMessage (env.meeting s r.correlationId) mediator
        (.response r)).effects := by
    refine applyEffects_received ?_ ?_ ?_ channel deliveryTag
    · exact ready
    · exact live
    · exact arrived
  have spared : Only (fun e => ∀ s, applyEffect s e = s) (handleMessage (env.meeting s r.correlationId)
      mediator (.response r)) := handleMessage_spares hc hm
  rw [same, applyEffects_of_only spared]

end Handling

/-- The source of awaiter `w` has run to completion with this result. -/
def CompletedWith (s : ResponseWaiters) (w : Nat) (r : Response) : Prop :=
  ∃ a, s.awaiters[w]? = some a ∧ a.completion = .ranToCompletion ∧ a.result = some r

theorem completedWith_of_pending {s : ResponseWaiters} {w : Nat} {r : Response}
    {a : Awaiter Guid MediatorRef Response Abort} (ha : s.awaiters[w]? = some a)
    (pending : a.completion = .pending) : CompletedWith (applyEffects s [.wroteResult w r]) w r := by
  refine ⟨{ a with result := some r, completion := .ranToCompletion }, ?_, rfl, rfl⟩
  simp [applyEffects, applyEffect, Registry.complete, Registry.writeResult, Registry.remove, ha, pending]

/-- A waiting call's entry leads to its own awaiter, which nobody has completed. -/
theorem waiting_entry {hosts : Hosts} {c : Config World Thread} (h : Reachable (system hosts) System.init c)
    {i : Nat} {call : RequestCall} {issued : Issued} (hi : c.pool[i]? = some (.request call))
    (waits : call.phase = .waiting issued)
    (entry : issued.request.correlationId ∈ (c.shared.responseWaiters call.mediator.multiplexer).entries) :
    (c.shared.responseWaiters call.mediator.multiplexer).entries.lookup issued.request.correlationId =
        some issued.waiter ∧
      ∃ a, (c.shared.responseWaiters call.mediator.multiplexer).awaiters[issued.waiter]? = some a ∧
        a.completion = .pending := by
  have valid := (responses_kept h call.mediator.multiplexer).1.valid
  obtain ⟨a, ha, hid⟩ := (((linked_of_reachable h).2 i _ hi).1 issued (by rw [waits]; rfl)).waiter
  obtain ⟨w, hw⟩ := Option.isSome_iff_exists.mp (AList.lookup_isSome.mpr entry)
  have own : w = issued.waiter := valid.entry_unique hw ha hid
  refine ⟨own ▸ hw, a, ha, ?_⟩
  by_contra done
  rw [← hid, valid.closed ha done] at hw
  cases hw

/-- A response with the id of a waiting call is taken out of the dictionary and completes its waiter, just
when no consumer of the accepted configuration takes responses of its class for messages. -/
theorem response_reaches_waiter_iff {hosts : Hosts} {c : Config World Thread}
    (h : Reachable (system hosts) System.init c) {i : Nat} {call : RequestCall} {issued : Issued}
    (hi : c.pool[i]? = some (.request call)) (waits : call.phase = .waiting issued)
    (entry : issued.request.correlationId ∈ (c.shared.responseWaiters call.mediator.multiplexer).entries)
    {interfaceMap : InterfaceMap} {settings : RabbitMediatorSettings}
    (accepted : settings.validate interfaceMap = .ok ())
    (own : hosts.configuration call.mediator = settings.toRabbitMediatorConfiguration)
    {types : List ConsumerType}
    (listed : (hosts.configuration call.mediator).getAllConsumerTypes = .ok types)
    {env : Environment} (ready : env.configureDone = true ∧ env.mediatorConfigureDone = true)
    (live : env.disposed = false)
    (configured : env.configuration = some (.configured (hosts.configuration call.mediator) types listed))
    {r : Response} (arrived : env.deserialized = .ok (some (.message (.response r))))
    (carries : r.correlationId = issued.request.correlationId) (channel deliveryTag : Nat) :
    let waiters := c.shared.responseWaiters call.mediator.multiplexer
    let after := applyEffects waiters (handleSentObjectReceived (env.meeting waiters r.correlationId)
      (hosts.mediator call.mediator) channel deliveryTag).effects
    (r.correlationId ∉ after.entries ∧ CompletedWith after issued.waiter r) ↔
      ∀ t ∈ types, ∀ i ∈ t.messageInterfaces, i.messageType ≠ r.type := by
  intro waiters after
  obtain ⟨lookup, a, ha, pending⟩ := waiting_entry h hi waits entry
  have distinct : (types.flatMap (·.sentTypes)).Nodup := by
    obtain ⟨types', listed', distinct⟩ := sentTypes_nodup_of_validate accepted
    rw [own, listed'] at listed
    exact Except.ok.inj listed ▸ distinct
  rw [← lookup_response_none_iff distinct r]
  cases hm : (configureAllReceivers types).lookup r.type with
  | none =>
    have effects : after = applyEffects waiters (handleMessage (env.meeting waiters r.correlationId)
        (hosts.mediator call.mediator) (.response r)).effects := by
      refine applyEffects_received ?_ ?_ ?_ channel deliveryTag
      · exact ready
      · exact live
      · exact arrived
    have found : waiters.entries.lookup r.correlationId = some issued.waiter := carries ▸ lookup
    rw [handleMessage_unmapped configured hm, found] at effects
    refine iff_of_true ?_ rfl
    rw [effects]
    exact ⟨AList.lookup_eq_none.mp (lookup_remove waiters r.correlationId), completedWith_of_pending ha pending⟩
  | some t =>
    refine iff_of_false (fun completed => completed.1 ?_) (by simp)
    have same : after = waiters := consumed_response_spares ready live arrived configured hm channel deliveryTag
    exact same ▸ carries ▸ entry

def RequestCall.waitsFor (c : RequestCall) : Option Issued :=
  match c.phase with
  | .waiting issued => some issued
  | _ => none

theorem RequestCall.phase_of_waitsFor {c : RequestCall} {issued : Issued} (h : c.waitsFor = some issued) :
    c.phase = .waiting issued := by
  unfold waitsFor at h
  split at h
  next he => cases h; exact he
  next => cases h

/-- The first call waits under id 7, and its entry is there. -/
def awaitsAnswer (c : Config World Thread) : Bool :=
  (c.pool[0]?.bind Thread.requestCall).any fun call => call.waitsFor.any fun issued =>
    issued.request.correlationId = ⟨7⟩ && call.mediator = ⟨0, 0⟩ &&
      decide (⟨7⟩ ∈ (c.shared.responseWaiters 0).entries)

theorem exists_of_awaitsAnswer {c : Config World Thread} (h : awaitsAnswer c = true) :
    ∃ call issued, c.pool[0]? = some (.request call) ∧ call.phase = .waiting issued ∧
      issued.request.correlationId = ⟨7⟩ ∧ call.mediator = ⟨0, 0⟩ ∧
      ⟨7⟩ ∈ (c.shared.responseWaiters 0).entries := by
  obtain ⟨call, hb, h⟩ := (Option.any_eq_true _ _).mp h
  obtain ⟨t, ht, hq⟩ := Option.bind_eq_some_iff.mp hb
  cases Thread.eq_of_requestCall hq
  obtain ⟨issued, hw, h⟩ := (Option.any_eq_true _ _).mp h
  obtain ⟨h, entry⟩ := Bool.and_eq_true_iff.mp h
  obtain ⟨id, own⟩ := Bool.and_eq_true_iff.mp h
  exact ⟨call, issued, ht, RequestCall.phase_of_waitsFor hw, of_decide_eq_true id, of_decide_eq_true own,
    of_decide_eq_true entry⟩

theorem testResponse_reaches_waiter : ∃ c,
    (system testHosts).run (fun _ _ => true) System.init testRequestRun = some c ∧
    ∃ w, CompletedWith (applyEffects (c.shared.responseWaiters 0) (handleSentObjectReceived
      ((testEnvironment (.message (.response testAnswer))).meeting (c.shared.responseWaiters 0) ⟨7⟩)
      testMediator 1 1).effects) w testAnswer := by
  have h : ((system testHosts).run (fun _ _ => true) System.init testRequestRun).any awaitsAnswer = true := by
    decide
  obtain ⟨c, hc, ha⟩ := (Option.any_eq_true _ _).mp h
  obtain ⟨call, issued, hi, waits, id, own, entry⟩ := exists_of_awaitsAnswer ha
  have accepted : testSettings.validate testInterfaceMap = .ok () := by decide
  have listed : (testHosts.configuration call.mediator).getAllConsumerTypes =
      .ok [testAnyTargetedRequestConsumer, testAnyTargetedMessageConsumer] := rfl
  have configured : (testEnvironment (.message (.response testAnswer))).configuration =
      some (.configured (testHosts.configuration call.mediator) _ listed) := rfl
  have reached := (response_reaches_waiter_iff (.of_run .start (fun _ _ _ => trivial) hc) hi waits
    (by rw [own, id]; exact entry) accepted rfl listed ⟨rfl, rfl⟩ rfl configured rfl id.symm 1 1).mpr
    (by decide)
  rw [own] at reached
  exact ⟨c, hc, issued.waiter, reached.2⟩

/-- A consumer that wants the test responses as messages. -/
def testResponseConsumer : ConsumerType where
  fullName := "Weltmeyer.RabbitMediator.TestTool.Consumers.TestAnyTargetedResponseConsumer"
  assembly := "Weltmeyer.RabbitMediator.Test.Shared"
  isAbstract := false
  implementsIConsumer := true
  messageInterfaces := [⟨testAnyTargetedResponse, by rfl⟩]
  requestInterfaces := []
  messageInterfaces_nodup := List.pairwise_singleton _ _
  requestInterfaces_nodup := List.nodup_nil
  consumeParameters := [testAnyTargetedResponse]

def testResponseSettings : RabbitMediatorSettings :=
  ⟨{ testConfiguration with consumerTypes := [testResponseConsumer] }, .singleton, 10, none⟩

def testResponseHosts : Hosts :=
  { testHosts with configuration := fun _ => testResponseSettings.toRabbitMediatorConfiguration }

/-- The delivery of a response to a mediator with that consumer. -/
def testResponseEnvironment : Environment :=
  { testEnvironment (.message (.response testAnswer)) with
    configuration := some (.configured testResponseSettings.toRabbitMediatorConfiguration
      [testResponseConsumer] rfl) }

theorem consumed_response_misses_waiter :
    ¬∀ hosts c, Reachable (system hosts) System.init c → ∀ (i : Nat) call issued,
      c.pool[i]? = some (.request call) → call.phase = .waiting issued →
      issued.request.correlationId ∈ (c.shared.responseWaiters call.mediator.multiplexer).entries →
      ∀ interfaceMap (settings : RabbitMediatorSettings), settings.validate interfaceMap = .ok () →
      hosts.configuration call.mediator = settings.toRabbitMediatorConfiguration →
      ∀ types (listed : (hosts.configuration call.mediator).getAllConsumerTypes = .ok types)
        (env : Environment), env.configureDone = true ∧ env.mediatorConfigureDone = true →
      env.disposed = false →
      env.configuration = some (.configured (hosts.configuration call.mediator) types listed) →
      ∀ r, env.deserialized = .ok (some (.message (.response r))) →
      r.correlationId = issued.request.correlationId → ∀ channel deliveryTag,
      let waiters := c.shared.responseWaiters call.mediator.multiplexer
      let after := applyEffects waiters (handleSentObjectReceived (env.meeting waiters r.correlationId)
        (hosts.mediator call.mediator) channel deliveryTag).effects
      r.correlationId ∉ after.entries ∧ CompletedWith after issued.waiter r := by
  intro claim
  have h : ((system testResponseHosts).run (fun _ _ => true) System.init testRequestRun).any awaitsAnswer =
      true := by decide +kernel
  obtain ⟨c, hc, ha⟩ := (Option.any_eq_true _ _).mp h
  obtain ⟨call, issued, hi, waits, id, own, entry⟩ := exists_of_awaitsAnswer ha
  have gone := (claim testResponseHosts c (.of_run .start (fun _ _ _ => trivial) hc) 0 call issued hi waits
    (by rw [own, id]; exact entry) testInterfaceMap testResponseSettings (by decide) rfl
    [testResponseConsumer] rfl testResponseEnvironment ⟨rfl, rfl⟩ rfl rfl testAnswer rfl id.symm 1 1).1
  refine gone ?_
  rw [consumed_response_spares (t := testResponseConsumer) ⟨rfl, rfl⟩ rfl rfl rfl (by decide) 1 1]
  rw [own]
  exact entry

end RabbitMediator
