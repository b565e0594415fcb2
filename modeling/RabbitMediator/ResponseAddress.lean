import RabbitMediator.AnsweredOnce
import RabbitMediator.Topology

namespace RabbitMediator

/-- The queue `Request` listens on for its response. -/
theorem receiverOf_response {requester : Mediator} {t : SentType} {p : ReceiveTopology}
    (h : t.isAssignableTo .response = true) (hp : receiverOf requester t = .ok p) :
    ∃ name, RabbitNaming.typeName t = .ok name ∧
      p.queueName = responseQueue name requester.getInstanceInformation := by
  obtain ⟨name, a, hn, ha, rfl⟩ := receiverOf_addressing hp
  have ht : Addressing.targeted.implementedBy t = true := SentType.implements_of_isAssignableTo h rfl
  cases Addressing.implementedBy_unique ha ht
  refine ⟨name, hn, ?_⟩
  simp only [Addressing.receiver, Addressing.queueName, receiveChannelFor, h, if_true]
  rfl

theorem responseQueue_eq_iff {t u : String} {m k : Mediator} :
    responseQueue t m.getInstanceInformation = responseQueue u k.getInstanceInformation ↔
      t = u ∧ m.getInstanceInformation = k.getInstanceInformation := by
  constructor
  · intro h
    obtain ⟨_, type, instanceId, scope⟩ := RabbitNaming.inputQueue_inj (by simp) (by simp) h
    exact ⟨type, congrArg₂ InstanceInformation.mk instanceId scope⟩
  · rintro ⟨rfl, same⟩
    rw [same]

section Issued

variable {env : Environment} {mediator requester : Mediator} {q : Request} {id : Guid} {timeOut : TimeSpan}

/-- Whoever an issued request names after `Consume` is a mediator: the requester, or the last one that was given the
object. -/
theorem sender_reissued (requester : Mediator) (q : Request) (id : Guid) (timeOut : TimeSpan)
    (reissued : Option Reissue) : ∃ sender : Mediator,
      ((q.issued requester.getInstanceInformation id timeOut).reissued reissued).senderInstance =
        some sender.getInstanceInformation ∧
      (sender.getInstanceInformation = requester.getInstanceInformation ↔
        ∀ s, reissued = some s → s.mediator.getInstanceInformation = requester.getInstanceInformation) := by
  cases reissued with
  | none => exact ⟨requester, rfl, iff_of_true rfl (by simp)⟩
  | some s => exact ⟨s.mediator, rfl, by simp⟩

/-- A response to an issued request goes to the queue its requester listens on, just when an answer the
consumer gave has the type name of the declared response type, and a consumer that was asked has not passed the object
on to another mediator. -/
theorem response_reaches_requester_iff {p : ReceiveTopology} {queue : String} {r : Response}
    (listening : receiverOf requester q.tResponse = .ok p)
    (published : .publishedResponse queue r ∈ (handleRequest env mediator
      (q.issued requester.getInstanceInformation id timeOut)).effects) :
    queue = p.queueName ↔
      (∀ a, ReachesConsumer env mediator (q.issued requester.getInstanceInformation id timeOut) →
        env.consumeRequest (q.issued requester.getInstanceInformation id timeOut) =
          .completed (some a) →
        RabbitNaming.typeName a.1.type = RabbitNaming.typeName q.tResponse) ∧
      ∀ s, ReachesConsumer env mediator (q.issued requester.getInstanceInformation id timeOut) →
        env.reissued = some s →
        s.mediator.getInstanceInformation = requester.getInstanceInformation := by
  obtain ⟨declared, hd, hq⟩ := receiverOf_response q.isResponse listening
  obtain ⟨after, name, target, hn, ht, rfl, reports⟩ := handleRequest_published published
  obtain ⟨sender, hs, unmoved⟩ := sender_reissued requester q id timeOut env.reissued
  rw [hq]
  cases reports with
  | @consumed a reached returned =>
    obtain rfl : sender.getInstanceInformation = target := Option.some.inj (hs.symm.trans ht)
    rw [responseQueue_eq_iff, unmoved]
    have named : RabbitNaming.typeName a.1.type = .ok name := by
      rw [Response.type_restamped] at hn
      exact hn
    refine and_congr ?_ (by simp [reached])
    constructor
    · rintro rfl b _ hb
      cases returned.symm.trans hb
      exact named.trans hd.symm
    · intro h
      cases named.symm.trans ((h a reached returned).trans hd)
      rfl
  | failed reached abnormal created why =>
    obtain rfl : sender.getInstanceInformation = target := Option.some.inj (hs.symm.trans ht)
    have named : RabbitNaming.typeName q.tResponse = .ok name := (createInstance_ok created).1 ▸ hn
    cases named.symm.trans hd
    rw [responseQueue_eq_iff, unmoved]
    refine and_congr (iff_of_true rfl fun a _ returned => absurd returned (abnormal a)) (by simp [reached])
  | refused unreached created why =>
    obtain rfl : requester.getInstanceInformation = target := Option.some.inj ht
    have named : RabbitNaming.typeName q.tResponse = .ok name := (createInstance_ok created).1 ▸ hn
    cases named.symm.trans hd
    exact iff_of_true rfl
      ⟨fun _ reached => absurd reached unreached, fun _ reached => absurd reached unreached⟩

end Issued

def testIssued : Request := testRequest.issued testMediator.getInstanceInformation ⟨1⟩ tenSeconds

/-- The response the consumer of `testEnvironment` returns, marked as a success. -/
def testResponse : Response :=
  ⟨testAnyTargetedResponse, testAnyTargetedResponse_isResponse, none, .empty, false, none, true, none,
    false, false, "TestRequiredString"⟩

theorem testResponse_reaches_requester :
    responseQueue "Weltmeyer.RabbitMediator.TestTool.Messages.TestAnyTargetedResponse"
      testMediator.getInstanceInformation =
    (Addressing.targeted.receiver testMediator testAnyTargetedResponse
      "Weltmeyer.RabbitMediator.TestTool.Messages.TestAnyTargetedResponse").queueName :=
  (@response_reaches_requester_iff (testEnvironment (.request testRequest)) testMediator testMediator
    testRequest ⟨1⟩ tenSeconds _ _ (testResponse.addressed testMediator testIssued) (by decide)
    (by decide)).mpr ⟨fun a _ h => by cases h; rfl, fun s _ h => by cases h⟩

/-- A class of its own that a consumer returns for the declared response class. -/
def testDerivedResponse : SentType := .derived (testClass "TestDerivedResponse") testAnyTargetedResponse

def derivedEnvironment : Environment :=
  { testEnvironment (.request testRequest) with
    options := some (JsonSerializerHelper.rebuildOptions [testDerivedResponse])
    consumeRequest := fun q =>
      if h : testDerivedResponse.isAssignableTo q.tResponse = true then
        .completed (some ⟨⟨testDerivedResponse, by decide, none, .empty, false, none, false, none,
          false, false, "TestRequiredString"⟩, h⟩)
      else .nullTask }

theorem derived_response_misses_requester :
    ¬∀ env mediator requester (q : Request) id timeOut p queue r,
      receiverOf requester q.tResponse = .ok p →
      .publishedResponse queue r ∈ (handleRequest env mediator
        (q.issued requester.getInstanceInformation id timeOut)).effects →
      queue = p.queueName := by
  intro h
  have hq := h derivedEnvironment testMediator testMediator testRequest ⟨1⟩ tenSeconds
    (Addressing.targeted.receiver testMediator testAnyTargetedResponse
      "Weltmeyer.RabbitMediator.TestTool.Messages.TestAnyTargetedResponse")
    (responseQueue "Weltmeyer.RabbitMediator.TestTool.Messages.TestDerivedResponse"
      testMediator.getInstanceInformation)
    (Response.addressed ⟨testDerivedResponse, by decide, none, .empty, false, none, true, none, false,
      false, "TestRequiredString"⟩ testMediator testIssued) (by decide) (by decide)
  revert hq
  decide

end RabbitMediator
