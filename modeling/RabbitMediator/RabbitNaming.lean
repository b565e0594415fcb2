import RabbitMediator.Words
import RabbitMediator.Exceptions
import RabbitMediator.SentType

namespace RabbitMediator

/-- Ten characters out of `IdCharacters`. -/
def idCharacters : String := "0123456789ABCDEFGHIJKLMNOPQRSTUVWXYZabcdefghijklmnopqrstuvwxyz"

/-- What `GenerateId` can return. -/
structure GeneratedId where
  value : String
  length : value.toList.length = 10
  characters : value.toList.all (idCharacters.toList.contains ·) = true
deriving DecidableEq

/-- `GenerateId`, with what `Random.Shared.Next` returns for each letter. -/
def generateId (next : Fin 10 → Fin idCharacters.toList.length) : String :=
  String.ofList (List.ofFn fun i => idCharacters.toList.get (next i))

theorem exists_generateId_iff {id : String} :
    (∃ next, generateId next = id) ↔ ∃ i : GeneratedId, i.value = id := by
  constructor
  · rintro ⟨next, rfl⟩
    refine ⟨⟨generateId next, by simp [generateId], ?_⟩, rfl⟩
    rw [generateId, String.toList_ofList, List.all_eq_true]
    intro c hc
    obtain ⟨i, rfl⟩ := List.mem_ofFn.mp hc
    exact List.contains_iff_mem.mpr (List.get_mem _ _)
  · rintro ⟨i, rfl⟩
    have drawn : ∀ k : Fin 10, ∃ n : Fin idCharacters.toList.length,
        idCharacters.toList.get n = i.value.toList.get (k.cast i.length.symm) := by
      intro k
      have listed := List.all_eq_true.mp i.characters _ (List.get_mem i.value.toList (k.cast i.length.symm))
      exact List.mem_iff_get.mp (List.contains_iff_mem.mp listed)
    choose next hnext using drawn
    refine ⟨next, String.toList_inj.mp ?_⟩
    rw [generateId, String.toList_ofList]
    refine List.ext_getElem (by rw [List.length_ofFn, i.length]) fun n hn hm => ?_
    rw [List.getElem_ofFn]
    exact hnext ⟨n, by rwa [List.length_ofFn] at hn⟩

theorem GeneratedId.not_mem (i : GeneratedId) {x : Char} (other : idCharacters.toList.contains x = false) :
    x ∉ i.value.toList := by
  intro h
  have listed := List.all_eq_true.mp i.characters _ h
  rw [other] at listed
  cases listed

namespace RabbitNaming

def keySeparator : String := "::"

def targetedExchangeName : String := "TargetedExchange"

def broadCastExchangeName : String := "BroadCastExchange"

def anyTargetedExchangeName : String := "AnyTargetedExchange"

def broadcastRoutingKey : String := "broadcast"

def anyTargetedRoutingKey : String := "broadcast"

def sharedQueuePrefix : String := "shared"

def inputQueuePrefixMessage : String := "inputMessage"

def inputQueuePrefixRequest : String := "inputRequest"

def inputQueuePrefixResponse : String := "inputResponse"

def ackQueuePrefix : String := "ackqueue"

def stripNamespace (useName : String) : Option String → Except Exception String
  | none => .error (.new .argumentNull "Value cannot be null. (Parameter 'oldValue')")
  | some "" => .error (.new .argument "String cannot be of zero length. (Parameter 'oldValue')")
  | some ns => .ok (Words.replace useName ns "ns")

/-- The name of a type inside exchange and queue names. A namespace is asked for only when the full
name is too long with it. -/
def typeName (type : SentType) : Except Exception String := do
  let useName ← (if 100 < Words.utf16Length type.fullName
    then stripNamespace type.fullName type.nameSpace else .ok type.fullName)
  if 100 < Words.utf16Length useName
    then .error (.new .argument ("Type name too long: " ++ type.fullName))
    else .ok useName

def targetedExchange (typeName : String) : String := targetedExchangeName ++ keySeparator ++ typeName

def broadcastExchange (typeName : String) : String := broadCastExchangeName ++ keySeparator ++ typeName

def anyTargetedExchange (typeName : String) : String :=
  anyTargetedExchangeName ++ keySeparator ++ typeName

def instanceRoutingKey (instanceId scopeId : String) : String := instanceId ++ "_" ++ scopeId

def inputQueue (queuePrefix typeName instanceId scopeId : String) : String :=
  queuePrefix ++ keySeparator ++ typeName ++ keySeparator ++ instanceId ++ keySeparator ++ scopeId

def sharedQueue (typeName : String) : String := sharedQueuePrefix ++ keySeparator ++ typeName

def ackQueue (instanceId : String) : String := ackQueuePrefix ++ keySeparator ++ instanceId

def consumerTag (exchangeName instanceId scopeId : String) : String :=
  exchangeName ++ keySeparator ++ instanceId ++ keySeparator ++ scopeId

theorem typeName_length {type : SentType} {name : String} (h : typeName type = .ok name) :
    Words.utf16Length name ≤ 100 := by
  obtain ⟨useName, _, h⟩ := except_bind_eq_ok.mp h
  split at h
  next => cases h
  next hle =>
    cases h
    omega

theorem targetedExchange_inj {t u : String} (h : targetedExchange t = targetedExchange u) : t = u :=
  String.append_right_inj _ |>.mp h

theorem broadcastExchange_inj {t u : String} (h : broadcastExchange t = broadcastExchange u) :
    t = u :=
  String.append_right_inj _ |>.mp h

theorem anyTargetedExchange_inj {t u : String}
    (h : anyTargetedExchange t = anyTargetedExchange u) : t = u :=
  String.append_right_inj _ |>.mp h

theorem targetedExchange_ne_broadcastExchange (t u : String) :
    targetedExchange t ≠ broadcastExchange u :=
  Words.append_ne_of_head (by decide) (by decide) (by decide) t u

theorem targetedExchange_ne_anyTargetedExchange (t u : String) :
    targetedExchange t ≠ anyTargetedExchange u :=
  Words.append_ne_of_head (by decide) (by decide) (by decide) t u

theorem broadcastExchange_ne_anyTargetedExchange (t u : String) :
    broadcastExchange t ≠ anyTargetedExchange u :=
  Words.append_ne_of_head (by decide) (by decide) (by decide) t u

theorem sharedQueue_inj {t u : String} (h : sharedQueue t = sharedQueue u) : t = u :=
  String.append_right_inj _ |>.mp h

/-- The three prefixes differ within their first eight letters. -/
theorem inputQueuePrefix_inj {p q t u : String}
    (hp : p ∈ [inputQueuePrefixMessage, inputQueuePrefixRequest, inputQueuePrefixResponse])
    (hq : q ∈ [inputQueuePrefixMessage, inputQueuePrefixRequest, inputQueuePrefixResponse])
    (h : p ++ t = q ++ u) : p = q := by
  have hl := congrArg (fun s => s.toList.take 8) h
  simp only [String.toList_append] at hl
  simp only [List.mem_cons, List.not_mem_nil, or_false] at hp hq
  rcases hp with rfl | rfl | rfl <;> rcases hq with rfl | rfl | rfl <;>
    first | rfl | exact absurd hl (by simp [inputQueuePrefixMessage, inputQueuePrefixRequest,
      inputQueuePrefixResponse])

/-- Generated ids have one length and no underscore, so a routing key names one mediator, whatever
the two words are it was put together from. -/
theorem instanceRoutingKey_inj {i s : String} {j t : GeneratedId}
    (h : instanceRoutingKey i s = instanceRoutingKey j.value t.value) : i = j.value ∧ s = t.value := by
  have hl := congrArg String.toList h
  simp only [instanceRoutingKey, String.toList_append] at hl
  obtain ⟨hi, hs⟩ := Words.split_at_once (x := '_') (by simpa using hl) (j.not_mem (by decide))
    (t.not_mem (by decide))
  exact ⟨String.toList_inj.mp hi, String.toList_inj.mp hs⟩

theorem inputQueue_inj {p q t u : String} {i j s r : GeneratedId}
    (hp : p ∈ [inputQueuePrefixMessage, inputQueuePrefixRequest, inputQueuePrefixResponse])
    (hq : q ∈ [inputQueuePrefixMessage, inputQueuePrefixRequest, inputQueuePrefixResponse])
    (h : inputQueue p t i.value s.value = inputQueue q u j.value r.value) :
    p = q ∧ t = u ∧ i.value = j.value ∧ s.value = r.value := by
  obtain ⟨h, hs⟩ := Words.append_inj_right h (by rw [s.length, r.length])
  obtain ⟨h, hi⟩ := Words.append_inj_right ((String.append_left_inj _).mp h)
    (by rw [i.length, j.length])
  have ht := (String.append_left_inj _).mp h
  rw [String.append_assoc, String.append_assoc] at ht
  have hpq := inputQueuePrefix_inj hp hq ht
  subst hpq
  exact ⟨rfl, (String.append_right_inj _).mp ((String.append_right_inj _).mp ht), hi, hs⟩

/-- A queue that ends with generated ids belongs to no other instance. -/
theorem inputQueue_inj_of_generated {p t i s : String} {j r : GeneratedId}
    (h : inputQueue p t i s = inputQueue p t j.value r.value) : i = j.value ∧ s = r.value := by
  have hl := congrArg String.toList h
  simp only [inputQueue, keySeparator, String.toList_append, List.append_assoc, List.append_cancel_left_eq] at hl
  obtain ⟨hi, hs⟩ := Words.split_at_pair (x := ':') (by simpa using hl) (j.not_mem (by decide))
    (r.not_mem (by decide))
  exact ⟨String.toList_inj.mp hi, String.toList_inj.mp hs⟩

theorem inputQueue_ne_sharedQueue {p : String}
    (hp : p ∈ [inputQueuePrefixMessage, inputQueuePrefixRequest, inputQueuePrefixResponse])
    (t i s u : String) : inputQueue p t i s ≠ sharedQueue u := by
  intro h
  have hl := congrArg (fun s => s.toList.take 1) h
  simp only [inputQueue, sharedQueue, String.toList_append] at hl
  simp only [List.mem_cons, List.not_mem_nil, or_false] at hp
  rcases hp with rfl | rfl | rfl <;>
    exact absurd hl (by simp [inputQueuePrefixMessage, inputQueuePrefixRequest,
      inputQueuePrefixResponse, sharedQueuePrefix])

end RabbitNaming
end RabbitMediator
