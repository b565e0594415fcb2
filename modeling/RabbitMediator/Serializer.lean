import Mathlib.Data.List.Nodup
import RabbitMediator.SentType

namespace RabbitMediator

structure JsonDerivedType where
  derivedType : SentType
  typeDiscriminator : String
deriving DecidableEq

inductive JsonUnknownDerivedTypeHandling
  | failSerialization
  | fallBackToBaseType
  | fallBackToNearestAncestor
deriving DecidableEq

structure JsonPolymorphismOptions where
  typeDiscriminatorPropertyName : String
  ignoreUnrecognizedTypeDiscriminators : Bool
  unknownDerivedTypeHandling : JsonUnknownDerivedTypeHandling
  derivedTypes : List JsonDerivedType
deriving DecidableEq

/-- A type the resolver is asked about. -/
inductive JsonType
  | iSentObject
  | other
deriving DecidableEq

/-- The types a `SentObjectTypeResolver` was made with. -/
structure SentObjectTypeResolver where
  sentObjectTypes : List SentType
deriving DecidableEq

/-- What `GetTypeInfo` sets on the type info of its base class. -/
def SentObjectTypeResolver.getTypeInfo (resolver : SentObjectTypeResolver) :
    JsonType → Option JsonPolymorphismOptions
  | .other => none
  | .iSentObject => some {
      typeDiscriminatorPropertyName := "$type"
      ignoreUnrecognizedTypeDiscriminators := true
      unknownDerivedTypeHandling := .failSerialization
      derivedTypes := resolver.sentObjectTypes.map fun dt => ⟨dt, dt.fullName⟩ }

structure JsonSerializerOptions where
  typeInfoResolver : SentObjectTypeResolver
  isReadOnly : Bool
deriving DecidableEq

namespace JsonSerializerOptions

def makeReadOnly (options : JsonSerializerOptions) : JsonSerializerOptions :=
  { options with isReadOnly := true }

/-- An object of the class can be written and read as an `ISentObject`. -/
def Recognises (options : JsonSerializerOptions) (t : SentType) : Prop :=
  ∃ polymorphism, options.typeInfoResolver.getTypeInfo .iSentObject = some polymorphism ∧
    ⟨t, t.fullName⟩ ∈ polymorphism.derivedTypes

theorem recognises_iff {options : JsonSerializerOptions} {t : SentType} :
    options.Recognises t ↔ t ∈ options.typeInfoResolver.sentObjectTypes := by
  simp only [Recognises, SentObjectTypeResolver.getTypeInfo, Option.some.injEq, exists_eq_left', List.mem_map,
    JsonDerivedType.mk.injEq]
  constructor
  · rintro ⟨dt, hdt, rfl, _⟩
    exact hdt
  · exact fun ht => ⟨t, ht, rfl, rfl⟩

end JsonSerializerOptions

/-- A `JsonSerializerHelper`. Before the first type there are no options. -/
structure JsonSerializerHelper where
  options : Option JsonSerializerOptions
  knownTypes : List SentType
  typeSemaphoreTaken : Bool

namespace JsonSerializerHelper

def unused : JsonSerializerHelper := ⟨none, [], false⟩

def rebuildOptions (newKnownTypes : List SentType) : JsonSerializerOptions := ⟨⟨newKnownTypes⟩, false⟩

/-- The options in use recognise the type. -/
def Recognises (s : JsonSerializerHelper) (t : SentType) : Prop := ∃ o, s.options = some o ∧ o.Recognises t

end JsonSerializerHelper

/-- Where a call of `AddTypeIfMissing` stands. Each phase reads or writes one of the two fields, or the
semaphore. -/
inductive AddTypeIfMissing
  | entered
  | waiting
  | rechecking
  | collecting
  | rebuilding (newKnownTypes : List SentType)
  | freezing (newKnownTypes : List SentType)
  | storing (newKnownTypes : List SentType)
  | releasing
  | returned
deriving DecidableEq

namespace AddTypeIfMissing

def next (newType : SentType) (s : JsonSerializerHelper) :
    AddTypeIfMissing → Option (JsonSerializerHelper × AddTypeIfMissing)
  | .entered => some (s, if s.knownTypes.contains newType then .returned else .waiting)
  | .waiting => if s.typeSemaphoreTaken then none else some ({ s with typeSemaphoreTaken := true }, .rechecking)
  | .rechecking => some (s, if s.knownTypes.contains newType then .releasing else .collecting)
  | .collecting => some (s, .rebuilding (s.knownTypes ++ [newType]))
  | .rebuilding newKnownTypes =>
    some ({ s with options := some (JsonSerializerHelper.rebuildOptions newKnownTypes) }, .freezing newKnownTypes)
  | .freezing newKnownTypes =>
    some ({ s with options := s.options.map JsonSerializerOptions.makeReadOnly }, .storing newKnownTypes)
  | .storing newKnownTypes => some ({ s with knownTypes := newKnownTypes }, .releasing)
  | .releasing => some ({ s with typeSemaphoreTaken := false }, .returned)
  | .returned => none

/-- The call is between the `WaitAsync` and the `Release` of `_typeSemaphore`. -/
def inside : AddTypeIfMissing → Bool
  | .entered | .waiting | .returned => false
  | _ => true

end AddTypeIfMissing

/-- A call of `Serialize`, with the class of its object when that is an `ISentObject`. -/
inductive Serialize
  | adding (sentObject : SentType) (call : AddTypeIfMissing)
  | reading (sentObject : Option SentType)
  | serializing (sentObject : Option SentType) (options : Option JsonSerializerOptions)

namespace Serialize

def entered : Option SentType → Serialize
  | some sentObject => .adding sentObject .entered
  | none => .reading none

def next (s : JsonSerializerHelper) : Serialize → Option (JsonSerializerHelper × Serialize)
  | .adding sentObject .returned => some (s, .reading (some sentObject))
  | .adding sentObject call => (call.next sentObject s).map fun p => (p.1, .adding sentObject p.2)
  | .reading sentObject => some (s, .serializing sentObject s.options)
  | .serializing _ _ => none

end Serialize

/-- A call of `Deserialize`. -/
inductive Deserialize
  | reading
  | deserializing (options : Option JsonSerializerOptions)

def Deserialize.next (s : JsonSerializerHelper) : Deserialize → Option Deserialize
  | .reading => some (.deserializing s.options)
  | .deserializing _ => none

/-- Everything a call of `AddTypeIfMissing` can do in one step. -/
inductive AddTypeIfMissing.Step (newType : SentType) (s : JsonSerializerHelper) :
    AddTypeIfMissing → JsonSerializerHelper → AddTypeIfMissing → Prop
  | known (old : newType ∈ s.knownTypes) : Step newType s .entered s .returned
  | waits (new : newType ∉ s.knownTypes) : Step newType s .entered s .waiting
  | acquired (free : s.typeSemaphoreTaken = false) :
      Step newType s .waiting { s with typeSemaphoreTaken := true } .rechecking
  | found (old : newType ∈ s.knownTypes) : Step newType s .rechecking s .releasing
  | missing (new : newType ∉ s.knownTypes) : Step newType s .rechecking s .collecting
  | collected : Step newType s .collecting s (.rebuilding (s.knownTypes ++ [newType]))
  | rebuilt {types} : Step newType s (.rebuilding types)
      { s with options := some (JsonSerializerHelper.rebuildOptions types) } (.freezing types)
  | frozen {types} : Step newType s (.freezing types)
      { s with options := s.options.map JsonSerializerOptions.makeReadOnly } (.storing types)
  | stored {types} : Step newType s (.storing types) { s with knownTypes := types } .releasing
  | released : Step newType s .releasing { s with typeSemaphoreTaken := false } .returned

/-- What `_typeSemaphore` protects. The options may be ahead of the known types, never behind. -/
structure JsonSerializerHelper.Sound (s : JsonSerializerHelper) : Prop where
  nodup : s.knownTypes.Nodup
  recognised : ∀ t ∈ s.knownTypes, s.Recognises t

/-- What the call inside the semaphore knows. -/
def AddTypeIfMissing.Holds (newType : SentType) (s : JsonSerializerHelper) : AddTypeIfMissing → Prop
  | .collecting => newType ∉ s.knownTypes
  | .rebuilding types => newType ∉ s.knownTypes ∧ types = s.knownTypes ++ [newType]
  | .freezing types | .storing types => newType ∉ s.knownTypes ∧ types = s.knownTypes ++ [newType] ∧
    ∀ t ∈ types, s.Recognises t
  | .releasing => newType ∈ s.knownTypes
  | _ => True

section Steps

variable {newType : SentType} {s s' : JsonSerializerHelper} {phase phase' : AddTypeIfMissing}

theorem AddTypeIfMissing.step_of_next (h : phase.next newType s = some (s', phase')) :
    Step newType s phase s' phase' := by
  cases phase with
  | entered =>
    cases h
    by_cases old : newType ∈ s.knownTypes
    · rw [if_pos (List.contains_iff_mem.mpr old)]
      exact .known old
    · rw [if_neg (by simpa using old)]
      exact .waits old
  | waiting =>
    simp only [next] at h
    split at h
    next => cases h
    next free =>
      cases h
      exact .acquired (by simpa using free)
  | rechecking =>
    cases h
    by_cases old : newType ∈ s.knownTypes
    · rw [if_pos (List.contains_iff_mem.mpr old)]
      exact .found old
    · rw [if_neg (by simpa using old)]
      exact .missing old
  | collecting => cases h; exact .collected
  | rebuilding => cases h; exact .rebuilt
  | freezing => cases h; exact .frozen
  | storing => cases h; exact .stored
  | releasing => cases h; exact .released
  | returned => cases h

/-- Making the options read-only changes nothing of what they recognise. -/
theorem JsonSerializerHelper.recognises_makeReadOnly {t : SentType} (h : s.Recognises t) :
    JsonSerializerHelper.Recognises { s with options := s.options.map JsonSerializerOptions.makeReadOnly } t := by
  obtain ⟨o, ho, recognises⟩ := h
  exact ⟨o.makeReadOnly, by simp [ho], recognises⟩

theorem JsonSerializerHelper.recognises_rebuildOptions {t : SentType} {types : List SentType} (h : t ∈ types) :
    JsonSerializerHelper.Recognises { s with options := some (rebuildOptions types) } t :=
  ⟨_, rfl, JsonSerializerOptions.recognises_iff.mpr h⟩

/-- The options are written before the known types, so that they are never behind. -/
theorem AddTypeIfMissing.Step.keeps (h : Step newType s phase s' phase') (sound : s.Sound)
    (holds : phase.Holds newType s) : s'.Sound ∧ phase'.Holds newType s' := by
  cases h with
  | known | waits => exact ⟨sound, trivial⟩
  | acquired => exact ⟨⟨sound.nodup, sound.recognised⟩, trivial⟩
  | found old => exact ⟨sound, old⟩
  | missing new => exact ⟨sound, new⟩
  | collected => exact ⟨sound, holds, rfl⟩
  | rebuilt =>
    obtain ⟨new, rfl⟩ := holds
    have all : ∀ t ∈ s.knownTypes ++ [newType], JsonSerializerHelper.Recognises
        { s with options := some (JsonSerializerHelper.rebuildOptions (s.knownTypes ++ [newType])) } t :=
      fun t ht => JsonSerializerHelper.recognises_rebuildOptions ht
    exact ⟨⟨sound.nodup, fun t ht => all t (List.mem_append_left _ ht)⟩, new, rfl, all⟩
  | frozen =>
    obtain ⟨new, rfl, all⟩ := holds
    exact ⟨⟨sound.nodup, fun t ht => JsonSerializerHelper.recognises_makeReadOnly (sound.recognised t ht)⟩, new, rfl,
      fun t ht => JsonSerializerHelper.recognises_makeReadOnly (all t ht)⟩
  | stored =>
    obtain ⟨new, rfl, all⟩ := holds
    refine ⟨⟨?_, all⟩, by simp [Holds]⟩
    exact List.nodup_append'.mpr ⟨sound.nodup, List.nodup_singleton _, by simpa using new⟩
  | released => exact ⟨⟨sound.nodup, sound.recognised⟩, trivial⟩

theorem AddTypeIfMissing.Step.grows (h : Step newType s phase s' phase') (holds : phase.Holds newType s) :
    s.knownTypes <+: s'.knownTypes := by
  cases h with
  | stored =>
    obtain ⟨_, rfl, _⟩ := holds
    exact List.prefix_append _ _
  | _ => exact List.prefix_refl _

/-- A call that returns has found its type, or has added it. -/
theorem AddTypeIfMissing.Step.returns (h : Step newType s phase s' .returned) (holds : phase.Holds newType s) :
    newType ∈ s'.knownTypes := by
  cases h with
  | known old => exact old
  | released => exact holds

theorem AddTypeIfMissing.holds_outside (h : phase.inside = false) : phase.Holds newType s := by
  cases phase <;> trivial

/-- How a step moves a call with respect to the semaphore. -/
theorem AddTypeIfMissing.Step.lock (h : Step newType s phase s' phase') :
    (phase.inside = false → phase'.inside = true → s.typeSemaphoreTaken = false ∧ s'.typeSemaphoreTaken = true) ∧
    (phase.inside = false → phase'.inside = false → s' = s) ∧
    (phase.inside = true → s.typeSemaphoreTaken = true → s'.typeSemaphoreTaken = phase'.inside) := by
  cases h with
  | acquired free => simp [inside, free]
  | _ => simp [inside]

end Steps
end RabbitMediator
