import RabbitMediator.RabbitNaming

namespace RabbitMediator

open RabbitNaming

/-- The full name of a type is its name behind its namespace, which does not start with a dot. -/
def SentType.NamedByRuntime (t : SentType) : Prop :=
  ∀ ns, t.nameSpace = some ns → ns.toList ≠ [] ∧ ns.toList.head? ≠ some '.' ∧
    ∃ rest, t.fullName.toList = ns.toList ++ '.' :: rest

/-- The wire names of two types, made of their names `n` and `n'`, have nothing in common. -/
structure WireNamesDiffer (n n' : String) : Prop where
  names : n ≠ n'
  exchanges : ∀ exchange ∈ [targetedExchange, broadcastExchange, anyTargetedExchange],
    ∀ exchange' ∈ [targetedExchange, broadcastExchange, anyTargetedExchange], exchange n ≠ exchange' n'
  inputQueues : ∀ p ∈ [inputQueuePrefixMessage, inputQueuePrefixRequest, inputQueuePrefixResponse],
    ∀ q ∈ [inputQueuePrefixMessage, inputQueuePrefixRequest, inputQueuePrefixResponse],
    ∀ i s j r : GeneratedId, inputQueue p n i.value s.value ≠ inputQueue q n' j.value r.value
  sharedQueues : sharedQueue n ≠ sharedQueue n'
  consumerTags : ∀ exchange ∈ [targetedExchange, broadcastExchange, anyTargetedExchange],
    ∀ exchange' ∈ [targetedExchange, broadcastExchange, anyTargetedExchange], ∀ i s j r : GeneratedId,
    consumerTag (exchange n) i.value s.value ≠ consumerTag (exchange' n') j.value r.value

/-- The name of a type is short enough, and no type of another full name shares it. -/
structure NamedAlone (t : SentType) (name : String) : Prop where
  length : Words.utf16Length name ≤ 100
  differs : ∀ u name', u.NamedByRuntime → u.fullName ≠ t.fullName → typeName u = .ok name' →
    WireNamesDiffer name name'

/-- What is left of a namespace that was stripped. -/
def stripped : List Char := "ns.".toList

section Names

variable {t u : SentType} {name name' : String}

theorem exchange_inj {exchange exchange' : String → String}
    (he : exchange ∈ [targetedExchange, broadcastExchange, anyTargetedExchange])
    (he' : exchange' ∈ [targetedExchange, broadcastExchange, anyTargetedExchange])
    (h : exchange name = exchange' name') : name = name' := by
  simp only [List.mem_cons, List.not_mem_nil, or_false] at he he'
  rcases he with rfl | rfl | rfl <;> rcases he' with rfl | rfl | rfl
  · exact targetedExchange_inj h
  · exact absurd h (targetedExchange_ne_broadcastExchange _ _)
  · exact absurd h (targetedExchange_ne_anyTargetedExchange _ _)
  · exact absurd h.symm (targetedExchange_ne_broadcastExchange _ _)
  · exact broadcastExchange_inj h
  · exact absurd h (broadcastExchange_ne_anyTargetedExchange _ _)
  · exact absurd h.symm (targetedExchange_ne_anyTargetedExchange _ _)
  · exact absurd h.symm (broadcastExchange_ne_anyTargetedExchange _ _)
  · exact anyTargetedExchange_inj h

theorem exchangeName_of_consumerTag {e e' : String} {i s j r : GeneratedId}
    (h : consumerTag e i.value s.value = consumerTag e' j.value r.value) : e = e' := by
  obtain ⟨h, _⟩ := Words.append_inj_right h (by rw [s.length, r.length])
  obtain ⟨h, _⟩ := Words.append_inj_right ((String.append_left_inj _).mp h) (by rw [i.length, j.length])
  exact (String.append_left_inj _).mp h

/-- Different type names make different names of all kinds. -/
theorem wireNamesDiffer (h : name ≠ name') : WireNamesDiffer name name' := by
  refine ⟨h, fun _ he _ he' same => h (exchange_inj he he' same), ?_, fun same => h (sharedQueue_inj same),
    fun _ he _ he' _ _ _ _ same => h (exchange_inj he he' (exchangeName_of_consumerTag same))⟩
  intro p hp q hq i s j r same
  exact h (inputQueue_inj hp hq same).2.1

theorem typeName_short (short : Words.utf16Length t.fullName ≤ 100) : typeName t = .ok t.fullName := by
  have long : ¬100 < Words.utf16Length t.fullName := by omega
  simp [typeName, long, Bind.bind, Except.bind]

theorem typeName_long (long : 100 < Words.utf16Length t.fullName) (h : typeName t = .ok name) :
    ∃ ns, t.nameSpace = some ns ∧ ns.toList ≠ [] ∧ name = Words.replace t.fullName ns "ns" := by
  obtain ⟨useName, hu, h⟩ := except_bind_eq_ok.mp h
  rw [if_pos long] at hu
  unfold stripNamespace at hu
  split at hu
  next => cases hu
  next => cases hu
  next ns other he =>
    cases hu
    split at h
    next => cases h
    next =>
      cases h
      refine ⟨ns, he, fun empty => ?_, rfl⟩
      exact other (String.toList_inj.mp empty)

/-- A name that was too long begins with what is left of the namespace. -/
theorem stripped_of_long (named : t.NamedByRuntime) (long : 100 < Words.utf16Length t.fullName)
    (h : typeName t = .ok name) : stripped <+: name.toList := by
  obtain ⟨ns, hns, some_, rfl⟩ := typeName_long long h
  obtain ⟨_, head, rest, he⟩ := named ns hns
  refine ⟨Words.replaceFrom ns.toList "ns".toList 0 rest, ?_⟩
  rw [Words.toList_replace, he, Words.replaceFrom_append some_, Words.replaceFrom_cons head some_]
  rfl

/-- A class in a namespace of `k` letters. -/
def homonym (k : Nat) (rest : List Char) : SentType :=
  .derived ⟨"", String.ofList (List.replicate k 'q' ++ rest), some (String.ofList (List.replicate k 'q')), "", true⟩
    .message

/-- A short name that begins like a stripped one belongs to a class in some long namespace too. -/
theorem exists_homonym (short : Words.utf16Length name ≤ 100) (h : stripped <+: name.toList) (other : String) :
    ∃ u : SentType, u.NamedByRuntime ∧ u.fullName ≠ other ∧ typeName u = .ok name := by
  obtain ⟨rest, he⟩ := h
  obtain ⟨k, hk⟩ : ∃ k, k = 101 + other.toList.length := ⟨_, rfl⟩
  have there : name.toList.length ≤ 100 := Nat.le_trans (Words.length_le_utf16Length name) short
  have rest_short : rest.length + 1 < k := by
    have length := congrArg List.length he
    have three : stripped.length = 3 := by decide
    rw [List.length_append] at length
    omega
  have some_ : List.replicate k 'q' ≠ [] := by
    rw [Ne, List.replicate_eq_nil_iff]
    omega
  have fullName : (homonym k ('.' :: rest)).fullName.toList = List.replicate k 'q' ++ '.' :: rest := by
    simp [homonym, SentType.fullName]
  have long : 100 < Words.utf16Length (homonym k ('.' :: rest)).fullName := by
    have least := Words.length_le_utf16Length (homonym k ('.' :: rest)).fullName
    rw [fullName, List.length_append, List.length_replicate] at least
    omega
  refine ⟨homonym k ('.' :: rest), ?_, ?_, ?_⟩
  · intro ns hns
    cases hns
    rw [String.toList_ofList]
    refine ⟨some_, ?_, rest, fullName⟩
    rw [List.head?_replicate, if_neg (by omega)]
    decide
  · intro same
    have length := congrArg (fun s => s.toList.length) same
    simp only [fullName, List.length_append, List.length_replicate] at length
    omega
  · have replaced : Words.replace (homonym k ('.' :: rest)).fullName (String.ofList (List.replicate k 'q')) "ns" =
        name := by
      apply String.toList_inj.mp
      rw [Words.toList_replace, fullName, String.toList_ofList, Words.replaceFrom_append some_,
        Words.replaceFrom_short (by simpa using rest_short)]
      exact he
    have strip : stripNamespace (homonym k ('.' :: rest)).fullName (homonym k ('.' :: rest)).nameSpace = .ok name := by
      rw [← replaced]
      unfold stripNamespace
      split
      next h => cases h
      next h =>
        simp only [homonym, SentType.nameSpace, Option.some.injEq] at h
        have empty := congrArg String.toList h
        rw [String.toList_ofList] at empty
        exact absurd empty some_
      next h => cases h; rfl
    have fits : ¬100 < Words.utf16Length name := by omega
    simp [typeName, long, strip, fits, Bind.bind, Except.bind]

/-- The name of a type is its own just when its full name is short and does not begin like a stripped one. -/
theorem typeName_namedAlone_iff (named : t.NamedByRuntime) (returned : typeName t = .ok name) :
    NamedAlone t name ↔ Words.utf16Length t.fullName ≤ 100 ∧ ¬stripped <+: t.fullName.toList := by
  constructor
  · intro alone
    have taken : ¬stripped <+: name.toList := by
      intro h
      obtain ⟨u, hu, other, same⟩ := exists_homonym alone.length h t.fullName
      exact (alone.differs u name hu other same).names rfl
    have short : Words.utf16Length t.fullName ≤ 100 := by
      by_contra long
      exact taken (stripped_of_long named (by omega) returned)
    cases (typeName_short short).symm.trans returned
    exact ⟨short, taken⟩
  · rintro ⟨short, free⟩
    refine ⟨typeName_length returned, fun u name' hu other hn => wireNamesDiffer fun same => ?_⟩
    cases (typeName_short short).symm.trans returned
    subst same
    by_cases long : 100 < Words.utf16Length u.fullName
    · exact free (stripped_of_long hu long hn)
    · have same := (typeName_short (by omega)).symm.trans hn
      exact other (Except.ok.inj same)

end Names

theorem testAnyTargetedMessage_namedAlone :
    NamedAlone testAnyTargetedMessage "Weltmeyer.RabbitMediator.TestTool.Messages.TestAnyTargetedMessage" :=
  (typeName_namedAlone_iff (fun ns h => by
      cases h
      exact ⟨by decide, by decide, "TestAnyTargetedMessage".toList, by decide⟩) (by decide)).mpr
    ⟨by decide, by decide⟩

/-- Two classes of one name, in two long namespaces. -/
theorem stripped_names_collide :
    ¬∀ t u name name', SentType.NamedByRuntime t → u.NamedByRuntime → t.fullName ≠ u.fullName →
      typeName t = .ok name → typeName u = .ok name' → WireNamesDiffer name name' := by
  intro claim
  have homonym (other : String) : ∃ u : SentType, u.NamedByRuntime ∧ u.fullName ≠ other ∧ typeName u = .ok "ns.M" :=
    exists_homonym (by decide) (by decide) other
  obtain ⟨t, ht, _, hn⟩ := homonym ""
  obtain ⟨u, hu, other, hn'⟩ := homonym t.fullName
  exact (claim t u _ _ ht hu (Ne.symm other) hn hn').names rfl

end RabbitMediator
