import WrapperSynthesis.Proofs.Pass.Walk
import WrapperSynthesis.Proofs.Service.Consistency

/-! Which polling handle a method ends up with. The canonical handle of a key is the one that was
registered before the pass or else the one of the first method that asks for the key
(`handle?_registerAll`). When no method is refused, it has the result of every method that returns
it, except where it was made for this very method before the pass (`exists_handle?`). -/

namespace WrapperSynthesis

variable {naming : Naming} {settings : GenerationSettings}

theorem filterMap_candidatesOf (methods : List Method) :
    (candidatesOf naming settings methods).filterMap ModelType.asPollingHandle? =
      handlesOf naming settings methods := by
  rw [candidatesOf, handlesOf, List.filterMap_flatMap]
  congr 1
  funext m
  exact m.filterMap_candidates OperationKind.isLongRunning_of_masked

theorem mem_handlesOf_of_mem_candidatesOf {methods : List Method} {h : PollingHandle}
    (hc : .pollingHandle h ∈ candidatesOf naming settings methods) :
    h ∈ handlesOf naming settings methods := by
  rw [← filterMap_candidatesOf, List.mem_filterMap]
  exact ⟨_, hc, rfl⟩

/-- The canonical handle of a key after the candidates of some methods are registered. -/
theorem handle?_registerAll (types : Registry) (methods : List Method) (h : PollingHandle) :
    (types.registerAll (candidatesOf naming settings methods)).handle? h.key =
      (types.handle? h.key).or
        ((handlesOf naming settings methods).find? fun found => found.key = h.key) := by
  rw [Registry.handle?_registerAll, filterMap_candidatesOf]

theorem mem_handlesOf {methods : List Method} {h : PollingHandle} :
    h ∈ handlesOf naming settings methods ↔
      ∃ m ∈ methods, h ∈ m.handles naming (settings.kindOf m) := List.mem_flatMap

/-- A handle that an earlier method asks for was made for another identity. -/
theorem not_originatesFrom_of_distinct {before after : List Method} {m : Method}
    {h : PollingHandle} (distinct : ((before ++ m :: after).map Method.identity).Nodup)
    (hmem : h ∈ handlesOf naming settings before) :
    h.originatesFrom m.group m.name = false := by
  obtain ⟨m', hm', hh⟩ := mem_handlesOf.mp hmem
  obtain ⟨hg, hn, _⟩ := Method.of_mem_handles hh
  rw [Bool.eq_false_iff]
  intro same
  simp only [PollingHandle.originatesFrom, hg, hn, Bool.and_eq_true, decide_eq_true_eq] at same
  rw [List.map_append, List.nodup_append] at distinct
  exact distinct.2.2 m'.identity (List.mem_map_of_mem hm') m.identity (by simp)
    (Prod.ext same.1 same.2)

/-- When no method is refused, the handle that a method gets has the method's body as its result,
or it was made for this method before the pass. -/
theorem exists_handle? {methods : List Method} {types : Registry}
    (allowed : firstRefusal? naming settings methods types = none)
    (distinct : (methods.map Method.identity).Nodup) {m : Method} (hm : m ∈ methods)
    {h : PollingHandle} (hh : h ∈ m.handles naming (settings.kindOf m)) :
    ∃ found, (types.registerAll (candidatesOf naming settings methods)).handle? h.key =
        some found ∧ found.key = h.key ∧
      (found.result = m.returnType.body ∨
        types.handle? h.key = some found ∧ found.originatesFrom m.group m.name = true) := by
  obtain ⟨before, after, rfl⟩ := List.append_of_mem hm
  have own := (Method.of_mem_handles hh).2.2
  have unrefused := (Option.or_eq_none_iff.mp (refusal?_of_firstRefusal? allowed)).2
  have free := Method.conflict?_eq_none_iff.mp (List.findSome?_eq_none_iff.mp unrefused h hh)
  rw [handle?_registerAll] at free ⊢
  -- What the method meets is what was registered before it, and this stays canonical.
  cases ht : types.handle? h.key with
  | some found =>
    refine ⟨found, by simp, Registry.key_of_handle? ht, ?_⟩
    rcases free found (by simp [ht]) with origin | result
    · exact .inr ⟨rfl, origin⟩
    · exact .inl (result.trans own)
  | none =>
    rw [ht, Option.none_or] at free
    rw [Option.none_or, handlesOf_append, handlesOf_cons, List.find?_append, List.find?_append]
    cases hb : (handlesOf naming settings before).find? fun found => found.key = h.key with
    | some found =>
      refine ⟨found, by simp, by simpa using List.find?_some hb, .inl ?_⟩
      rcases free found hb with origin | result
      · rw [not_originatesFrom_of_distinct distinct (List.mem_of_find?_eq_some hb)] at origin
        cases origin
      · exact result.trans own
    | none => exact ⟨h, by simp [Method.find?_handles hh], rfl, .inl own⟩

end WrapperSynthesis
