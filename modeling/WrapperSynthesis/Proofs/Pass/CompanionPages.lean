import WrapperSynthesis.Model.Format
import WrapperSynthesis.Proofs.Pass.Acceptance

/-! Which handles are known to be registered when a pass has succeeded: those of return types, of
polling handles and of page iterators. The page of a page iterator holds a handle too. It is no part
of the iterator's key and no check looks at it, so an iterator that was there before the pass keeps
the page that it came with, and methods are wrapped in it all the same (`closed_iff_of_run_augment`,
`exists_ok_strayPage`). -/

namespace WrapperSynthesis

/-- The page of the iterator is the one that its element and its preparer flag give. -/
def PageIterator.PageMatches (p : PageIterator) : Prop := p.page = ⟨p.element, p.needsPreparer⟩

instance (p : PageIterator) : Decidable p.PageMatches :=
  inferInstanceAs (Decidable (p.page = ⟨p.element, p.needsPreparer⟩))

/-- Every handle that a method or a wrapper holds is registered, and every page is the one of its
iterator. -/
structure Service.Closed (s : Service) : Prop where
  references : ∀ m ∈ s.methods, ∀ id ∈ m.returnType.referenced, s.types.hasId id = true
  targets : ∀ type ∈ s.types.members, ∀ target, type.target? = some target →
    s.types.hasId target = true
  pageElements : ∀ p, .pageIterator p ∈ s.types.members → s.types.hasId p.page.element = true
  pages : ∀ p, .pageIterator p ∈ s.types.members → p.PageMatches

variable {naming : Naming} {settings : GenerationSettings} {s s' : Service} {report : Report}

theorem Method.pageMatches_of_mem_candidates {m : Method} {kind : OperationKind} {p : PageIterator}
    (asked : .pageIterator p ∈ m.candidates naming kind) : p.PageMatches := by
  obtain ⟨_, _, _, same⟩ | ⟨built, found, same⟩ := exists_of_mem_candidates asked
  · cases same
  · obtain ⟨element, _, rfl⟩ := exists_of_pageIterator found
    rw [ModelType.pageIterator.inj same]
    rfl

theorem Reworked.pageMatches_iff (h : Reworked naming settings s s' report) :
    (∀ p, .pageIterator p ∈ s'.types.members → p.PageMatches) ↔
      ∀ p, .pageIterator p ∈ s.types.members → p.PageMatches := by
  constructor
  · intro matching p loaded
    exact matching p (h.grows.subset loaded)
  · intro matching p member
    rw [h.types] at member
    rcases Registry.mem_of_mem_registerAll member with loaded | ⟨asked, _⟩
    · exact matching p loaded
    · obtain ⟨m, _, asked⟩ := List.mem_flatMap.mp asked
      exact Method.pageMatches_of_mem_candidates asked

/-- After a pass that succeeds the handles of return types are registered, and so are the types that
wrappers wrap. Pages are in order exactly when those of the iterators were that the service held
before the pass. -/
theorem closed_iff_of_run_augment (ok : (Service.augment naming settings).run s = .ok report s') :
    (∀ m ∈ s'.methods, ∀ id ∈ m.returnType.referenced, s'.types.hasId id = true) ∧
    (∀ type ∈ s'.types.members, ∀ target, type.target? = some target →
      s'.types.hasId target = true) ∧
    (s'.Closed ↔ ∀ p, .pageIterator p ∈ s.types.members → p.PageMatches) := by
  obtain ⟨_, reworked, faultless⟩ := reworked_of_run_augment ok
  obtain ⟨_, references, _, targets⟩ := (Service.faults_eq_nil_iff s').mp faultless
  refine ⟨references, targets, ?_⟩
  rw [← reworked.pageMatches_iff]
  constructor
  · exact Service.Closed.pages
  · intro matching
    refine ⟨references, targets, ?_, matching⟩
    intro p member
    rw [matching p member]
    exact targets _ member p.element rfl

/-! ### A page iterator that is read from a file -/

/-- The page iterator of `List` is registered already, with the given page. -/
def pagedService (page : PageType) : Service where
  name := "widgets"
  methods := [
    { name := "List", kind := .paginated, returnType := .response ⟨some ⟨0⟩, none⟩ }]
  types := .ofList [.ofComposite "Widget", .pageIterator ⟨⟨0⟩, false, page⟩]

/-- The service once `List` returns the iterator. -/
def pagedServiceAugmented (page : PageType) : Service where
  name := "widgets"
  methods := [
    { name := "List", kind := .paginated, returnType := .response ⟨some ⟨1⟩, none⟩ }]
  types := .ofList [.ofComposite "Widget", .pageIterator ⟨⟨0⟩, false, page⟩]

theorem closed_pagedServiceAugmented :
    (Service.augment joinedName {}).run (pagedService ⟨⟨0⟩, false⟩) =
      .ok ⟨1, 1, 0, 0, 0, []⟩ (pagedServiceAugmented ⟨⟨0⟩, false⟩) ∧
    (pagedServiceAugmented ⟨⟨0⟩, false⟩).Closed := by
  have matching : ∀ p, .pageIterator p ∈ (pagedService ⟨⟨0⟩, false⟩).types.members →
      p.PageMatches := by
    intro p loaded
    simp only [pagedService, Registry.ofList, ModelType.ofComposite, List.mem_cons, reduceCtorEq,
      ModelType.pageIterator.injEq, List.not_mem_nil, or_false, false_or] at loaded
    rw [loaded]
    rfl
  have ok : (Service.augment joinedName {}).run (pagedService ⟨⟨0⟩, false⟩) =
      .ok ⟨1, 1, 0, 0, 0, []⟩ (pagedServiceAugmented ⟨⟨0⟩, false⟩) := rfl
  exact ⟨ok, (closed_iff_of_run_augment ok).2.2.mpr matching⟩

/-- A service as a file spells it, each record as an array of its fields. The page of its page
iterator is one of the type `#9`. -/
def strayPageText : String :=
  "[\"widgets\", [[\"\", \"List\", \"\", \"paginated\", null, [\"response\", 0]]], " ++
    "[[\"composite\", \"Widget\"], [\"page_iterator\", 0, false, [9]]]]"

/-- The file is read and the pass succeeds. `List` now returns an iterator whose page dangles. -/
theorem exists_ok_strayPage :
    (Service.ofJson strayPageText).toOption = some (pagedService ⟨⟨9⟩, false⟩) ∧
    ∃ report s', (Service.augment joinedName {}).run (pagedService ⟨⟨9⟩, false⟩) = .ok report s' ∧
      ∃ m ∈ s'.methods, ∃ id ∈ m.returnType.referenced, ∃ p,
        s'.types.get? id = some (.pageIterator p) ∧
        s'.types.hasId p.page.element = false ∧ ¬ p.PageMatches := by
  have read : (Service.ofJson strayPageText).toOption = some (pagedService ⟨⟨9⟩, false⟩) := by
    decide +kernel
  exact ⟨read, _, pagedServiceAugmented ⟨⟨9⟩, false⟩, rfl, _, List.mem_cons_self, ⟨1⟩, by decide,
    _, rfl, rfl, by decide⟩

end WrapperSynthesis
