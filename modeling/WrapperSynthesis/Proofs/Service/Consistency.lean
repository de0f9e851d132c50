import WrapperSynthesis.Analysis.Fault
import WrapperSynthesis.Proofs.Registry.Growth

/-! What it means that a service has no faults: its methods have distinct identities, return types
and wrappers point at members, and the slots of a composed return type hold wrappers of their kinds
(`faults_eq_nil_iff`). -/

namespace WrapperSynthesis

/-- The type that a wrapper wraps. -/
def ModelType.target? : ModelType → Option TypeId
  | pollingHandle h => h.result
  | pageIterator p => some p.element
  | primitive _ | composite _ => none

namespace Registry

/-- A handle that points at a polling handle with the given list-all marker. -/
def HoldsHandle (r : Registry) (id : TypeId) (listAll : Bool) : Prop :=
  ∃ h, r.get? id = some (.pollingHandle h) ∧ h.listAll = listAll

/-- A handle that points at a page iterator. -/
def HoldsPager (r : Registry) (id : TypeId) : Prop := ∃ p, r.get? id = some (.pageIterator p)

/-- The slots of a composed return type hold a handle, a list-all handle and a page iterator. -/
def FitsSlots (r : Registry) : ReturnType → Prop
  | .response _ => True
  | .pagedOperation c =>
    r.HoldsHandle c.handle false ∧ r.HoldsHandle c.listAllHandle true ∧ r.HoldsPager c.pager

variable {r r' : Registry} {id : TypeId} {m : Method} {listAll : Bool}

theorem Grows.holdsHandle (h : r.Grows r') (held : r.HoldsHandle id listAll) :
    r'.HoldsHandle id listAll := by
  obtain ⟨handle, found, marker⟩ := held
  exact ⟨handle, h.get? found, marker⟩

theorem Grows.holdsPager (h : r.Grows r') (held : r.HoldsPager id) : r'.HoldsPager id := by
  obtain ⟨pager, found⟩ := held
  exact ⟨pager, h.get? found⟩

theorem Grows.fitsSlots (h : r.Grows r') {returnType : ReturnType}
    (fits : r.FitsSlots returnType) : r'.FitsSlots returnType := by
  cases returnType with
  | response => trivial
  | pagedOperation c =>
    obtain ⟨handle, listAll, pager⟩ := fits
    exact ⟨h.holdsHandle handle, h.holdsHandle listAll, h.holdsPager pager⟩

theorem hasId_eq_true_iff : r.hasId id = true ↔ ∃ type, r.get? id = some type := by
  rw [Registry.hasId, Option.isSome_iff_exists]

theorem handleFaults_eq_nil_iff (known : r.hasId id = true) :
    r.handleFaults m id listAll = [] ↔ r.HoldsHandle id listAll := by
  obtain ⟨type, found⟩ := hasId_eq_true_iff.mp known
  cases type with
  | pollingHandle h =>
    by_cases hl : h.listAll = listAll <;> simp [handleFaults, HoldsHandle, found, hl]
  | primitive t | composite t | pageIterator t => simp [handleFaults, HoldsHandle, found]

theorem pagerFaults_eq_nil_iff (known : r.hasId id = true) :
    r.pagerFaults m id = [] ↔ r.HoldsPager id := by
  obtain ⟨type, found⟩ := hasId_eq_true_iff.mp known
  cases type <;> simp [pagerFaults, HoldsPager, found]

theorem referenceFaults_eq_nil_iff :
    r.referenceFaults m = [] ↔ ∀ id ∈ m.returnType.referenced, r.hasId id = true := by
  simp [referenceFaults]

theorem methodFaults_eq_nil_iff :
    r.methodFaults m = [] ↔
      (∀ id ∈ m.returnType.referenced, r.hasId id = true) ∧ r.FitsSlots m.returnType := by
  rw [methodFaults, List.append_eq_nil_iff, referenceFaults_eq_nil_iff]
  refine and_congr_right fun known => ?_
  rw [slotFaults]
  cases hr : m.returnType with
  | response => simp [FitsSlots]
  | pagedOperation c =>
    rw [hr] at known
    have slot : ∀ id ∈ [c.handle, c.listAllHandle, c.pager], r.hasId id = true :=
      fun id hid => known id (List.mem_append_left _ hid)
    simp only [FitsSlots, List.append_eq_nil_iff, and_assoc,
      handleFaults_eq_nil_iff (slot c.handle (by simp)),
      handleFaults_eq_nil_iff (slot c.listAllHandle (by simp)),
      pagerFaults_eq_nil_iff (slot c.pager (by simp))]

theorem memberFaults_eq_nil_iff (id : TypeId) (type : ModelType) :
    r.memberFaults (id, type) = [] ↔
      ∀ target, type.target? = some target → r.hasId target = true := by
  cases type with
  | primitive | composite => simp [memberFaults, ModelType.target?]
  | pageIterator p => simp [memberFaults, ModelType.target?]
  | pollingHandle h =>
    cases hr : h.result with
    | none => simp [memberFaults, ModelType.target?, hr]
    | some result => simp [memberFaults, ModelType.target?, hr]

theorem mem_entries {entry : TypeId × ModelType} :
    entry ∈ r.entries ↔ r.get? entry.1 = some entry.2 := by
  obtain ⟨⟨i⟩, type⟩ := entry
  simp only [entries, List.mem_map, Prod.mk.injEq, TypeId.mk.injEq, Registry.get?]
  constructor
  · rintro ⟨⟨type', j⟩, hmem, rfl, rfl⟩
    exact List.mk_mem_zipIdx_iff_getElem?.mp hmem
  · intro found
    exact ⟨(type, i), List.mk_mem_zipIdx_iff_getElem?.mpr found, rfl, rfl⟩

end Registry

/-- One violation is listed for each identity that comes again, so none is exactly when all are
distinct. -/
theorem duplicateFaults_eq_nil_iff (seen : List (String × String)) (methods : List Method) :
    duplicateFaults seen methods = [] ↔
      (methods.map Method.identity).Nodup ∧ ∀ m ∈ methods, m.identity ∉ seen := by
  induction methods generalizing seen with
  | nil => simp [duplicateFaults]
  | cons m rest ih =>
    rw [duplicateFaults]
    by_cases hm : m.identity ∈ seen
    · simp [hm]
    · simp only [hm, ite_false, ih, List.map_cons, List.nodup_cons, List.mem_map, List.mem_cons,
        forall_eq_or_imp, not_false_eq_true, true_and, not_or]
      constructor
      · rintro ⟨nodup, fresh⟩
        refine ⟨⟨?_, nodup⟩, fun m' hm' => (fresh m' hm').2⟩
        rintro ⟨m', hm', same⟩
        exact (fresh m' hm').1 same
      · rintro ⟨⟨new, nodup⟩, fresh⟩
        exact ⟨nodup, fun m' hm' => ⟨fun same => new ⟨m', hm', same⟩, fresh m' hm'⟩⟩

/-- A service without faults. -/
structure Service.Consistent (s : Service) : Prop where
  distinct : (s.methods.map Method.identity).Nodup
  registered : ∀ m ∈ s.methods, ∀ id ∈ m.returnType.referenced, s.types.hasId id = true
  slots : ∀ m ∈ s.methods, s.types.FitsSlots m.returnType
  targets : ∀ type ∈ s.types.members, ∀ target, type.target? = some target →
    s.types.hasId target = true

theorem Service.faults_eq_nil_iff (s : Service) : s.faults = [] ↔ s.Consistent := by
  simp only [faults, List.append_eq_nil_iff, List.flatMap_eq_nil_iff, duplicateFaults_eq_nil_iff,
    Registry.methodFaults_eq_nil_iff, List.not_mem_nil, not_false_eq_true, implies_true, and_true]
  constructor
  · rintro ⟨⟨distinct, methods⟩, members⟩
    refine ⟨distinct, fun m hm => (methods m hm).1, fun m hm => (methods m hm).2, ?_⟩
    intro type hmem
    obtain ⟨i, found⟩ := List.mem_iff_getElem?.mp hmem
    exact (Registry.memberFaults_eq_nil_iff ⟨i⟩ type).mp
      (members (⟨i⟩, type) (Registry.mem_entries.mpr found))
  · rintro ⟨distinct, registered, slots, targets⟩
    refine ⟨⟨distinct, fun m hm => ⟨registered m hm, slots m hm⟩⟩, ?_⟩
    rintro ⟨id, type⟩ hmem
    exact (Registry.memberFaults_eq_nil_iff id type).mpr
      (targets type (Registry.mem_of_get? (Registry.mem_entries.mp hmem)))

end WrapperSynthesis
