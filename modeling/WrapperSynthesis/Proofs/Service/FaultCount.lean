import Mathlib.Data.List.Dedup
import WrapperSynthesis.Proofs.Service.Consistency

/-! How many faults a service has. Each slot of a return type and each member of the registry has
at most one, and methods with one identity have one less than they are. So the faults are counted
slot by slot, and the order of the methods decides only about the order of the faults
(`faults_itemized`). -/

namespace WrapperSynthesis

/-- What a place in a return type asks of the member that it points at. -/
inductive Slot where
  /-- A body or header metadata: every member will do. -/
  | any
  | handle (listAll : Bool)
  | pager
deriving DecidableEq

namespace Slot

def accepts : Slot → ModelType → Bool
  | any, _ => true
  | handle listAll, type => type.asPollingHandle?.any fun h => h.listAll == listAll
  | pager, type => type.asPageIterator?.isSome

/-- What is wrong with a member in the slot. -/
def misfit? (m : Method) (id : TypeId) : Slot → ModelType → Option Fault
  | any, _ => none
  | handle listAll, type =>
    match type.asPollingHandle? with
    | some h => if h.listAll = listAll then none else some (.wrongMarker m.qualifiedName id)
    | none => some (.notPollingHandle m.qualifiedName id type.kindName)
  | pager, type =>
    match type.asPageIterator? with
    | some _ => none
    | none => some (.notPageIterator m.qualifiedName id type.kindName)

theorem isSome_misfit? (m : Method) (id : TypeId) (slot : Slot) (type : ModelType) :
    (slot.misfit? m id type).isSome = !slot.accepts type := by
  cases slot with
  | any => rfl
  | handle listAll =>
    cases type with
    | pollingHandle h =>
      by_cases marker : h.listAll = listAll <;>
        simp [misfit?, accepts, ModelType.asPollingHandle?, marker]
    | primitive | composite | pageIterator => rfl
  | pager => cases type <;> rfl

end Slot

/-- The slots of a return type, each with the handle in it. -/
def ReturnType.slots : ReturnType → List (Slot × TypeId)
  | .response r => (r.body.toList ++ r.headers.toList).map (.any, ·)
  | .pagedOperation c =>
    [(.handle false, c.handle), (.handle true, c.listAllHandle), (.pager, c.pager)] ++
      c.headers.toList.map (.any, ·)

theorem ReturnType.map_slots (returnType : ReturnType) :
    returnType.slots.map Prod.snd = returnType.referenced := by
  cases returnType <;> simp [slots, referenced, Function.comp_def]

namespace Registry

variable (r : Registry) (m : Method)

/-- What is wrong with a registered type in its slot. -/
def misfit? (place : Slot × TypeId) : Option Fault :=
  (r.get? place.2).bind (place.1.misfit? m place.2)

/-- What is wrong with the handle in a slot. -/
def slotFault? (place : Slot × TypeId) : Option Fault :=
  match r.get? place.2 with
  | none => some (.unregisteredReference m.qualifiedName place.2)
  | some type => place.1.misfit? m place.2 type

/-- Whether the handle in a slot points at a member that the slot does not accept. -/
def misfits (place : Slot × TypeId) : Bool :=
  (r.get? place.2).any fun type => !place.1.accepts type

theorem isSome_misfit? (place : Slot × TypeId) : (r.misfit? m place).isSome = r.misfits place := by
  rw [misfit?, misfits]
  cases r.get? place.2 with
  | none => rfl
  | some type => exact place.1.isSome_misfit? m place.2 type

theorem handleFaults_eq (id : TypeId) (listAll : Bool) :
    r.handleFaults m id listAll = (r.misfit? m (.handle listAll, id)).toList := by
  rw [handleFaults, misfit?]
  cases r.get? id with
  | none => rfl
  | some type =>
    cases type with
    | pollingHandle h =>
      by_cases marker : h.listAll = listAll <;>
        simp [Slot.misfit?, ModelType.asPollingHandle?, marker]
    | primitive | composite | pageIterator => rfl

theorem pagerFaults_eq (id : TypeId) :
    r.pagerFaults m id = (r.misfit? m (.pager, id)).toList := by
  rw [pagerFaults, misfit?]
  cases r.get? id with
  | none => rfl
  | some type => cases type <;> rfl

theorem misfit?_any (id : TypeId) : r.misfit? m (.any, id) = none := by
  rw [misfit?]
  cases r.get? id <;> rfl

theorem slotFaults_eq : r.slotFaults m = m.returnType.slots.filterMap (r.misfit? m) := by
  rw [slotFaults, List.filterMap_eq_flatMap_toList]
  cases m.returnType with
  | response => simp [ReturnType.slots, misfit?_any]
  | pagedOperation c => simp [ReturnType.slots, misfit?_any, handleFaults_eq, pagerFaults_eq]

/-- The handles that point at nothing are reported before the misfits. -/
theorem perm_filterMap_slotFault? (places : List (Slot × TypeId)) :
    (((places.map Prod.snd).filter fun id => !r.hasId id).map
        (Fault.unregisteredReference m.qualifiedName) ++
      places.filterMap (r.misfit? m)).Perm (places.filterMap (r.slotFault? m)) := by
  induction places with
  | nil => exact .refl _
  | cons place rest ih =>
    rw [List.map_cons, List.filter_cons, List.filterMap_cons, List.filterMap_cons, hasId, misfit?,
      slotFault?]
    cases found : r.get? place.2 with
    | none => exact ih.cons _
    | some type =>
      simp only [Option.isSome_some, Bool.not_true, Bool.false_eq_true, ite_false, Option.bind_some]
      cases place.1.misfit? m place.2 type with
      | none => exact ih
      | some fault => exact List.perm_middle.trans (ih.cons fault)

theorem perm_methodFaults :
    (r.methodFaults m).Perm (m.returnType.slots.filterMap (r.slotFault? m)) := by
  rw [methodFaults, referenceFaults, slotFaults_eq, ← ReturnType.map_slots]
  exact r.perm_filterMap_slotFault? m m.returnType.slots

theorem length_methodFaults :
    (r.methodFaults m).length =
      m.returnType.referenced.countP (fun id => !r.hasId id) +
        m.returnType.slots.countP r.misfits := by
  rw [methodFaults, List.length_append, referenceFaults, List.length_map,
    ← List.countP_eq_length_filter, slotFaults_eq, List.length_filterMap_eq_countP]
  simp only [isSome_misfit?]

theorem length_flatMap_methodFaults (methods : List Method) :
    (methods.flatMap r.methodFaults).length =
      (methods.flatMap (·.returnType.referenced)).countP (fun id => !r.hasId id) +
        (methods.flatMap (·.returnType.slots)).countP r.misfits := by
  induction methods with
  | nil => rfl
  | cons m rest ih =>
    simp only [List.flatMap_cons, List.length_append, List.countP_append, length_methodFaults, ih]
    omega

theorem length_memberFaults (entry : TypeId × ModelType) :
    (r.memberFaults entry).length =
      (if entry.2.asPageIterator?.any fun p => !r.hasId p.element then 1 else 0) +
        if entry.2.asPollingHandle?.any fun h => h.result.any fun id => !r.hasId id
          then 1 else 0 := by
  obtain ⟨id, type⟩ := entry
  cases type with
  | primitive | composite => rfl
  | pageIterator p =>
    by_cases known : r.hasId p.element <;>
      simp [memberFaults, ModelType.asPageIterator?, ModelType.asPollingHandle?, known]
  | pollingHandle h =>
    rw [memberFaults]
    cases found : h.result with
    | none => simp [ModelType.asPageIterator?, ModelType.asPollingHandle?, found]
    | some result =>
      by_cases known : r.hasId result <;>
        simp [ModelType.asPageIterator?, ModelType.asPollingHandle?, found, known]

theorem length_memberFaults_le (entry : TypeId × ModelType) :
    (r.memberFaults entry).length ≤ 1 := by
  rw [length_memberFaults]
  cases entry.2 with
  | primitive | composite => exact Nat.zero_le 1
  | pageIterator p =>
    show (if !r.hasId p.element then 1 else 0) + 0 ≤ 1
    split <;> omega
  | pollingHandle h =>
    show 0 + (if h.result.any fun id => !r.hasId id then 1 else 0) ≤ 1
    split <;> omega

theorem countP_ofKind {α : Type} (as? : ModelType → Option α) (p : α → Bool)
    (entries : List (TypeId × ModelType)) :
    (entries.filterMap fun (id, type) => (as? type).map (id, ·)).countP (fun entry => p entry.2) =
      entries.countP fun entry => (as? entry.2).any p := by
  rw [List.countP_filterMap]
  congr 1
  funext entry
  cases found : as? entry.2 <;> simp [found]

theorem length_flatMap_memberFaults :
    (r.entries.flatMap r.memberFaults).length =
      r.pageIterators.countP (fun entry => !r.hasId entry.2.element) +
        r.pollingHandles.countP fun entry => entry.2.result.any fun id => !r.hasId id := by
  rw [pageIterators, pollingHandles,
    countP_ofKind ModelType.asPageIterator? fun p => !r.hasId p.element,
    countP_ofKind ModelType.asPollingHandle? fun h => h.result.any fun id => !r.hasId id]
  induction r.entries with
  | nil => rfl
  | cons entry rest ih =>
    rw [List.flatMap_cons, List.length_append, length_memberFaults, ih, List.countP_cons,
      List.countP_cons]
    omega

end Registry

/-! ### Repeated identities -/

/-- The fault of each method that comes after the first one with its identity. -/
def Fault.repeated (identity : String × String) : Fault :=
  .duplicateMethod (qualifiedName identity.1 identity.2)

/-- Of several methods with one identity all but the first are faults. -/
theorem perm_duplicateFaults_append (seen : List (String × String)) (methods : List Method) :
    (duplicateFaults seen methods ++
      ((methods.map Method.identity).filter (· ∉ seen)).dedup.map Fault.repeated).Perm
      ((methods.map Method.identity).map Fault.repeated) := by
  induction methods generalizing seen with
  | nil => exact .refl _
  | cons m rest ih =>
    rw [duplicateFaults, List.map_cons, List.map_cons]
    by_cases old : m.identity ∈ seen
    · rw [if_pos old, List.filter_cons_of_neg (by simpa using old)]
      exact (ih seen).cons _
    · have firsts : (((m.identity :: rest.map Method.identity).filter (· ∉ seen)).dedup).Perm
          (m.identity :: ((rest.map Method.identity).filter (· ∉ m.identity :: seen)).dedup) := by
        refine (List.perm_ext_iff_of_nodup (List.nodup_dedup _) ?_).mpr ?_
        · simp [List.nodup_dedup]
        · intro identity
          by_cases same : identity = m.identity <;> simp [same, old]
      rw [if_neg old]
      refine ((firsts.map _).append_left _).trans ?_
      exact List.perm_middle.trans ((ih (m.identity :: seen)).cons _)

theorem length_duplicateFaults (methods : List Method) :
    (duplicateFaults [] methods).length =
      methods.length - (methods.map Method.identity).dedup.length := by
  have total := (perm_duplicateFaults_append [] methods).length_eq
  simp only [List.not_mem_nil, not_false_eq_true, decide_true, List.filter_true, List.length_append,
    List.length_map] at total
  omega

theorem perm_duplicateFaults {methods methods' : List Method} (reordered : methods'.Perm methods) :
    (duplicateFaults [] methods').Perm (duplicateFaults [] methods) := by
  have split := perm_duplicateFaults_append []
  simp only [List.not_mem_nil, not_false_eq_true, decide_true, List.filter_true] at split
  have identities := reordered.map Method.identity
  have firsts := identities.dedup.map Fault.repeated
  have total := (split methods').trans ((identities.map _).trans (split methods).symm)
  exact (List.perm_append_right_iff _).mp ((firsts.symm.append_left _).trans total)

namespace Service

theorem length_faults (s : Service) :
    s.faults.length =
      (s.methods.length - s.listMethods.dedup.length) +
        (s.methods.flatMap (·.returnType.referenced)).countP (fun id => !s.types.hasId id) +
        (s.methods.flatMap (·.returnType.slots)).countP s.types.misfits +
        s.types.pageIterators.countP (fun entry => !s.types.hasId entry.2.element) +
        s.types.pollingHandles.countP
          (fun entry => entry.2.result.any fun id => !s.types.hasId id) := by
  rw [faults, List.length_append, List.length_append, length_duplicateFaults,
    Registry.length_flatMap_methodFaults, Registry.length_flatMap_memberFaults, listMethods]
  omega

theorem perm_faults (s : Service) {methods : List Method} (reordered : methods.Perm s.methods) :
    ({ s with methods } : Service).faults.Perm s.faults :=
  ((perm_duplicateFaults reordered).append (reordered.flatMap_right _)).append_right _

/-- A service has no faults exactly when it is consistent. Otherwise it has one for each method
beyond the first of its identity, one for each handle in a return type that points at nothing, one
for each slot of a composed return type that holds a member of the wrong kind or marker, and one
for each wrapper over a type that is not registered. So no slot and no member has two, and methods
in another order give the same faults in another order. -/
theorem faults_itemized (s : Service) :
    (s.faults = [] ↔ s.Consistent) ∧
    s.faults.length =
      (s.methods.length - s.listMethods.dedup.length) +
        (s.methods.flatMap (·.returnType.referenced)).countP (fun id => !s.types.hasId id) +
        (s.methods.flatMap (·.returnType.slots)).countP s.types.misfits +
        s.types.pageIterators.countP (fun entry => !s.types.hasId entry.2.element) +
        s.types.pollingHandles.countP
          (fun entry => entry.2.result.any fun id => !s.types.hasId id) ∧
    (∀ m, (s.types.methodFaults m).Perm
      (m.returnType.slots.filterMap (s.types.slotFault? m))) ∧
    (∀ entry, (s.types.memberFaults entry).length ≤ 1) ∧
    ∀ methods : List Method, methods.Perm s.methods →
      ({ s with methods } : Service).faults.Perm s.faults := by
  refine ⟨s.faults_eq_nil_iff, s.length_faults, s.types.perm_methodFaults,
    s.types.length_memberFaults_le, ?_⟩
  intro methods reordered
  exact s.perm_faults reordered

/-- The list-all slot holds a handle without the marker and the pager slot a scalar; the headers
point at nothing, and so do the handle and the page iterator of the registry. -/
def faultyMethods : List Method := [
  { name := "List", kind := .paginatedLongRunning,
    returnType := .pagedOperation
      { handle := ⟨1⟩, listAllHandle := ⟨1⟩, pager := ⟨0⟩, headers := some ⟨9⟩ } },
  { name := "Get", returnType := .response { body := some ⟨9⟩, headers := some ⟨9⟩ } },
  { name := "List", returnType := .response { body := some ⟨0⟩ } }]

def faultyService : Service where
  methods := faultyMethods
  types := .ofList [
    .ofPrimitive "string",
    .pollingHandle { name := "List", group := "", method := "List", result := some ⟨8⟩ },
    .pageIterator (.ofElement ⟨7⟩ false)]

theorem faults_itemized_faultyService :
    ¬ faultyService.Consistent ∧
    faultyService.faults.length = (3 - 2) + 3 + 2 + 1 + 1 ∧
    faultyService.methods.reverse.Perm faultyService.methods ∧
    ({ faultyService with methods := faultyService.methods.reverse } : Service).faults.Perm
      faultyService.faults ∧
    ({ faultyService with methods := faultyService.methods.reverse } : Service).faults ≠
      faultyService.faults := by
  obtain ⟨none_iff, count, -, -, reorder⟩ := faults_itemized faultyService
  have reversed := List.reverse_perm faultyService.methods
  refine ⟨fun consistent => ?_, count.trans (by decide), reversed, reorder _ reversed, by decide⟩
  exact absurd (none_iff.mpr consistent) (by decide)

end Service

end WrapperSynthesis
