import WrapperSynthesis.Proofs.Pass.SharedHandles

/-! Which method a pass fails at, said of its input alone. The handle of a key is settled before the
pass begins: the first member with the key, or else the candidate of the first method that asks for
it. A method is refused exactly when a handle that it asks for is settled for another method with
another result, or when it has no body to page over (`firstRefusal?_eq_findSome?`). -/

namespace WrapperSynthesis

variable (naming : Naming) (settings : GenerationSettings)

namespace Service

/-- The polling handle that a key stands for from the beginning to the end of a pass. -/
def settledHandle? (s : Service) (key : TypeKey) : Option PollingHandle :=
  (s.types.handle? key).or ((handlesOf naming settings s.methods).find? fun h => h.key = key)

/-- Why the method may not have the handle `candidate`: the handle of its key is settled for another
method with another result. -/
def settledConflict? (s : Service) (m : Method) (candidate : PollingHandle) : Option WrapError :=
  match s.settledHandle? naming settings candidate.key with
  | some settled =>
    if (settled.group, settled.method) ≠ m.identity ∧ settled.result ≠ m.returnType.body then
      some (.handleConflict candidate.name m.qualifiedName settled.origin)
    else none
  | none => none

/-- Why the pass fails at the method, when it gets that far. -/
def settledRefusal? (s : Service) (m : Method) : Option WrapError :=
  if (settings.kindOf m).isPaginated = true ∧ m.returnType.body = none then
    some (.precondition m.qualifiedName .pageBody)
  else (m.handles naming (settings.kindOf m)).findSome? (s.settledConflict? naming settings m)

end Service

variable {naming settings} {s : Service} {m : Method}

theorem unqualified?_kindOf (settings : GenerationSettings) (m : Method) :
    m.unqualified? (settings.kindOf m) =
      if (settings.kindOf m).isPaginated = true ∧ m.returnType.body = none then
        some (.precondition m.qualifiedName .pageBody)
      else none := by
  have paginated : (settings.kindOf m).isPaginated = true → m.kind.isPaginated = true :=
    OperationKind.isPaginated_of_masked
  have longRunning : (settings.kindOf m).isLongRunning = true → m.kind.isLongRunning = true :=
    OperationKind.isLongRunning_of_masked
  simp only [Method.unqualified?]
  cases hp : (settings.kindOf m).isPaginated <;> cases hl : (settings.kindOf m).isLongRunning <;>
    cases hb : m.returnType.body <;> simp_all

theorem PollingHandle.originatesFrom_iff {h : PollingHandle} :
    h.originatesFrom m.group m.name = true ↔ (h.group, h.method) = m.identity := by
  simp [originatesFrom, Method.identity]

/-- What a method meets in the registry is what the input settles. -/
theorem conflict?_eq_settledConflict? {before after : List Method}
    (hs : s.methods = before ++ m :: after) {h : PollingHandle}
    (hh : h ∈ m.handles naming (settings.kindOf m)) :
    m.conflict? (s.types.registerAll (candidatesOf naming settings before)) h =
      s.settledConflict? naming settings m h := by
  obtain ⟨hg, hn, hr⟩ := Method.of_mem_handles hh
  rw [Method.conflict?, Service.settledConflict?, handle?_registerAll, Service.settledHandle?, hs,
    handlesOf_append, handlesOf_cons, List.find?_append, List.find?_append, ← Option.or_assoc,
    Method.find?_handles hh, Option.some_or]
  cases (s.types.handle? h.key).or ((handlesOf naming settings before).find? _) with
  | none => simp [Method.identity, hg, hn]
  | some found =>
    rw [Option.some_or, hr]
    simp only [Bool.and_eq_true, Bool.not_eq_true', decide_eq_true_eq, ← Bool.not_eq_true,
      PollingHandle.originatesFrom_iff, ne_eq]

theorem findSome?_congr {α β : Type} {f g : α → Option β} {l : List α} (h : ∀ a ∈ l, f a = g a) :
    l.findSome? f = l.findSome? g := by
  induction l with
  | nil => rfl
  | cons a rest ih =>
    rw [List.findSome?_cons, List.findSome?_cons, h a (by simp),
      ih fun b hb => h b (List.mem_cons_of_mem a hb)]

theorem refusal?_eq_settledRefusal? {before after : List Method}
    (hs : s.methods = before ++ m :: after) :
    m.refusal? naming (settings.kindOf m)
        (s.types.registerAll (candidatesOf naming settings before)) =
      s.settledRefusal? naming settings m := by
  rw [Method.refusal?, unqualified?_kindOf, Service.settledRefusal?]
  split
  · rfl
  · rw [Option.none_or]
    exact findSome?_congr fun h hh => conflict?_eq_settledConflict? hs hh

/-- A pass that refuses a method refuses the first one that the input condemns. -/
theorem firstRefusal?_eq_findSome? (s : Service) :
    firstRefusal? naming settings s.methods s.types =
      s.methods.findSome? (s.settledRefusal? naming settings) := by
  have main : ∀ before after, s.methods = before ++ after →
      firstRefusal? naming settings after
          (s.types.registerAll (candidatesOf naming settings before)) =
        after.findSome? (s.settledRefusal? naming settings) := by
    intro before after hs
    induction after generalizing before with
    | nil => rfl
    | cons m rest ih =>
      have next := ih (before ++ [m]) (by rw [hs, List.append_assoc]; rfl)
      rw [candidatesOf_append, Registry.registerAll_append] at next
      rw [candidatesOf_cons, candidatesOf_nil, List.append_nil] at next
      rw [firstRefusal?, refusal?_eq_settledRefusal? hs, List.findSome?_cons, next]
      cases s.settledRefusal? naming settings m <;> rfl
  exact main [] s.methods rfl

end WrapperSynthesis
