import WrapperSynthesis.Proofs.Pass.Acceptance

/-! How a pass over a service without faults ends. It fails at the first method that is bad, which
the input alone decides, and when there is none it succeeds: wrapping never brings a fault into a
service that has none (`run_augment_of_faults_eq_nil`). -/

namespace WrapperSynthesis

/-- The method has no body to page over, or the handle of one of its keys is settled for another
method with another result. -/
def Service.Bad (naming : Naming) (settings : GenerationSettings) (s : Service) (m : Method) :
    Prop :=
  (settings.kindOf m).isPaginated = true ∧ m.returnType.body = none ∨
  ∃ h ∈ m.handles naming (settings.kindOf m),
    ∃ settled, s.settledHandle? naming settings h.key = some settled ∧
      (settled.group, settled.method) ≠ m.identity ∧ settled.result ≠ m.returnType.body

variable {naming : Naming} {settings : GenerationSettings} {s : Service} {m : Method}

theorem isSome_settledConflict?_iff {h : PollingHandle} :
    (s.settledConflict? naming settings m h).isSome = true ↔
      ∃ settled, s.settledHandle? naming settings h.key = some settled ∧
        (settled.group, settled.method) ≠ m.identity ∧ settled.result ≠ m.returnType.body := by
  rw [Service.settledConflict?]
  cases s.settledHandle? naming settings h.key with
  | none => simp
  | some settled => by_cases hc : (settled.group, settled.method) ≠ m.identity ∧
      settled.result ≠ m.returnType.body <;> simp [hc]

theorem isSome_settledRefusal?_iff :
    (s.settledRefusal? naming settings m).isSome = true ↔ s.Bad naming settings m := by
  rw [Service.settledRefusal?, Service.Bad]
  by_cases hb : (settings.kindOf m).isPaginated = true ∧ m.returnType.body = none
  · simp [hb]
  · simp only [hb, ite_false, false_or, List.isSome_findSome?, List.any_eq_true,
      isSome_settledConflict?_iff]

instance : Decidable (s.Bad naming settings m) :=
  decidable_of_iff _ isSome_settledRefusal?_iff

theorem settledRefusal?_eq_none_iff :
    s.settledRefusal? naming settings m = none ↔ ¬ s.Bad naming settings m := by
  rw [← isSome_settledRefusal?_iff, Option.not_isSome_iff_eq_none]

theorem findSome?_settledRefusal?_eq_none_iff {methods : List Method} :
    methods.findSome? (s.settledRefusal? naming settings) = none ↔
      ∀ m ∈ methods, ¬ s.Bad naming settings m := by
  rw [List.findSome?_eq_none_iff]
  exact forall₂_congr fun _ _ => settledRefusal?_eq_none_iff

theorem firstRefusal?_eq_none_iff :
    firstRefusal? naming settings s.methods s.types = none ↔
      ∀ m ∈ s.methods, ¬ s.Bad naming settings m := by
  rw [firstRefusal?_eq_findSome?, findSome?_settledRefusal?_eq_none_iff]

/-- A pass over a service without faults succeeds when no method is bad, and otherwise fails at the
first bad method for the reason that the input gives. It never ends with faults. -/
theorem run_augment_of_faults_eq_nil (faultless : s.faults = []) :
    (∀ faults s', (Service.augment naming settings).run s ≠ .error (.invalid faults) s') ∧
    ((∃ report s', (Service.augment naming settings).run s = .ok report s') ↔
      ∀ m ∈ s.methods, ¬ s.Bad naming settings m) ∧
    ∀ before m after, s.methods = before ++ m :: after →
      (∀ earlier ∈ before, ¬ s.Bad naming settings earlier) → s.Bad naming settings m →
      ∃ e, s.settledRefusal? naming settings m = some e ∧
        (Service.augment naming settings).run s = .error (.wrap e) s := by
  have survives : s.Survives naming settings
      (s.types.registerAll (candidatesOf naming settings s.methods)) :=
    ((Service.faults_eq_nil_iff s).mp faultless).survives (Registry.grows_registerAll _ _)
  refine ⟨fun faults s' invalid => ?_, ?_, fun before m after hs good bad => ?_⟩
  · cases refused : firstRefusal? naming settings s.methods s.types with
    | some e => rw [run_augment_of_refusal refused] at invalid; cases invalid
    | none =>
      obtain ⟨report, s'', ok⟩ := (exists_ok_iff_survives s).mpr ⟨refused, survives⟩
      rw [ok] at invalid
      cases invalid
  · rw [exists_ok_iff_survives, firstRefusal?_eq_none_iff, and_iff_left survives]
  · obtain ⟨e, he⟩ := Option.isSome_iff_exists.mp (isSome_settledRefusal?_iff.mpr bad)
    refine ⟨e, he, run_augment_of_refusal ?_⟩
    rw [firstRefusal?_eq_findSome?, hs, List.findSome?_append,
      findSome?_settledRefusal?_eq_none_iff.mpr good, List.findSome?_cons, he]
    rfl

/-! ### A handle that was made before the pass -/

/-- The handle of `Create` is registered already. `widgetsCreate` asks for it with another body. -/
def conflictingService : Service where
  name := "widgets"
  methods := [
    { group := "widgets", name := "Create", kind := .longRunning,
      returnType := .response ⟨some ⟨0⟩, none⟩ },
    { group := "widgets", name := "List", kind := .paginated,
      returnType := .response ⟨some ⟨0⟩, none⟩ },
    { name := "widgetsCreate", kind := .longRunning,
      returnType := .response ⟨some ⟨1⟩, none⟩ },
    { name := "Purge", kind := .paginatedLongRunning }]
  types := .ofList [.ofComposite "Widget", .ofComposite "Gadget",
    .pollingHandle ⟨"widgetsCreate", false, "widgets", "Create", some ⟨0⟩⟩]

theorem run_augment_conflictingService :
    conflictingService.faults = [] ∧
    ∃ before m after, conflictingService.methods = before ++ m :: after ∧
      (∀ earlier ∈ before, ¬ conflictingService.Bad joinedName {} earlier) ∧
      conflictingService.Bad joinedName {} m ∧
      ∃ e, conflictingService.settledRefusal? joinedName {} m = some e ∧
        e = .handleConflict "widgetsCreate" "widgetsCreate" "widgets.Create" ∧
        (Service.augment joinedName {}).run conflictingService =
          .error (.wrap e) conflictingService := by
  have faultless : conflictingService.faults = [] := rfl
  let before := conflictingService.methods.take 2
  let m := conflictingService.methods[2]
  have good : ∀ earlier ∈ before, ¬ conflictingService.Bad joinedName {} earlier := by decide
  have bad : conflictingService.Bad joinedName {} m := by decide
  obtain ⟨e, he, hrun⟩ :=
    (run_augment_of_faults_eq_nil faultless).2.2 before m _ rfl good bad
  have reason : e = .handleConflict "widgetsCreate" "widgetsCreate" "widgets.Create" :=
    (Option.some.inj he).symm
  exact ⟨faultless, before, m, _, rfl, good, bad, e, he, reason, hrun⟩

end WrapperSynthesis
