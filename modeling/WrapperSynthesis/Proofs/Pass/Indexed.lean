import WrapperSynthesis.Proofs.Program
import WrapperSynthesis.Proofs.Registry.Index
import WrapperSynthesis.Wrapper.Pass

/-! The index of a registry makes no difference to the wrappers. As long as the index is sound, each
step of a wrapping goes the way that it goes by the members alone, and the index stays sound
(`Wrapping.follows_wrapAs`). So do the walk over the methods (`ofMethods_toPlain`) and the pass
(`follows_augment`), and every history makes a sound index (`run_of_history`). -/

namespace WrapperSynthesis

/-- The workpiece with the members of its registry alone. -/
def Workpiece.toPlain (w : Workpiece IndexedRegistry) : Workpiece := ⟨w.method, w.types.toRegistry⟩

def Walk.toPlain (walk : Walk IndexedRegistry) : Walk where
  steps := walk.steps
  result := walk.result.map fun (methods, types) => (methods, types.toRegistry)

def Pass.toPlain (pass : Pass IndexedRegistry) : Pass where
  steps := pass.steps
  result := pass.result.map fun (service, report) => (service.toPlain, report)

/-! ### Wrapping a method -/

namespace Wrapping

/-- With a sound index, a wrapping goes the way of another one that has no index. -/
abbrev FollowsPlain {α : Type} (wrapping : WrappingOn IndexedRegistry α) (plain : Wrapping α) :
    Prop :=
  Follows Workpiece.toPlain (fun w => w.types.Sound) wrapping plain

theorem follows_require {α : Type} (found : Except WrapError α) :
    FollowsPlain (require found) (require found) := by
  cases found with
  | ok a => exact follows_pure a
  | error e => exact follows_throw e

theorem run_register {R : Type} [TypeTable R] (type : ModelType) (w : Workpiece R) :
    (register type).run w = .ok (TypeTable.register w.types type).1
      { w with types := (TypeTable.register w.types type).2 } := rfl

theorem follows_register (type : ModelType) : FollowsPlain (register type) (register type) := by
  intro w sound
  obtain ⟨id, types⟩ := sound.register_eq type
  refine ⟨?_, sound.register type⟩
  rw [run_register, run_register, mapState, EStateM.Result.ok.injEq]
  exact ⟨id.symm, congrArg (Workpiece.mk w.method) types.symm⟩

theorem follows_setReturnType (returnType : ReturnType) :
    FollowsPlain (setReturnType returnType) (setReturnType returnType) :=
  fun _ sound => ⟨rfl, sound⟩

theorem reused?_toRegistry {r : IndexedRegistry} (sound : r.Sound) (candidate : PollingHandle) :
    reused? r.toRegistry candidate = reused? r candidate := by
  have canonical := sound.canonicalOf_eq (.pollingHandle candidate)
  rw [reused?, reused?, TypeTable.canonicalOf_registry, ← canonical]
  rfl

theorem follows_checkShared (candidate : PollingHandle) :
    FollowsPlain (checkShared candidate) (checkShared candidate) := by
  refine follows_get_bind fun w sound => ?_
  have same : reused? w.toPlain.types candidate = reused? w.types candidate :=
    reused?_toRegistry sound candidate
  rw [same]
  cases reused? w.types candidate with
  | none => exact follows_pure ()
  | some existing => exact (follows_throw _).ite (follows_pure ())

theorem follows_wrapPaginated : FollowsPlain wrapPaginated wrapPaginated := by
  refine follows_get_bind fun w _ => ?_
  refine (follows_require _).bind fun candidate => ?_
  refine (follows_register _).bind fun pager => ?_
  exact (follows_setReturnType _).bind fun _ => follows_pure pager

theorem follows_wrapLongRunning (naming : Naming) :
    FollowsPlain (wrapLongRunning naming) (wrapLongRunning naming) := by
  refine follows_get_bind fun w _ => ?_
  refine (follows_require _).bind fun candidate => ?_
  refine (follows_checkShared candidate).bind fun _ => ?_
  refine (follows_register _).bind fun handle => ?_
  exact (follows_setReturnType _).bind fun _ => follows_pure handle

theorem follows_wrapPaginatedLongRunning (naming : Naming) :
    FollowsPlain (wrapPaginatedLongRunning naming) (wrapPaginatedLongRunning naming) := by
  refine follows_get_bind fun w _ => ?_
  refine (follows_require _).bind fun pager => ?_
  refine (follows_require _).bind fun handle => ?_
  refine (follows_require _).bind fun listAll => ?_
  refine (follows_checkShared handle).bind fun _ => ?_
  refine (follows_checkShared listAll).bind fun _ => ?_
  refine (follows_register _).bind fun first => ?_
  refine (follows_register _).bind fun second => ?_
  refine (follows_register _).bind fun third => ?_
  exact (follows_setReturnType _).bind fun _ => follows_pure _

theorem follows_wrapAs (naming : Naming) (kind : OperationKind) :
    FollowsPlain (wrapAs naming kind) (wrapAs naming kind) := by
  cases kind with
  | plain => exact follows_pure Outcome.unchanged
  | paginated => exact follows_wrapPaginated.map _
  | longRunning => exact (follows_wrapLongRunning naming).map _
  | paginatedLongRunning => exact (follows_wrapPaginatedLongRunning naming).map _

end Wrapping

/-! ### A pass -/

variable (naming : Naming) (settings : GenerationSettings)

/-- The walk does the same steps and comes to the same end, and the index of the registry at its end
is sound. -/
theorem ofMethods_toPlain {r : IndexedRegistry} (sound : r.Sound) (methods : List Method) :
    Walk.ofMethods naming settings methods r.toRegistry =
      (Walk.ofMethods naming settings methods r).toPlain ∧
    ∀ done final, (Walk.ofMethods naming settings methods r).result = .ok (done, final) →
      final.Sound := by
  induction methods generalizing r with
  | nil =>
    refine ⟨rfl, fun done final reached => ?_⟩
    cases reached
    exact sound
  | cons m rest ih =>
    have follows := Wrapping.follows_wrapAs naming (settings.kindOf m)
    have plain : Workpiece.toPlain ⟨m, r⟩ = ⟨m, r.toRegistry⟩ := rfl
    cases ran : (Wrapping.wrapAs naming (settings.kindOf m)).run ⟨m, r⟩ with
    | error e w =>
      obtain ⟨same, _⟩ := follows.run_error sound ran
      rw [plain] at same
      simp only [Walk.ofMethods, ran, same]
      exact ⟨rfl, nofun⟩
    | ok outcome w =>
      obtain ⟨same, kept⟩ := follows.run_ok sound ran
      rw [plain] at same
      obtain ⟨later, kept⟩ := ih kept
      have types : w.toPlain.types = w.types.toRegistry := rfl
      simp only [Walk.ofMethods, ran, same, types, later]
      cases reached : (Walk.ofMethods naming settings rest w.types).result with
      | error e =>
        simp only [Walk.toPlain, reached]
        exact ⟨rfl, nofun⟩
      | ok final =>
        simp only [Walk.toPlain, reached]
        refine ⟨rfl, fun done types reached' => ?_⟩
        cases reached'
        exact kept final.1 final.2 reached

/-- The pass does the same steps and ends in the same way, and the index of the registry that it
leaves is sound. -/
theorem ofService_toPlain {s : Service IndexedRegistry} (sound : s.types.Sound) :
    Pass.ofService naming settings s.toPlain = (Pass.ofService naming settings s).toPlain ∧
    ∀ final report, (Pass.ofService naming settings s).result = .ok (final, report) →
      final.types.Sound := by
  obtain ⟨same, kept⟩ := ofMethods_toPlain naming settings sound s.methods
  have types : s.toPlain.types = s.types.toRegistry := rfl
  have methods : s.toPlain.methods = s.methods := rfl
  have name : s.toPlain.name = s.name := rfl
  simp only [Pass.ofService, types, methods, name, same]
  cases reached : (Walk.ofMethods naming settings s.methods s.types).result with
  | error e =>
    simp only [Walk.toPlain, Pass.toPlain, reached]
    exact ⟨rfl, nofun⟩
  | ok done =>
    -- The check reads the members alone, so both passes check the same service.
    have checked : (Service.mk s.name done.1 done.2.toRegistry).toPlain =
        (Service.mk s.name done.1 done.2).toPlain := rfl
    simp only [Walk.toPlain, Pass.toPlain, reached, Except.map, checked]
    cases (Service.mk s.name done.1 done.2).toPlain.diagnostics.hasErrors with
    | true => exact ⟨rfl, nofun⟩
    | false =>
      refine ⟨rfl, fun final report ended => ?_⟩
      cases ended
      exact kept done.1 done.2 reached

theorem follows_augment :
    Follows Service.toPlain (fun s : Service IndexedRegistry => s.types.Sound)
      (Service.augment naming settings) (Service.augment naming settings) := by
  refine follows_get_bind fun s sound => ?_
  obtain ⟨same, kept⟩ := ofService_toPlain naming settings sound
  have result : (Pass.ofService naming settings s.toPlain).result =
      (Pass.ofService naming settings s).toPlain.result := congrArg Pass.result same
  rw [result, Pass.toPlain]
  cases ended : (Pass.ofService naming settings s).result with
  | error e => exact follows_throw e
  | ok done => exact fun _ _ => ⟨rfl, kept done.1 done.2 ended⟩

/-- Whatever the history of a registry was, the wrapping of a method and a pass end with it as they
end with its members alone: with the same outcome or error, the same methods and the same members.
The registry that they leave gives the answers of one that is made anew from its list. -/
theorem run_of_history (steps : List RegistryStep) :
    let r := RegistryStep.applyAll steps {}
    (∀ kind m,
      let wrapping : WrappingOn IndexedRegistry Outcome := Wrapping.wrapAs naming kind
      let left := (stateAfter wrapping ⟨m, r⟩).types
      (Wrapping.wrapAs naming kind).run ⟨m, r.toRegistry⟩ =
        mapState Workpiece.toPlain (wrapping.run ⟨m, r⟩) ∧
      (IndexedRegistry.ofList left.toList).Alike left) ∧
    ∀ settings name methods,
      let pass : EStateM PassError (Service IndexedRegistry) Report :=
        Service.augment naming settings
      let left := (stateAfter pass ⟨name, methods, r⟩).types
      (Service.augment naming settings).run ⟨name, methods, r.toRegistry⟩ =
        mapState Service.toPlain (pass.run ⟨name, methods, r⟩) ∧
      (IndexedRegistry.ofList left.toList).Alike left := by
  intro r
  have sound : r.Sound := IndexedRegistry.sound_of_history steps
  have anew : ∀ left : IndexedRegistry, left.Sound →
      (IndexedRegistry.ofList left.toList).Alike left := fun left kept =>
    (IndexedRegistry.sound_ofList _).alike kept (IndexedRegistry.members_ofList _)
  refine ⟨fun kind m => ?_, fun settings name methods => ?_⟩
  · obtain ⟨same, kept⟩ := Wrapping.follows_wrapAs naming kind ⟨m, r⟩ sound
    exact ⟨same, anew _ kept⟩
  · obtain ⟨same, kept⟩ := follows_augment naming settings ⟨name, methods, r⟩ sound
    exact ⟨same, anew _ kept⟩

end WrapperSynthesis
