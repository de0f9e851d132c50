import WrapperSynthesis.Wrapper.Wrapping
import WrapperSynthesis.Analysis.Diagnostics
import WrapperSynthesis.Settings.Basic

/-! The pass over a whole service: every method is wrapped once, in declaration order, and the
result is checked. The pass works on a copy, so a service that cannot be augmented stays as it
is. -/

namespace WrapperSynthesis

inductive PassError where
  | wrap (error : WrapError)
  | invalid (faults : List Fault)
deriving DecidableEq, Repr

def PassError.message : PassError → String
  | wrap error => error.message
  | invalid faults => "model failed validation: " ++ "; ".intercalate (faults.map Fault.message)

/-- The kind as which a method is wrapped: its own, without the traits that are switched off. -/
def GenerationSettings.kindOf (settings : GenerationSettings) (m : Method) : OperationKind :=
  m.kind.masked settings.pageWrappers settings.longRunningWrappers

structure Report where
  methods : Nat := 0
  paged : Nat := 0
  longRunning : Nat := 0
  pagedLongRunning : Nat := 0
  typesAdded : Nat := 0
  warnings : List Collision := []
deriving DecidableEq, Repr

namespace Report

def record (r : Report) (outcome : Outcome) : Report :=
  let r := { r with methods := r.methods + 1 }
  match outcome with
  | .unchanged => r
  | .paged _ => { r with paged := r.paged + 1 }
  | .longRunning _ => { r with longRunning := r.longRunning + 1 }
  | .pagedLongRunning _ => { r with pagedLongRunning := r.pagedLongRunning + 1 }

def wrapped (r : Report) : Nat := r.paged + r.longRunning + r.pagedLongRunning

end Report

/-- One method that a pass wrapped, or left alone because it is plain. -/
structure Step where
  method : Method
  kind : OperationKind
  /-- The number of registered types before the step. -/
  known : Nat
  outcome : Outcome
deriving DecidableEq, Repr

/-- The way through a list of methods up to its end or its first failure. -/
structure Walk (R : Type := Registry) where
  steps : List Step
  /-- The methods as they are now and the registry with their wrappers. -/
  result : Except WrapError (List Method × R)

section

variable {R : Type} [TypeTable R]

/-- Wraps the methods in order, each with the registry that the one before it left. -/
def Walk.ofMethods (naming : Naming) (settings : GenerationSettings) : List Method → R → Walk R
  | [], types => ⟨[], .ok ([], types)⟩
  | m :: rest, types =>
    let kind := settings.kindOf m
    match (Wrapping.wrapAs naming kind).run ⟨m, types⟩ with
    | .error e _ => ⟨[], .error e⟩
    | .ok outcome w =>
      let later := Walk.ofMethods naming settings rest w.types
      ⟨⟨m, kind, TypeTable.size types, outcome⟩ :: later.steps,
        later.result.map fun (methods, types) => (w.method :: methods, types)⟩

/-- A pass: the methods that it did and how it ended. -/
structure Pass (R : Type := Registry) where
  steps : List Step
  result : Except PassError (Service R × Report)

namespace Pass

/-- Wraps every method of a copy of the service and checks the copy. -/
def ofService (naming : Naming) (settings : GenerationSettings) (service : Service R) :
    Pass R :=
  let walk := Walk.ofMethods naming settings service.methods service.types
  ⟨walk.steps,
    match walk.result with
    | .error e => .error (.wrap e)
    | .ok (methods, types) =>
      let working := { service with methods, types }
      let diagnostics := working.toPlain.diagnostics
      if diagnostics.hasErrors then .error (.invalid diagnostics.errors)
      else
        let counts := walk.steps.foldl (fun report step => report.record step.outcome) ({} : Report)
        .ok (working, { counts with
          typesAdded := TypeTable.size types - TypeTable.size service.types
          warnings := diagnostics.warnings })⟩

end Pass

/-- Augments a service in place. When the pass fails the service is not touched. -/
def Service.augment (naming : Naming) (settings : GenerationSettings) :
    EStateM PassError (Service R) Report := do
  match (Pass.ofService naming settings (← get)).result with
  | .ok (augmented, report) =>
    set augmented
    return report
  | .error e => throw e

end

end WrapperSynthesis
