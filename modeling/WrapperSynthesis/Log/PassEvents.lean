import WrapperSynthesis.Log.Event
import WrapperSynthesis.Wrapper.Pass

/-! What a pass tells the log: each wrapper that it registers or reuses, each method that it wraps,
and at its end the warnings and the counts. -/

namespace WrapperSynthesis

/-- The event for one wrapper. A handle beyond the types that were known before is new. -/
def registrationEvent (known : Nat) (key : TypeKey) (id : TypeId) : Event where
  level := .trace
  target := "registry::dedup"
  message := if id.index < known then "reusing registered type" else "registered new type"
  fields := [("key", key.text), ("id", id.text)]

/-- What a wrapped method is reported with. -/
def Outcome.summary : Outcome → Option (String × List (String × String))
  | .unchanged => none
  | .paged pager => some ("wrapped paginated method", [("pager", pager.text)])
  | .longRunning handle => some ("wrapped long-running method", [("handle", handle.text)])
  | .pagedLongRunning c =>
    some ("wrapped paginated long-running method",
      [("handle", c.handle.text), ("list_all_handle", c.listAllHandle.text),
        ("pager", c.pager.text)])

namespace Step

/-- The events of one step: its wrappers and then the method. -/
def events (naming : Naming) (step : Step) : List Event :=
  let keys := (step.method.candidates naming step.kind).map ModelType.key
  let registrations := (keys.zip step.outcome.wrappers).map fun (key, id) =>
    registrationEvent step.known key id
  let wrapped := step.outcome.summary.toList.map fun (message, fields) =>
    { level := .debug
      target := "pipeline::method_rewriter"
      message
      fields := ("method", step.method.qualifiedName) :: fields }
  registrations ++ wrapped

end Step

namespace Pass

/-- The events at the end of a successful pass. -/
def endEvents (service : Service) (report : Report) : List Event :=
  let target := "pipeline::orchestration"
  let warnings := report.warnings.map fun warning =>
    { level := .warn, target, message := warning.message, fields := [("service", service.name)] }
  warnings ++ [{
    level := .info
    target
    message := "wrapper pass complete"
    fields := [("service", service.name), ("methods", toString report.methods),
      ("rewritten", toString report.wrapped), ("types_added", toString report.typesAdded)] }]

def events (naming : Naming) (pass : Pass) : List Event :=
  pass.steps.flatMap (Step.events naming) ++
    match pass.result with
    | .ok (service, report) => endEvents service report
    | .error _ => []

end Pass

end WrapperSynthesis
