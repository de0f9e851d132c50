import WrapperSynthesis.Log.Directive

/-! Which log events are written. A filter is a list of directives, of which the most special one
that is for an event decides. -/

namespace WrapperSynthesis

/-- A filter: its directives in the order in which they are tried. -/
structure LogFilter where
  directives : List Directive
  /-- The directives that look at spans. The program opens no spans, so they let nothing pass. -/
  spanDirectives : List Directive := []
deriving DecidableEq, Repr

namespace LogFilter

def text (f : LogFilter) : String :=
  ",".intercalate ((f.directives ++ f.spanDirectives).map Directive.text)

def sorted (directives : List Directive) : List Directive :=
  directives.foldl (fun found d => d.insert found) []

/-- Reads a filter. Empty texts between commas mean nothing, and the first directive that cannot be
read decides why the filter cannot. -/
def ofText (text : String) : Except Directive.Fault LogFilter := do
  let parts := (Text.pieces (· = ',') text.toList).filter (· ≠ [])
  let directives ← parts.mapM Directive.ofText
  let forSpans := directives.filter Directive.looksAtSpans
  let forEvents :=
    directives.filter (!·.looksAtSpans) ++ forSpans.filter Directive.looksAtEvents
  return ⟨sorted forEvents, sorted forSpans⟩

/-- A filter, or another one in place of a filter that is unreadable. -/
def orElse (filter : Except Directive.Fault LogFilter) (other : Except String LogFilter) :
    Except String LogFilter :=
  match filter with
  | .ok filter => .ok filter
  | .error (.split directive) => .error directive
  | .error .unreadable => other

/-- The filter of a program: that of its environment when there is one that can be read, else that
of its settings, else everything up to `info`. There is none if a part of a directive would begin or
end within a character; that directive is the error. -/
def choose (environment : Option String) (settings : String) : Except String LogFilter :=
  let own := orElse (ofText settings) (.ok { directives := [{ threshold := some .info }] })
  match environment with
  | some text => orElse (ofText text) own
  | none => own

/-- Whether an event passes: the first directive that is for it decides. -/
def passes (f : LogFilter) (e : Event) : Bool :=
  match f.directives.find? fun d => d.isFor e with
  | some d => e.level.rank ≤ d.threshold.rank
  | none => false

end LogFilter

end WrapperSynthesis
