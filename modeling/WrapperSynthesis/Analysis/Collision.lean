import WrapperSynthesis.Model.Service

/-! Polling-handle names that are synthesized for more than one origin. The registry tells such
handles apart by their list-all marker, or lets methods share one handle, but a renderer that goes
by the name alone would declare it twice. -/

namespace WrapperSynthesis

/-- A handle name together with the labels of all its origins. -/
structure Collision where
  name : String
  origins : List String
deriving DecidableEq, Repr

def Collision.message (c : Collision) : String :=
  "Polling handle name `" ++ c.name ++ "` is synthesized for " ++ ", ".intercalate c.origins

namespace Collision

/-- An origin as it is shown: the qualified name of a method, marked for its list-all handle. -/
def label (origin : String) (listAll : Bool) : String :=
  if listAll then origin ++ " (list all)" else origin

/-- Adds an origin to a name. The names stay in ascending order, and the labels of a name are
distinct and in order of arrival. -/
def note (name label : String) : List Collision → List Collision
  | [] => [⟨name, [label]⟩]
  | c :: rest =>
    if name < c.name then ⟨name, [label]⟩ :: c :: rest
    else if name = c.name then
      (if label ∈ c.origins then c else { c with origins := c.origins ++ [label] }) :: rest
    else c :: note name label rest

end Collision

namespace Service

/-- Each registered handle's name with the label of the method that it was made for. -/
def handleOrigins (s : Service) : List (String × String) :=
  s.types.pollingHandles.map fun (_, h) => (h.name, Collision.label h.origin h.listAll)

/-- The names of the handles that a method returns and that were made for another method, each
with the label of this method. -/
def sharedOrigins (s : Service) (m : Method) : List (String × String) :=
  if m.kind.isLongRunning then
    m.returnType.referenced.filterMap fun id =>
      match (s.types.get? id).bind ModelType.asPollingHandle? with
      | some h =>
        if h.originatesFrom m.group m.name then none
        else some (h.name, Collision.label m.qualifiedName h.listAll)
      | none => none
  else []

def originTable (s : Service) : List Collision :=
  (s.handleOrigins ++ s.methods.flatMap s.sharedOrigins).foldl
    (fun table (name, label) => Collision.note name label table) []

/-- The handle names with more than one origin, in ascending order. -/
def collisions (s : Service) : List Collision :=
  s.originTable.filter fun c => 1 < c.origins.length

end Service

end WrapperSynthesis
