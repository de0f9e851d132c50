/-! Identities of model types: the handle under which a registry holds a type, and the key that
decides when two types are the same one. -/

namespace WrapperSynthesis

/-- The position of a type in the registry that holds it. -/
structure TypeId where
  index : Nat
deriving DecidableEq, Repr, Inhabited

namespace TypeId

/-- Handles travel as unsigned 64-bit integers, so a handle read from a file lies below this
bound. -/
def bound : Nat := 0x10000000000000000

/-- A handle as diagnostics show it: `#3`. -/
def text (id : TypeId) : String := "#" ++ toString id.index

end TypeId

/-- What identifies a model type: its kind together with the identifying fields of that kind. -/
inductive TypeKey where
  /-- A scalar, by its name. -/
  | primitive (name : String)
  /-- An object type, by its schema name. -/
  | composite (name : String)
  /-- A polling handle, by its synthesized name and its list-all marker. -/
  | pollingHandle (name : String) (listAll : Bool)
  /-- A page iterator, by the type of one page and its preparer flag. -/
  | pageIterator (element : TypeId) (needsPreparer : Bool)
deriving DecidableEq, Repr, Inhabited

namespace TypeKey

/-- A key as diagnostics show it. -/
def text : TypeKey → String
  | primitive name => "primitive `" ++ name ++ "`"
  | composite name => "composite `" ++ name ++ "`"
  | pollingHandle name false => "polling handle `" ++ name ++ "`"
  | pollingHandle name true => "list-all polling handle `" ++ name ++ "`"
  | pageIterator element needsPreparer =>
    "page iterator over " ++ element.text ++ " (preparer: " ++ toString needsPreparer ++ ")"

def rank : TypeKey → Nat
  | primitive _ => 0
  | composite _ => 1
  | pollingHandle .. => 2
  | pageIterator .. => 3

/-- Keys are ordered by kind and then by their fields from left to right: names by their
characters, handles by position, and an unset flag before a set one. -/
def compare : TypeKey → TypeKey → Ordering
  | primitive a, primitive b => Ord.compare a b
  | composite a, composite b => Ord.compare a b
  | pollingHandle a x, pollingHandle b y => (Ord.compare a b).then (Ord.compare x y)
  | pageIterator a x, pageIterator b y => (Ord.compare a.index b.index).then (Ord.compare x y)
  | a, b => Ord.compare a.rank b.rank

instance : Ord TypeKey := ⟨compare⟩

end TypeKey

end WrapperSynthesis
