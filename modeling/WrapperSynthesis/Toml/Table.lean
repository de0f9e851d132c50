import WrapperSynthesis.Toml.Value

/-! Tables under construction. How a table came to be decides what may still be added to it: a table
may be opened by one header only, and the parts of a dotted name reach only tables that no header
has opened. -/

namespace WrapperSynthesis.Toml

inductive Origin where
  /-- On the way to the table of some header. -/
  | implied
  /-- On the way along a dotted name. -/
  | dotted
  /-- By a header of its own. -/
  | opened
deriving DecidableEq, Repr

/-- What a name stands for in a table under construction. -/
inductive Item where
  | value (v : Value)
  | table (origin : Origin) (entries : List (String × Item))
  /-- The tables of one array header, the last of which is still open. -/
  | tables (elements : List (List (String × Item)))

/-- The contents of a table under construction. -/
abbrev Entries := List (String × Item)

namespace Entries

/-- The entries with one entry set. A new entry comes last. -/
def set (name : String) (item : Item) : Entries → Entries
  | [] => [(name, item)]
  | entry :: rest => if entry.1 = name then (name, item) :: rest else entry :: set name item rest

/-- Changes the open table at the end of a path. Tables that are missing are made on the way, with
the given origin. A dotted name may not pass a table that a header has opened. -/
def descend (dotted : Bool) (f : Entries → Option Entries) : List String → Entries → Option Entries
  | [], entries => f entries
  | name :: path, entries =>
    match entries.lookup name with
    | none => do
      let inner ← descend dotted f path []
      return set name (.table (if dotted then .dotted else .implied) inner) entries
    | some (.value _) => none
    | some (.table origin inner) =>
      if dotted && origin = .opened then none
      else do
        let inner ← descend dotted f path inner
        return set name (.table origin inner) entries
    | some (.tables elements) => do
      let inner ← descend dotted f path (elements.getLastD [])
      return set name (.tables (elements.dropLast ++ [inner])) entries

def insertValue (name : String) (v : Value) (entries : Entries) : Option Entries :=
  match entries.lookup name with
  | none => some (entries ++ [(name, .value v)])
  | some _ => none

/-- Adds a value under a dotted name, whose last part is `name`. The table that receives it is one
that dotted names have made. -/
def assign (name : String) (v : Value) : List String → Entries → Option Entries
  | [], entries => insertValue name v entries
  | first :: path, entries =>
    let last := (first :: path).getLast (List.cons_ne_nil first path)
    descend true (fun outer =>
        match outer.lookup last with
        | none => some (outer ++ [(last, .table .dotted [(name, .value v)])])
        | some (.table .dotted inner) => do
          let inner ← insertValue name v inner
          return set last (.table .dotted inner) outer
        | some _ => none)
      (first :: path).dropLast entries

def openTable (name : String) (entries : Entries) : Option Entries :=
  match entries.lookup name with
  | none => some (entries ++ [(name, .table .opened [])])
  | some (.table .implied inner) => some (set name (.table .opened inner) entries)
  | some _ => none

def openElement (name : String) (entries : Entries) : Option Entries :=
  match entries.lookup name with
  | none => some (entries ++ [(name, .tables [[]])])
  | some (.tables elements) => some (set name (.tables (elements ++ [[]])) entries)
  | some _ => none

end Entries

mutual

def sealEntries : List (String × Item) → List (String × Value)
  | [] => []
  | (name, item) :: rest => (name, sealItem item) :: sealEntries rest

def sealItem : Item → Value
  | .value v => v
  | .table _ entries => .table (sealEntries entries)
  | .tables elements => .array (sealElements elements)

def sealElements : List (List (String × Item)) → List Value
  | [] => []
  | entries :: rest => .table (sealEntries entries) :: sealElements rest

end

end WrapperSynthesis.Toml
