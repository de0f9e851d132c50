import Mathlib.Logic.Function.Basic
import WrapperSynthesis.Files.Tree
import WrapperSynthesis.Proofs.Result

/-! What operations on files change. A tree is looked at from outside, location by location: writing
a file changes what is seen in one location (`look_of_write`), and making folders adds folders on
the way and changes nothing else (`adds_makeFolders`). -/

namespace WrapperSynthesis

/-- What is seen of a node from outside. -/
inductive Sight where
  | file (content : ByteArray)
  | folder

namespace Node

def sight : Node → Sight
  | file content => .file content
  | folder _ => .folder

/-- What is seen at the end of a row of names. -/
def look (node : Node) (names : List String) : Option Sight := (node.find? names).map sight

@[simp] theorem look_nil (node : Node) : node.look [] = some node.sight := rfl

@[simp] theorem look_file_cons (content : ByteArray) (name : String) (rest : List String) :
    (file content).look (name :: rest) = none := rfl

@[simp] theorem look_folder_cons (entries : List (String × Node)) (name : String)
    (rest : List String) :
    (folder entries).look (name :: rest) = (entries.lookup name).bind (·.look rest) := by
  simp only [look, find?]
  cases entries.lookup name <;> rfl

theorem exists_entries_of_look {node : Node} (h : node.look [] = some .folder) :
    ∃ entries, node = folder entries := by
  cases node with
  | file content => cases h
  | folder entries => exact ⟨entries, rfl⟩

theorem lookup_cons (name key : String) (node : Node) (entries : List (String × Node)) :
    List.lookup name ((key, node) :: entries) =
      if name = key then some node else entries.lookup name := by
  by_cases same : name = key
  · simp [same]
  · simp [List.lookup_cons, same, beq_false_of_ne same]

theorem lookup_setEntry (name other : String) (node : Node) (entries : List (String × Node)) :
    (setEntry name node entries).lookup other =
      if other = name then some node else entries.lookup other := by
  induction entries with
  | nil => rw [setEntry, lookup_cons]
  | cons entry rest ih =>
    obtain ⟨key, value⟩ := entry
    rw [setEntry]
    by_cases found : key = name
    · subst found
      by_cases same : other = key <;> simp [lookup_cons, same]
    · by_cases same : other = key
      · subst same
        simp [found]
      · simp [lookup_cons, found, same, ih]

/-- Only folders have something behind them. -/
theorem look_of_look_append {node : Node} (names : List String) {rest : List String}
    (more : rest ≠ []) (h : node.look (names ++ rest) ≠ none) : node.look names = some .folder := by
  induction names generalizing node with
  | nil =>
    obtain ⟨name, rest, rfl⟩ := List.exists_cons_of_ne_nil more
    cases node with
    | file content => exact (h rfl).elim
    | folder entries => rfl
  | cons name names ih =>
    cases node with
    | file content => exact (h rfl).elim
    | folder entries =>
      rw [List.cons_append, look_folder_cons] at h
      rw [look_folder_cons]
      cases found : entries.lookup name with
      | none => simp [found] at h
      | some inner =>
        rw [found] at h
        exact ih h

/-- Putting a node without anything behind it where no folder stands changes what is seen there, and
nothing else. -/
theorem look_put {node new : Node} {folder : List String} {name : String}
    (isFolder : node.look folder = some .folder)
    (free : node.look (folder ++ [name]) ≠ some .folder)
    (bare : ∀ rest ≠ [], new.look rest = none) :
    (node.put (folder ++ [name]) new).look =
      Function.update node.look (folder ++ [name]) (some new.sight) := by
  funext names
  -- Down the folder together with the names that are looked at, until they part.
  induction folder generalizing node names with
  | nil =>
    obtain ⟨entries, rfl⟩ := exists_entries_of_look isFolder
    cases names with
    | nil => simp [put, Function.update, sight]
    | cons other rest =>
      by_cases same : other = name
      · subst same
        -- What is looked at may go on behind the new node, where nothing is.
        by_cases last : rest = []
        · subst last
          simp [put, lookup_setEntry]
        · have behind : (Node.folder entries).look (other :: rest) = none := by
            by_contra seen
            exact free (look_of_look_append [other] last seen)
          rw [Function.update_of_ne (by simp [last]), behind]
          simp [put, lookup_setEntry, bare rest last]
      · rw [Function.update_of_ne (by simp [same])]
        simp [put, lookup_setEntry, same]
  | cons first folder ih =>
    have onTheWay : node.look [] = some .folder :=
      look_of_look_append [] (List.cons_ne_nil first folder) (by simp [isFolder])
    obtain ⟨entries, rfl⟩ := exists_entries_of_look onTheWay
    rw [look_folder_cons] at isFolder
    obtain ⟨inner, found, inside⟩ := Option.bind_eq_some_iff.mp isFolder
    rw [List.cons_append, look_folder_cons, found, Option.bind_some] at free
    cases names with
    | nil => simp [put, Function.update, sight]
    | cons other rest =>
      by_cases same : other = first
      · subst same
        have later := ih inside free rest
        by_cases last : rest = folder ++ [name]
        · subst last
          simpa [put, lookup_setEntry, found] using later
        · rw [Function.update_of_ne last] at later
          rw [Function.update_of_ne (by simp [last])]
          simpa [put, lookup_setEntry, found] using later
      · rw [Function.update_of_ne (by simp [same])]
        simp [put, lookup_setEntry, same]

end Node

namespace FileTree

/-- What is seen at a location, which is a row of names from the root. -/
def look (t : FileTree) (location : List String) : Option Sight := t.root.look location

/-- The working folder is a folder. -/
def Sound (t : FileTree) : Prop := t.look t.workingFolder = some .folder

/-- Where a row of names leads, two dots being the folder above. -/
def walk (folder : List String) : List String → List String
  | [] => folder
  | name :: rest => if name = ".." then walk folder.dropLast rest else walk (folder ++ [name]) rest

/-- Where routes start. -/
def start (t : FileTree) (absolute : Bool) : List String := if absolute then [] else t.workingFolder

/-- Where a path leads. -/
def location (t : FileTree) (path : String) : List String :=
  walk (t.start (Path.route path).absolute) (Path.route path).names

variable {t t' t'' : FileTree} {folder : List String} {name : String} {names : List String}
  {route : Route}

theorem walk_append (folder before after : List String) :
    walk folder (before ++ after) = walk (walk folder before) after := by
  induction before generalizing folder with
  | nil => rfl
  | cons name rest ih =>
    rw [List.cons_append, walk, walk]
    split <;> exact ih _

theorem isFolder_dropLast (h : t.look folder = some .folder) :
    t.look folder.dropLast = some .folder := by
  rcases List.eq_nil_or_concat folder with rfl | ⟨above, name, rfl⟩
  · exact h
  · rw [List.concat_eq_append] at h
    rw [List.concat_eq_append, List.dropLast_concat]
    exact Node.look_of_look_append above (List.cons_ne_nil name [])
      (fun none => by cases h.symm.trans none)

theorem isFolder_start (sound : t.Sound) (absolute : Bool) :
    t.look (t.start absolute) = some .folder := by
  cases absolute with
  | false => exact sound
  | true =>
    by_cases atRoot : t.workingFolder = []
    · unfold Sound at sound
      rwa [atRoot] at sound
    · exact Node.look_of_look_append [] atRoot fun none => by cases none.symm.trans sound

theorem entry?_eq_ok_iff {found : Option Node} :
    t.entry? folder name = .ok found ↔
      name.utf8ByteSize ≤ Path.nameLimit ∧ t.root.find? (folder ++ [name]) = found := by
  unfold entry?
  split <;> simp <;> omega

theorem enter_cons_of_ne (down : name ≠ "..") {goal : List String} :
    t.enter folder (name :: names) = .ok goal ↔
      name.utf8ByteSize ≤ Path.nameLimit ∧ t.look (folder ++ [name]) = some .folder ∧
        t.enter (folder ++ [name]) names = .ok goal := by
  rw [enter, if_neg down]
  unfold entry?
  by_cases long : Path.nameLimit < name.utf8ByteSize
  · simp [long, Nat.not_le.mpr long]
  · rw [if_neg long]
    rcases found : t.root.find? (folder ++ [name]) with _ | content | entries
    · simp [look, Node.look, found]
    · simp [look, Node.look, found, Node.sight]
    · simp [look, Node.look, found, Node.sight, Nat.not_lt.mp long]

/-- Names that can be entered lead from folder to folder. -/
theorem of_enter {goal : List String} (isFolder : t.look folder = some .folder)
    (ok : t.enter folder names = .ok goal) :
    goal = walk folder names ∧ t.look goal = some .folder := by
  induction names generalizing folder with
  | nil =>
    cases ok
    exact ⟨rfl, isFolder⟩
  | cons name names ih =>
    by_cases up : name = ".."
    · rw [enter, if_pos up] at ok
      rw [walk, if_pos up]
      exact ih (isFolder_dropLast isFolder) ok
    · obtain ⟨_, inner, later⟩ := (enter_cons_of_ne up).mp ok
      rw [walk, if_neg up]
      exact ih inner later

/-- Folders that are still there can still be entered. -/
theorem enter_mono (kept : ∀ location, t.look location = some .folder →
    t'.look location = some .folder) {goal : List String} (ok : t.enter folder names = .ok goal) :
    t'.enter folder names = .ok goal := by
  induction names generalizing folder with
  | nil => exact ok
  | cons name names ih =>
    by_cases up : name = ".."
    · rw [enter, if_pos up] at ok ⊢
      exact ih ok
    · obtain ⟨short, inner, later⟩ := (enter_cons_of_ne up).mp ok
      exact (enter_cons_of_ne up).mpr ⟨short, kept _ inner, ih later⟩

theorem reach_eq_entry_iff :
    t.reach route = .ok (.entry folder name) ↔
      ∃ before, route.names = before ++ [name] ∧ name ≠ ".." ∧ route.ending ≠ .dot ∧
        t.enter (t.start route.absolute) before = .ok folder := by
  unfold reach
  rcases List.eq_nil_or_concat route.names with none | ⟨before, last, names⟩
  · simp [none]
  · simp only [names, List.concat_eq_append, List.getLast?_append, List.getLast?_singleton,
      Option.some_or, List.dropLast_concat]
    -- A route that ends in a dot or in two dots leads into a folder.
    split
    · rename_i inward
      constructor
      · intro ok
        obtain ⟨_, _, other⟩ := map_eq_ok_iff.mp ok
        cases other
      · rintro ⟨before', same, down, ending, -⟩
        obtain ⟨rfl, last⟩ := List.append_inj' same rfl
        cases last
        simp [down, ending] at inward
    · rename_i named
      rw [map_eq_ok_iff]
      constructor
      · rintro ⟨goal, entered, same⟩
        cases same
        simp only [Bool.or_eq_true, decide_eq_true_eq, not_or] at named
        exact ⟨before, rfl, named.2, named.1, entered⟩
      · rintro ⟨before', same, -, -, entered⟩
        obtain ⟨rfl, last⟩ := List.append_inj' same rfl
        cases last
        exact ⟨folder, entered, rfl⟩

/-- A path that leads to a name in a folder, which is the location of the path. -/
theorem of_reach (sound : t.Sound) (ok : t.reach route = .ok (.entry folder name)) :
    t.look folder = some .folder ∧
      walk (t.start route.absolute) route.names = folder ++ [name] := by
  obtain ⟨before, names, down, _, entered⟩ := reach_eq_entry_iff.mp ok
  obtain ⟨rfl, isFolder⟩ := of_enter (isFolder_start sound route.absolute) entered
  refine ⟨isFolder, ?_⟩
  rw [names, walk_append, walk, if_neg down, walk]

theorem look_setNode {node : Node} (isFolder : t.look folder = some .folder)
    (free : t.look (folder ++ [name]) ≠ some .folder) (bare : ∀ rest ≠ [], node.look rest = none) :
    (t.setNode folder name node).look =
      Function.update t.look (folder ++ [name]) (some node.sight) :=
  Node.look_put isFolder free bare

/-- What a change of the files keeps: folders stay, and the working folder with them. -/
structure Keeps (t t' : FileTree) : Prop where
  workingFolder : t'.workingFolder = t.workingFolder
  folders : ∀ location, t.look location = some .folder → t'.look location = some .folder

theorem Keeps.refl (t : FileTree) : t.Keeps t := ⟨rfl, fun _ h => h⟩

theorem Keeps.trans (h : t.Keeps t') (h' : t'.Keeps t'') : t.Keeps t'' :=
  ⟨h'.workingFolder.trans h.workingFolder, fun _ seen => h'.folders _ (h.folders _ seen)⟩

theorem Keeps.sound (h : t.Keeps t') (sound : t.Sound) : t'.Sound := by
  unfold Sound
  rw [h.workingFolder]
  exact h.folders _ sound

theorem Keeps.start_eq (h : t.Keeps t') (absolute : Bool) :
    t'.start absolute = t.start absolute := by
  rw [start, start, h.workingFolder]

theorem Keeps.location_eq (h : t.Keeps t') (path : String) :
    t'.location path = t.location path := by
  rw [location, location, h.start_eq]

/-- A route leads to the same name when all folders are still there. -/
theorem Keeps.reach_entry (h : t.Keeps t') (ok : t.reach route = .ok (.entry folder name)) :
    t'.reach route = .ok (.entry folder name) := by
  obtain ⟨before, names, down, ending, entered⟩ := reach_eq_entry_iff.mp ok
  rw [← h.start_eq] at entered
  exact reach_eq_entry_iff.mpr ⟨before, names, down, ending, enter_mono h.folders entered⟩

theorem keeps_setNode {node : Node} (isFolder : t.look folder = some .folder)
    (free : t.look (folder ++ [name]) ≠ some .folder) (bare : ∀ rest ≠ [], node.look rest = none) :
    t.Keeps (t.setNode folder name node) where
  workingFolder := rfl
  folders location seen := by
    have other : location ≠ folder ++ [name] := fun same => free (same ▸ seen)
    rw [look_setNode isFolder free bare, Function.update_of_ne other]
    exact seen

theorem bare_file (content : ByteArray) : ∀ rest ≠ [], (Node.file content).look rest = none := by
  intro rest more
  obtain ⟨name, rest, rfl⟩ := List.exists_cons_of_ne_nil more
  rfl

theorem bare_folder : ∀ rest ≠ [], (Node.folder []).look rest = none := by
  intro rest more
  obtain ⟨name, rest, rfl⟩ := List.exists_cons_of_ne_nil more
  rfl

/-! ### Writing a file -/

theorem route_of_accept {path : String} (ok : Path.accept path = .ok route) :
    route = Path.route path := by
  unfold Path.accept at ok
  split at ok
  · cases ok
  split at ok
  · cases ok
  split at ok
  · cases ok
  · cases ok
    rfl

/-- A file that is written is one that the path leads to, under a name that may be new. -/
theorem of_write {path : String} {content : ByteArray} (ok : t.write path content = .ok t') :
    Path.accept path = .ok (Path.route path) ∧ (Path.route path).ending ≠ .slash ∧
      ∃ folder name, t.reach (Path.route path) = .ok (.entry folder name) ∧
        name.utf8ByteSize ≤ Path.nameLimit ∧ t.look (folder ++ [name]) ≠ some .folder ∧
        t' = t.setNode folder name (.file content) := by
  obtain ⟨route, accepted, ok⟩ := bind_eq_ok_iff.mp ok
  cases route_of_accept accepted
  obtain ⟨place, reached, ok⟩ := bind_eq_ok_iff.mp ok
  cases place with
  | inside folder => cases ok
  | entry folder name =>
    simp only at ok
    split at ok
    · cases ok
    · rename_i ending
      obtain ⟨found, seen, ok⟩ := bind_eq_ok_iff.mp ok
      obtain ⟨short, rfl⟩ := entry?_eq_ok_iff.mp seen
      refine ⟨accepted, ending, folder, name, reached, short, ?_⟩
      rcases found : t.root.find? (folder ++ [name]) with _ | old | entries
      · rw [found] at ok
        cases ok
        exact ⟨by simp [look, Node.look, found], rfl⟩
      · rw [found] at ok
        cases ok
        exact ⟨by simp [look, Node.look, found, Node.sight], rfl⟩
      · rw [found] at ok
        cases ok

/-- Writing a file changes what is seen in the location of its path, where no folder was. -/
theorem look_of_write (sound : t.Sound) {path : String} {content : ByteArray}
    (ok : t.write path content = .ok t') :
    t.Keeps t' ∧ t'.look = Function.update t.look (t.location path) (some (.file content)) := by
  obtain ⟨-, -, folder, name, reached, -, free, rfl⟩ := of_write ok
  obtain ⟨isFolder, there⟩ := of_reach sound reached
  refine ⟨keeps_setNode isFolder free (bare_file content), ?_⟩
  rw [location, there]
  exact look_setNode isFolder free (bare_file content)

/-- What has been written is read back. -/
theorem read_of_write (sound : t.Sound) {path : String} {content : ByteArray}
    (ok : t.write path content = .ok t') : t'.read path = .ok content := by
  obtain ⟨keeps, look⟩ := look_of_write sound ok
  obtain ⟨accepted, ending, folder, name, reached, short, -, -⟩ := of_write ok
  obtain ⟨-, there⟩ := of_reach sound reached
  have found : t'.root.find? (folder ++ [name]) = some (.file content) := by
    have seen : t'.look (folder ++ [name]) = some (.file content) := by
      rw [look, location, there, Function.update_self]
    obtain ⟨node, found, same⟩ := Option.map_eq_some_iff.mp seen
    cases node with
    | file other =>
      cases same
      exact found
    | folder entries => cases same
  have entry := entry?_eq_ok_iff.mpr ⟨short, found⟩
  simp only [read, accepted, keeps.reach_entry reached, entry, bind, Except.bind, if_neg ending]

/-! ### Making folders -/

/-- All that is new are folders in locations of some kind. -/
structure Adds (new : List String → Prop) (t t' : FileTree) : Prop where
  workingFolder : t'.workingFolder = t.workingFolder
  look : ∀ location, t'.look location = t.look location ∨
    t.look location = none ∧ t'.look location = some .folder ∧ new location

variable {new new' : List String → Prop}

theorem Adds.refl (t : FileTree) : Adds new t t := ⟨rfl, fun _ => .inl rfl⟩

theorem Adds.trans (h : Adds new t t') (h' : Adds new t' t'') : Adds new t t'' where
  workingFolder := h'.workingFolder.trans h.workingFolder
  look location := by
    rcases h'.look location with same | ⟨none, seen, isNew⟩
    · rw [same]
      exact h.look location
    · rcases h.look location with same | ⟨_, seen', _⟩
      · exact .inr ⟨same ▸ none, seen, isNew⟩
      · cases none.symm.trans seen'

theorem Adds.mono (h : Adds new t t') (weaker : ∀ location, new location → new' location) :
    Adds new' t t' :=
  ⟨h.workingFolder, fun location =>
    (h.look location).imp_right fun ⟨before, seen, isNew⟩ => ⟨before, seen, weaker location isNew⟩⟩

theorem Adds.keeps (h : Adds new t t') : t.Keeps t' where
  workingFolder := h.workingFolder
  folders location seen := by
    rcases h.look location with same | ⟨none, _, _⟩
    · rw [same, seen]
    · cases none.symm.trans seen

theorem adds_makeFolder (sound : t.Sound) (ok : t.makeFolder route = .ok t') :
    Adds (· = walk (t.start route.absolute) route.names) t t' := by
  obtain ⟨place, reached, ok⟩ := bind_eq_ok_iff.mp ok
  cases place with
  | inside folder => cases ok
  | entry folder name =>
    obtain ⟨found, entry, ok⟩ := bind_eq_ok_iff.mp ok
    obtain ⟨-, rfl⟩ := entry?_eq_ok_iff.mp entry
    rcases found : t.root.find? (folder ++ [name]) with _ | node
    · rw [found] at ok
      cases ok
      obtain ⟨isFolder, there⟩ := of_reach sound reached
      have nothing : t.look (folder ++ [name]) = none := by simp [look, Node.look, found]
      have free : t.look (folder ++ [name]) ≠ some .folder := by simp [nothing]
      have seen := look_setNode isFolder free bare_folder
      refine ⟨rfl, fun location => ?_⟩
      rw [seen, there]
      by_cases same : location = folder ++ [name]
      · subst same
        exact .inr ⟨nothing, Function.update_self .., rfl⟩
      · exact .inl (Function.update_of_ne same ..)
    · rw [found] at ok
      cases ok

/-- The locations that a row of names goes through. -/
def OnTheWay (folder names location : List String) : Prop :=
  ∃ before, before <+: names ∧ location = walk folder before

theorem adds_ensureFolder (route : Route) (sound : t.Sound)
    {makeAbove : FileTree → FileTree × Except FileError Unit}
    (above : Adds (OnTheWay (t.start route.absolute) route.names) t (makeAbove t).1) :
    Adds (OnTheWay (t.start route.absolute) route.names) t (ensureFolder route makeAbove t).1 := by
  have own {t₁ t₂ : FileTree} (sound : t₁.Sound) (ok : t₁.makeFolder route = .ok t₂) :
      Adds (OnTheWay (t₁.start route.absolute) route.names) t₁ t₂ :=
    (adds_makeFolder sound ok).mono fun _ same => ⟨_, List.prefix_refl _, same⟩
  -- The folder is made at once, or after those above it, or it is left when these fail.
  unfold ensureFolder
  split
  · exact own sound ‹_›
  · split
    · rename_i failed
      rw [failed] at above
      exact above
    · rename_i t₁ made
      rw [made] at above
      split
      · rename_i made
        have last := own (above.keeps.sound sound) made
        rw [above.keeps.start_eq] at last
        exact above.trans last
      · exact above
  · exact Adds.refl t

theorem adds_ensureAll (absolute : Bool) (sound : t.Sound) :
    Adds (OnTheWay (t.start absolute) names.reverse) t (ensureAll absolute names t).1 := by
  induction names generalizing t with
  | nil => exact Adds.refl t
  | cons name above ih =>
    refine adds_ensureFolder ⟨absolute, _, .name⟩ sound ((ih sound).mono ?_)
    rintro location ⟨before, short, rfl⟩
    exact ⟨before, short.trans (by simp), rfl⟩

/-- Making folders makes no others than those on the way, whether or not it succeeds. -/
theorem adds_makeFolders (sound : t.Sound) (path : String) :
    Adds (OnTheWay (t.start (Path.route path).absolute) (Path.route path).names) t
      (t.makeFolders path).1 := by
  unfold makeFolders
  split
  · exact Adds.refl t
  · split
    · exact Adds.refl t
    · rename_i accepted
      cases route_of_accept accepted
      refine adds_ensureFolder _ sound ((adds_ensureAll _ sound).mono ?_)
      rintro location ⟨before, short, rfl⟩
      rw [List.reverse_reverse] at short
      exact ⟨before, short.trans (List.dropLast_prefix _), rfl⟩

end FileTree

end WrapperSynthesis
