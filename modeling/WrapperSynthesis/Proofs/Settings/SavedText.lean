import WrapperSynthesis.Proofs.Toml.Document
import WrapperSynthesis.Settings.Format

/-! The text of saved settings. It is read back as the settings, and still is when entries that have
their defaults are deleted from it (`Settings.ofToml?_of_thinned`). -/

namespace WrapperSynthesis

open Toml

/-! ### The sections of the file -/

def GenerationSettings.toSection (g : GenerationSettings) : Section where
  name := "generation"
  entries := [
    ("long_running_wrappers", .bool g.longRunningWrappers),
    ("page_wrappers", .bool g.pageWrappers)]

/-- A log file that is not set has no entry. -/
def LogSettings.toSection (l : LogSettings) : Section where
  name := "logging"
  entries := ("level", .string l.level) :: (l.file.map fun file => ("file", .string file)).toList

def ModelPaths.toSection (p : ModelPaths) : Section where
  name := "codegen"
  entries := [("input_path", .string p.input), ("output_path", .string p.output)]

namespace Settings

def sections (s : Settings) : List Section :=
  [s.generation.toSection, s.logging.toSection, s.codegen.toSection]

/-- The lines of the file, with a blank one between sections. -/
def lines (s : Settings) : List Line :=
  s.generation.toSection.lines ++ .blank :: s.logging.toSection.lines ++
    .blank :: s.codegen.toSection.lines

theorem toList_boolLine (name : String) (b : Bool) :
    (boolLine name b).toList = (Line.setting name (.bool b)).text := by
  cases b <;> simp [boolLine, Line.text, Scalar.text]

theorem toList_stringLine (name value : String) :
    (stringLine name value).toList = (Line.setting name (.string value)).text := by
  simp [stringLine, Line.text, Scalar.text]

theorem flatMap_text_generation (g : GenerationSettings) :
    g.toSection.lines.flatMap Line.text = ("[generation]\n" ++
      boolLine "long_running_wrappers" g.longRunningWrappers ++
      boolLine "page_wrappers" g.pageWrappers).toList := by
  have header : "[generation]\n".toList = (Line.header "generation").text := by decide
  rw [String.toList_append, String.toList_append, header, toList_boolLine, toList_boolLine]
  simp [GenerationSettings.toSection, Section.lines]

theorem flatMap_text_logging (l : LogSettings) :
    (.blank :: l.toSection.lines).flatMap Line.text = ("\n[logging]\n" ++
      stringLine "level" l.level ++ (l.file.map (stringLine "file")).getD "").toList := by
  have header : "\n[logging]\n".toList = Line.blank.text ++ (Line.header "logging").text := by
    decide
  rw [String.toList_append, String.toList_append, header, toList_stringLine]
  cases file : l.file with
  | none => simp [LogSettings.toSection, Section.lines, file]
  | some file => simp [LogSettings.toSection, Section.lines, file, toList_stringLine]

theorem flatMap_text_codegen (p : ModelPaths) :
    (.blank :: p.toSection.lines).flatMap Line.text = ("\n[codegen]\n" ++
      stringLine "input_path" p.input ++ stringLine "output_path" p.output).toList := by
  have header : "\n[codegen]\n".toList = Line.blank.text ++ (Line.header "codegen").text := by
    decide
  rw [String.toList_append, String.toList_append, header, toList_stringLine, toList_stringLine]
  simp [ModelPaths.toSection, Section.lines]

theorem tomlText_eq (s : Settings) : s.tomlText = String.ofList (s.lines.flatMap Line.text) := by
  have same : s.tomlText.toList = s.lines.flatMap Line.text := by
    unfold tomlText lines
    simp only [List.flatMap_append, flatMap_text_generation, flatMap_text_logging,
      flatMap_text_codegen, ← String.toList_append, ← String.append_assoc]
  rw [← same, String.ofList_toList]

theorem filter_lines (s : Settings) :
    s.lines.filter (fun line => !line.isBlank) = s.sections.flatMap Section.lines := by
  rcases s with ⟨⟨p, q⟩, ⟨l, _ | f⟩, ⟨i, o⟩⟩ <;> rfl

/-! ### Deleting defaults -/

/-- An entry of the section of this name is what it is by default. -/
def IsDefault (name : String) (entry : String × Scalar) : Prop :=
  ∃ s ∈ ({} : Settings).sections, s.name = name ∧ entry ∈ s.entries

theorem isDefault_iff {name : String} {entry : String × Scalar} :
    IsDefault name entry ↔
      "generation" = name ∧
        (entry = ("long_running_wrappers", .bool true) ∨ entry = ("page_wrappers", .bool true)) ∨
      "logging" = name ∧ entry = ("level", .string "info") ∨
      "codegen" = name ∧ (entry = ("input_path", .string "service.json") ∨
        entry = ("output_path", .string "service.augmented.json")) := by
  simp [IsDefault, sections, GenerationSettings.toSection, LogSettings.toSection,
    ModelPaths.toSection]

/-- Some entries of a section, where those that are left out are what they are by default. -/
structure Kept (entries : List (String × Scalar)) (s : Section) : Prop where
  sublist : entries.Sublist s.entries
  others : ∀ entry ∈ s.entries, entry ∈ entries ∨ IsDefault s.name entry

/-- What is left of some sections when entries that are what they are by default are deleted, or
whole sections of such entries. -/
inductive Thinned : List Section → List Section → Prop where
  | nil : Thinned [] []
  | drop {s : Section} {kept full : List Section} :
      Kept [] s → Thinned kept full → Thinned kept (s :: full)
  | keep {s : Section} {entries : List (String × Scalar)} {kept full : List Section} :
      Kept entries s → Thinned kept full → Thinned (⟨s.name, entries⟩ :: kept) (s :: full)

theorem Kept.refl (s : Section) : Kept s.entries s := ⟨.refl _, fun _ h => .inl h⟩

theorem Thinned.refl (full : List Section) : Thinned full full := by
  induction full with
  | nil => exact .nil
  | cons s full ih => exact .keep (.refl s) ih

variable {kept full : List Section}

theorem Thinned.names (thinned : Thinned kept full) :
    (kept.map Section.name).Sublist (full.map Section.name) := by
  induction thinned with
  | nil => exact .slnil
  | drop _ _ ih => exact ih.cons _
  | keep _ _ ih => exact ih.cons_cons _

theorem Thinned.plain (thinned : Thinned kept full) (plain : ∀ s ∈ full, s.Plain) :
    ∀ s ∈ kept, s.Plain := by
  induction thinned with
  | nil => exact plain
  | drop _ _ ih => exact ih fun s hs => plain s (List.mem_cons_of_mem _ hs)
  | keep held _ ih =>
    rw [List.forall_mem_cons] at plain ⊢
    have keys := held.sublist.map Prod.fst
    exact ⟨⟨plain.1.name, fun key hk => plain.1.keys key (keys.subset hk),
      plain.1.distinct.sublist keys⟩, ih plain.2⟩

theorem names_value (sections : List Section) :
    (sections.map Section.value).map Prod.fst = sections.map Section.name := by
  rw [List.map_map]
  rfl

/-- The entries that are kept of a section, and what is read for it: their table, or nothing when
the section is deleted. -/
theorem Thinned.lookup (thinned : Thinned kept full) (names : (full.map Section.name).Nodup)
    {s : Section} (hs : s ∈ full) :
    Kept [] s ∧ (kept.map Section.value).lookup s.name = none ∨
      ∃ entries, Kept entries s ∧ (kept.map Section.value).lookup s.name =
        some (.table (entries.map fun e => (e.1, e.2.value))) := by
  induction thinned with
  | nil => cases hs
  | drop held rest ih =>
    rw [List.map_cons, List.nodup_cons] at names
    rcases List.mem_cons.mp hs with rfl | hs
    · -- The names are distinct, so no other section is found in place of the deleted one.
      refine .inl ⟨held, lookup_eq_none ?_⟩
      rw [names_value]
      exact fun hn => names.1 (rest.names.subset hn)
    · exact ih names.2 hs
  | keep held rest ih =>
    rw [List.map_cons, List.nodup_cons] at names
    rcases List.mem_cons.mp hs with rfl | hs
    · exact .inr ⟨_, held, List.lookup_cons_self⟩
    · rename_i first _ _ _ _
      have other : s.name ≠ first.name := fun same =>
        names.1 (by rw [← same]; exact List.mem_map_of_mem hs)
      have skipped : (s.name == first.name) = false := by rwa [beq_eq_false_iff_ne]
      rw [List.map_cons, Section.value, List.lookup_cons, skipped]
      exact ih names.2 hs

/-! ### Reading -/

section

variable {α β : Type} {s : Section} {entries : List (String × Scalar)} {read : Value → Option α}
  {default a : α}

/-- An entry that is kept is read, and for one that is deleted the default is the same. -/
theorem Kept.sectionOr_eq (held : Kept entries s) (keys : (s.entries.map Prod.fst).Nodup)
    {e : String × Scalar} (he : e ∈ s.entries) (reads : read e.2.value = some a)
    (same : IsDefault s.name e → default = a) :
    sectionOr (entries.map fun e => (e.1, e.2.value)) e.1 read default = some a := by
  have distinct : ((entries.map fun e => (e.1, e.2.value)).map Prod.fst).Nodup := by
    rw [List.map_map]
    exact keys.sublist (held.sublist.map Prod.fst)
  by_cases there : e ∈ entries
  · have found := lookup_of_mem distinct (List.mem_map_of_mem there)
    simp only [sectionOr, found, reads]
  · have gone : (entries.map fun e => (e.1, e.2.value)).lookup e.1 = none := by
      refine lookup_eq_none fun hk => there ?_
      obtain ⟨e', he', hk⟩ := List.mem_map.mp (by rwa [List.map_map] at hk)
      have hk : e'.1 = e.1 := hk
      have value := lookup_of_mem keys (held.sublist.subset he')
      rw [hk, lookup_of_mem keys he, Option.some.injEq] at value
      rwa [Prod.ext hk value.symm] at he'
    rw [sectionOr, gone]
    simp only [same ((held.others e he).resolve_left there)]

theorem Kept.sectionOr_absent (held : Kept entries s) {key : String}
    (absent : key ∉ s.entries.map Prod.fst) :
    sectionOr (entries.map fun e => (e.1, e.2.value)) key read default = some default := by
  have gone : (entries.map fun e => (e.1, e.2.value)).lookup key = none := by
    refine lookup_eq_none fun hk => absent ?_
    rw [List.map_map] at hk
    exact (held.sublist.map Prod.fst).subset hk
  rw [sectionOr, gone]

/-- The table of a section is read, and for a section that is deleted the default is the same. -/
theorem Thinned.sectionOr_eq (thinned : Thinned kept full) (names : (full.map Section.name).Nodup)
    (hs : s ∈ full) (empty : read (.table []) = some default)
    (reads : ∀ entries, Kept entries s →
      read (.table (entries.map fun e => (e.1, e.2.value))) = some a) :
    sectionOr (kept.map Section.value) s.name read default = some a := by
  rcases thinned.lookup names hs with ⟨held, gone⟩ | ⟨entries, held, found⟩
  · rw [sectionOr, gone, ← empty]
    exact reads [] held
  · rw [sectionOr, found]
    exact reads entries held

/-- Two settings are read from a table of truth values and strings. -/
theorem readPair_table {nameA nameB : String} {readB : Value → Option β} {defaultB b : β}
    (readsA : sectionOr (entries.map fun e => (e.1, e.2.value)) nameA read default = some a)
    (readsB : sectionOr (entries.map fun e => (e.1, e.2.value)) nameB readB defaultB = some b) :
    (Value.table (entries.map fun e => (e.1, e.2.value))).readPair nameA read default
      nameB readB defaultB = some (a, b) := by
  have others : Value.entriesHeld ((entries.map fun e => (e.1, e.2.value)).filter
      fun entry => decide (entry.1 ≠ nameA) && decide (entry.1 ≠ nameB)) = true := by
    refine entriesHeld_of_forall fun entry he => ?_
    obtain ⟨e, -, rfl⟩ := List.mem_map.mp (List.mem_filter.mp he).1
    exact e.2.held_value
  unfold sectionOr at readsA readsB
  cases foundA : (entries.map fun e => (e.1, e.2.value)).lookup nameA <;>
    cases foundB : (entries.map fun e => (e.1, e.2.value)).lookup nameB <;>
    simp only [foundA, foundB, Option.some.injEq] at readsA readsB <;>
    simp only [Value.readPair, foundA, foundB, readsA, readsB, bind, Option.bind, others, if_true]

end

theorem plain_generation (g : GenerationSettings) : g.toSection.Plain where
  name := show Bare "generation" by decide
  keys := show ∀ key ∈ ["long_running_wrappers", "page_wrappers"], Bare key by decide
  distinct := show ["long_running_wrappers", "page_wrappers"].Nodup by decide

theorem plain_logging (l : LogSettings) : l.toSection.Plain := by
  rcases l with ⟨level, _ | file⟩
  · exact {
      name := show Bare "logging" by decide
      keys := show ∀ key ∈ ["level"], Bare key by decide
      distinct := show ["level"].Nodup by decide }
  · exact {
      name := show Bare "logging" by decide
      keys := show ∀ key ∈ ["level", "file"], Bare key by decide
      distinct := show ["level", "file"].Nodup by decide }

theorem plain_codegen (p : ModelPaths) : p.toSection.Plain where
  name := show Bare "codegen" by decide
  keys := show ∀ key ∈ ["input_path", "output_path"], Bare key by decide
  distinct := show ["input_path", "output_path"].Nodup by decide

theorem names_sections (s : Settings) : (s.sections.map Section.name).Nodup := by
  show ["generation", "logging", "codegen"].Nodup
  decide

variable {entries : List (String × Scalar)}

theorem ofToml_generation {g : GenerationSettings} (held : Kept entries g.toSection) :
    GenerationSettings.ofToml (.table (entries.map fun e => (e.1, e.2.value))) = some g := by
  have distinct := (plain_generation g).distinct
  have handles : sectionOr (entries.map fun e => (e.1, e.2.value)) "long_running_wrappers"
      Value.asBool? true = some g.longRunningWrappers :=
    held.sectionOr_eq distinct List.mem_cons_self rfl fun h => by
      simpa [isDefault_iff, GenerationSettings.toSection] using h
  have pages : sectionOr (entries.map fun e => (e.1, e.2.value)) "page_wrappers"
      Value.asBool? true = some g.pageWrappers :=
    held.sectionOr_eq distinct (List.mem_cons_of_mem _ List.mem_cons_self) rfl fun h => by
      simpa [isDefault_iff, GenerationSettings.toSection] using h
  rw [GenerationSettings.ofToml, readPair_table handles pages]
  rfl

theorem ofToml_logging {l : LogSettings} (held : Kept entries l.toSection) :
    LogSettings.ofToml (.table (entries.map fun e => (e.1, e.2.value))) = some l := by
  have distinct := (plain_logging l).distinct
  have level : sectionOr (entries.map fun e => (e.1, e.2.value)) "level" Value.asString? "info" =
      some l.level :=
    held.sectionOr_eq distinct List.mem_cons_self rfl fun h => by
      simpa [isDefault_iff, LogSettings.toSection, eq_comm] using h
  have file : sectionOr (entries.map fun e => (e.1, e.2.value)) "file"
      (fun v => v.asString?.map some) none = some l.file := by
    rcases l with ⟨level, _ | file⟩
    · exact held.sectionOr_absent (show "file" ∉ ["level"] by decide)
    · exact held.sectionOr_eq distinct (List.mem_cons_of_mem _ List.mem_cons_self) rfl fun h => by
        simp [isDefault_iff] at h
  rw [LogSettings.ofToml, readPair_table level file]
  rfl

theorem ofToml_codegen {p : ModelPaths} (held : Kept entries p.toSection) :
    ModelPaths.ofToml (.table (entries.map fun e => (e.1, e.2.value))) = some p := by
  have distinct := (plain_codegen p).distinct
  have input : sectionOr (entries.map fun e => (e.1, e.2.value)) "input_path" Value.asString?
      "service.json" = some p.input :=
    held.sectionOr_eq distinct List.mem_cons_self rfl fun h => by
      simpa [isDefault_iff, ModelPaths.toSection, eq_comm] using h
  have output : sectionOr (entries.map fun e => (e.1, e.2.value)) "output_path" Value.asString?
      "service.augmented.json" = some p.output :=
    held.sectionOr_eq distinct (List.mem_cons_of_mem _ List.mem_cons_self) rfl fun h => by
      simpa [isDefault_iff, ModelPaths.toSection, eq_comm] using h
  rw [ModelPaths.ofToml, readPair_table input output]
  rfl

/-- Settings are read from what is left of their file, with blank lines anywhere between its
lines. -/
theorem ofToml?_of_thinned {s : Settings} {lines : List Line} (thinned : Thinned kept s.sections)
    (full : lines.filter (fun line => !line.isBlank) = kept.flatMap Section.lines) :
    ofToml? (String.ofList (lines.flatMap Line.text)) = some s := by
  have plain : ∀ t ∈ s.sections, t.Plain := by
    simp only [sections, List.forall_mem_cons]
    exact ⟨plain_generation _, plain_logging _, plain_codegen _, fun _ => nofun⟩
  have names := names_sections s
  have parsed := parse_of_lines full (thinned.plain plain) (names.sublist thinned.names)
  have generation : sectionOr (kept.map Section.value) "generation" GenerationSettings.ofToml {} =
      some s.generation :=
    thinned.sectionOr_eq names List.mem_cons_self rfl fun _ => ofToml_generation
  have logging : sectionOr (kept.map Section.value) "logging" LogSettings.ofToml {} =
      some s.logging :=
    thinned.sectionOr_eq names (List.mem_cons_of_mem _ List.mem_cons_self) rfl fun _ =>
      ofToml_logging
  have codegen : sectionOr (kept.map Section.value) "codegen" ModelPaths.ofToml {} =
      some s.codegen :=
    thinned.sectionOr_eq names (List.mem_cons_of_mem _ (List.mem_cons_of_mem _ List.mem_cons_self))
      rfl fun _ => ofToml_codegen
  -- Numbers in further sections would have to be held, but no entry of a section is a number.
  have others : Value.entriesHeld ((kept.map Section.value).filter fun entry =>
      decide (entry.1 ≠ "generation") && decide (entry.1 ≠ "logging") &&
        decide (entry.1 ≠ "codegen")) = true := by
    refine entriesHeld_of_forall fun entry he => ?_
    obtain ⟨t, -, rfl⟩ := List.mem_map.mp (List.mem_filter.mp he).1
    exact t.held_value
  simp only [ofToml?, parsed, generation, logging, codegen, bind, Option.bind]
  exact if_pos others

theorem ofToml?_tomlText (s : Settings) : ofToml? s.tomlText = some s := by
  rw [tomlText_eq]
  exact ofToml?_of_thinned (.refl s.sections) s.filter_lines

end Settings

end WrapperSynthesis
