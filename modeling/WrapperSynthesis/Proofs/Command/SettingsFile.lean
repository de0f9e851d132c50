import WrapperSynthesis.Proofs.Command.FilePass
import WrapperSynthesis.Proofs.Settings.SavedText

/-! Settings survive saving: they are loaded from the file to which they were saved, and still are
when entries that have their defaults are deleted from it (`loadSettings_of_saveSettings`). -/

namespace WrapperSynthesis

open Toml

namespace Command

variable {machine machine' : Machine} {path text : String} {settings : Settings}

theorem outcome_loadSettings (read : machine.files.readText path = .ok text)
    (parsed : Settings.ofToml? text = some settings) :
    outcome (loadSettings path) machine = (.ok settings, machine) := by
  have opened : outcome (onFile .settingsFile (Host.readText path)) machine =
      ((machine.files.readText path).mapError .settingsFile, machine) := outcome_onFile
  rw [loadSettings, outcome_bind, opened, read]
  simp only [Except.mapError, parsed]
  rfl

/-- What has been written to a file is what is loaded from it. -/
theorem outcome_loadSettings_of_write (sound : machine.files.Sound)
    (written : outcome (onFile .settingsFile (Host.writeText path text)) machine =
      (.ok (), machine'))
    (parsed : Settings.ofToml? text = some settings) :
    outcome (loadSettings path) machine' = (.ok settings, machine') := by
  rw [outcome_onFile, Machine.run_writeText] at written
  split at written
  · rename_i files ok
    cases written
    exact outcome_loadSettings (FileTree.readText_of_read (FileTree.read_of_write sound ok)) parsed
  · cases written

/-- Settings that have been saved to a file are loaded from it again. The file holds the entries of
the settings, and when some that are what they are by default are deleted from it, one by one or
with their section, the same settings are loaded, wherever blank lines are left. -/
theorem loadSettings_of_saveSettings (settings : Settings) :
    settings.tomlText = String.ofList (settings.lines.flatMap Line.text) ∧
    settings.lines.filter (fun line => !line.isBlank) =
      settings.sections.flatMap Section.lines ∧
    (∀ (machine machine' : Machine) (path : String), machine.files.Sound →
      outcome (saveSettings path settings) machine = (.ok (), machine') →
      outcome (loadSettings path) machine' = (.ok settings, machine')) ∧
    ∀ (kept : List Section) (lines : List Line), Settings.Thinned kept settings.sections →
      lines.filter (fun line => !line.isBlank) = kept.flatMap Section.lines →
      Settings.ofToml? (String.ofList (lines.flatMap Line.text)) = some settings ∧
      ∀ (machine machine' : Machine) (path : String), machine.files.Sound →
        outcome (onFile .settingsFile
          (Host.writeText path (String.ofList (lines.flatMap Line.text)))) machine =
            (.ok (), machine') →
        outcome (loadSettings path) machine' = (.ok settings, machine') := by
  refine ⟨settings.tomlText_eq, settings.filter_lines, ?_, ?_⟩
  · intro machine machine' path sound saved
    exact outcome_loadSettings_of_write sound saved settings.ofToml?_tomlText
  · intro kept lines thinned full
    have parsed := Settings.ofToml?_of_thinned thinned full
    exact ⟨parsed, fun machine machine' path sound written =>
      outcome_loadSettings_of_write sound written parsed⟩

/-- The level has quotes of both kinds, a backslash, a line break and control characters. -/
def unusualSettings : Settings where
  generation := { pageWrappers := false }
  logging := { level := "\"\"\"'''\\\n\t\x00\"", file := some "it's\r.log" }

/-- What is left of the sections when all defaults are deleted. -/
def unusualSections : List Section := [
  ⟨"generation", [("page_wrappers", .bool false)]⟩,
  unusualSettings.logging.toSection]

def unusualLines : List Line := .blank :: unusualSections.flatMap Section.lines ++ [.blank, .blank]

def emptyMachine : Machine where
  files := { root := .folder [] }

theorem loadSettings_unusualSettings :
    emptyMachine.files.Sound ∧
    (∃ machine', outcome (saveSettings "config.toml" unusualSettings) emptyMachine =
        (.ok (), machine') ∧
      outcome (loadSettings "config.toml") machine' = (.ok unusualSettings, machine')) ∧
    Settings.Thinned unusualSections unusualSettings.sections ∧
    unusualLines.filter (fun line => !line.isBlank) = unusualSections.flatMap Section.lines ∧
    ∃ machine', outcome (onFile .settingsFile (Host.writeText "config.toml"
        (String.ofList (unusualLines.flatMap Line.text)))) emptyMachine = (.ok (), machine') ∧
      outcome (loadSettings "config.toml") machine' = (.ok unusualSettings, machine') := by
  have sound : emptyMachine.files.Sound := rfl
  have thinned : Settings.Thinned unusualSections unusualSettings.sections := by
    have generation : Settings.Kept [("page_wrappers", .bool false)]
        unusualSettings.generation.toSection :=
      ⟨List.sublist_cons_self _ _, by
        simp [Settings.isDefault_iff, GenerationSettings.toSection, unusualSettings]⟩
    have codegen : Settings.Kept [] unusualSettings.codegen.toSection :=
      ⟨List.nil_sublist _, by
        simp [Settings.isDefault_iff, ModelPaths.toSection, unusualSettings]⟩
    exact .keep generation (.keep (.refl unusualSettings.logging.toSection) (.drop codegen .nil))
  have full : unusualLines.filter (fun line => !line.isBlank) =
      unusualSections.flatMap Section.lines := by decide
  obtain ⟨-, -, saved, deleted⟩ := loadSettings_of_saveSettings unusualSettings
  obtain ⟨-, loaded⟩ := deleted unusualSections unusualLines thinned full
  have written (text : String) : ∃ machine', outcome (onFile .settingsFile
      (Host.writeText "config.toml" text)) emptyMachine = (.ok (), machine') := ⟨_, rfl⟩
  refine ⟨sound, ?_, thinned, full, ?_⟩
  · obtain ⟨machine', done⟩ := written unusualSettings.tomlText
    exact ⟨machine', done, saved _ _ _ sound done⟩
  · obtain ⟨machine', done⟩ := written (String.ofList (unusualLines.flatMap Line.text))
    exact ⟨machine', done, loaded _ _ _ sound done⟩

end Command

end WrapperSynthesis
