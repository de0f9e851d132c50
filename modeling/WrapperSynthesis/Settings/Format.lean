import WrapperSynthesis.Settings.Basic
import WrapperSynthesis.Json.Record
import WrapperSynthesis.Toml.Parser

/-! The two file formats of the settings. In TOML they are the tables `[generation]`, `[logging]`
and `[codegen]`; in JSON, members of these names. Whatever is absent has its default. -/

namespace WrapperSynthesis

/-! ### JSON -/

/-- A path, as messages call it. -/
def readPath : Json.Reader String := Json.Reader.stringAs "path string"

def GenerationSettings.record : Json.Record GenerationSettings where
  name := "GenerationConfig"
  types := [Bool, Bool]
  members := .cons (.bool "long_running_wrappers" true) <| .cons (.bool "page_wrappers" true) .nil
  make := fun (longRunningWrappers, pageWrappers, ()) => ⟨longRunningWrappers, pageWrappers⟩
  row s := (s.longRunningWrappers, s.pageWrappers, ())

/-- The log file is written as `null` when there is none. -/
def LogSettings.record : Json.Record LogSettings where
  name := "LoggingConfig"
  types := [String, Option String]
  members := .cons (.string "level" "info") <|
    .cons (.of "file" (Json.Reader.option readPath)
      (fun file => (file.map Json.Value.string).getD .null) (some none)) .nil
  make := fun (level, file, ()) => ⟨level, file⟩
  row s := (s.level, s.file, ())

def ModelPaths.record : Json.Record ModelPaths where
  name := "CodegenConfig"
  types := [String, String]
  members := .cons (.of "input_path" readPath .string (some "service.json")) <|
    .cons (.of "output_path" readPath .string (some "service.augmented.json")) .nil
  make := fun (input, output, ()) => ⟨input, output⟩
  row p := (p.input, p.output, ())

def Settings.record : Json.Record Settings where
  name := "Config"
  types := [GenerationSettings, LogSettings, ModelPaths]
  members :=
    .cons (.of "generation" GenerationSettings.record.read GenerationSettings.record.write
      (some {})) <|
    .cons (.of "logging" LogSettings.record.read LogSettings.record.write (some {})) <|
    .cons (.of "codegen" ModelPaths.record.read ModelPaths.record.write (some {})) .nil
  make := fun (generation, logging, codegen, ()) => ⟨generation, logging, codegen⟩
  row s := (s.generation, s.logging, s.codegen, ())

/-! ### TOML -/

namespace Toml.Value

def asBool? : Value → Option Bool
  | bool b => some b
  | _ => none

def asString? : Value → Option String
  | string s => some s
  | _ => none

/-- Reads two settings from a section, which is a table with these names or an array of their
values. A setting that is absent has its default. Other entries of a table only have to hold
numbers of machine size; further elements of an array do not matter. A date is a section without
settings. -/
def readPair {α β : Type} (nameA : String) (readA : Value → Option α) (defaultA : α)
    (nameB : String) (readB : Value → Option β) (defaultB : β) : Value → Option (α × β)
  | table entries => do
    let a ← match entries.lookup nameA with
      | some v => readA v
      | none => some defaultA
    let b ← match entries.lookup nameB with
      | some v => readB v
      | none => some defaultB
    if entriesHeld (entries.filter fun (name, _) => name ≠ nameA && name ≠ nameB) then
      some (a, b)
    else none
  | array [] => some (defaultA, defaultB)
  | array [v] => (readA v).map fun a => (a, defaultB)
  | array (v :: w :: _) => do return (← readA v, ← readB w)
  | moment => some (defaultA, defaultB)
  | _ => none

end Toml.Value

def GenerationSettings.ofToml : Toml.Value → Option GenerationSettings := fun v =>
  (v.readPair "long_running_wrappers" Toml.Value.asBool? true
    "page_wrappers" Toml.Value.asBool? true).map fun (a, b) => ⟨a, b⟩

def LogSettings.ofToml : Toml.Value → Option LogSettings := fun v =>
  (v.readPair "level" Toml.Value.asString? "info"
    "file" (fun v => v.asString?.map some) none).map fun (a, b) => ⟨a, b⟩

def ModelPaths.ofToml : Toml.Value → Option ModelPaths := fun v =>
  (v.readPair "input_path" Toml.Value.asString? "service.json"
    "output_path" Toml.Value.asString? "service.augmented.json").map fun (a, b) => ⟨a, b⟩

namespace Settings

/-- Reads a section, which has its default when it is absent. -/
def sectionOr {α : Type} (entries : List (String × Toml.Value)) (name : String)
    (read : Toml.Value → Option α) (default : α) : Option α :=
  match entries.lookup name with
  | some v => read v
  | none => some default

/-- Reads settings from the text of a file, or nothing when the text is no TOML or does not
describe settings. -/
def ofToml? (text : String) : Option Settings := do
  let entries ← Toml.parse text
  let generation ← sectionOr entries "generation" GenerationSettings.ofToml {}
  let logging ← sectionOr entries "logging" LogSettings.ofToml {}
  let codegen ← sectionOr entries "codegen" ModelPaths.ofToml {}
  let others := entries.filter fun (name, _) =>
    name ≠ "generation" && name ≠ "logging" && name ≠ "codegen"
  if Toml.Value.entriesHeld others then
    some ⟨generation, logging, codegen⟩
  else none

def boolLine (name : String) (b : Bool) : String :=
  name ++ " = " ++ (if b then "true" else "false") ++ "\n"

def stringLine (name value : String) : String :=
  name ++ " = " ++ String.ofList (Toml.quoted value.toList) ++ "\n"

/-- The text of a file that holds the settings. A log file that is not set is left out. -/
def tomlText (s : Settings) : String :=
  "[generation]\n" ++
  boolLine "long_running_wrappers" s.generation.longRunningWrappers ++
  boolLine "page_wrappers" s.generation.pageWrappers ++
  "\n[logging]\n" ++
  stringLine "level" s.logging.level ++
  (s.logging.file.map (stringLine "file")).getD "" ++
  "\n[codegen]\n" ++
  stringLine "input_path" s.codegen.input ++
  stringLine "output_path" s.codegen.output

end Settings

end WrapperSynthesis
