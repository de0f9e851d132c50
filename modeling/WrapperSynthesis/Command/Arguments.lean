/-! The arguments of the program. -/

namespace WrapperSynthesis

inductive Request where
  | augment (settings input output : Option String)
  | check (settings : Option String) (input : String)
  | writeDefaults (path : Option String)
  | showVersion
  | showHelp
deriving DecidableEq, Repr

namespace Arguments

abbrev Given := List (String × String)

/-- Whether an argument is an option. A single dash is not. -/
def isOption (arg : String) : Bool := arg.startsWith "-" && arg ≠ "-"

/-- The name of an option and the value after its equals sign. -/
def splitOption (arg : String) : String × Option String :=
  match arg.toList.span (· ≠ '=') with
  | (name, []) => (String.ofList name, none)
  | (name, _ :: value) => (String.ofList name, some (String.ofList value))

/-- How reading of arguments ends before the arguments do. -/
inductive Ended where
  | usage
  | help
  | version
deriving DecidableEq, Repr

/-- Adds an option. It may be given once, and its value is not empty. -/
def Given.add (given : Given) (name value : String) : Except Ended Given :=
  if value = "" || (given.lookup name).isSome then .error .usage
  else .ok (given ++ [(name, value)])

/-- Reads options with their values up to the first argument that is none. An option's value stands
after an equals sign or is the next argument, which then is no option. -/
def scan (known : List String) (versioned : Bool) (given : Given) :
    List String → Except Ended (Given × List String)
  | [] => .ok (given, [])
  | arg :: rest =>
    if arg = "--" then
      if rest.isEmpty then .ok (given, []) else .error .usage
    else if !isOption arg then .ok (given, arg :: rest)
    else if arg = "--help" || arg.startsWith "-h" then .error .help
    else if versioned && (arg = "--version" || arg.startsWith "-V") then .error .version
    else
      match splitOption arg with
      | (name, some value) =>
        if known.contains name then do scan known versioned (← given.add name value) rest
        else .error .usage
      | (name, none) =>
        if known.contains name then
          match rest with
          | value :: rest =>
            if isOption value then .error .usage
            else do scan known versioned (← given.add name value) rest
          | [] => .error .usage
        else .error .usage

/-- Reads the options of a command, after which nothing may follow. -/
def scanAll (known : List String) (args : List String) : Except Ended Given := do
  match ← scan ("--config" :: known) false [] args with
  | (given, []) => return given
  | (_, _ :: _) => throw .usage

def commands : List String := ["rewrite", "validate", "init-config"]

/-- Reads all arguments. The settings file may be named before the command or behind it, where it
wins. -/
def read (args : List String) : Except Ended Request := do
  match ← scan ["--config"] true [] args with
  | (_, []) => throw .usage
  | (outer, command :: rest) =>
    let settings (given : Given) : Option String :=
      given.lookup "--config" <|> outer.lookup "--config"
    match command with
    | "rewrite" =>
      let given ← scanAll ["--input", "--output"] rest
      return .augment (settings given) (given.lookup "--input") (given.lookup "--output")
    | "validate" =>
      let given ← scanAll ["--input"] rest
      match given.lookup "--input" with
      | some input => return .check (settings given) input
      | none => throw .usage
    | "init-config" =>
      let given ← scanAll ["--path"] rest
      return .writeDefaults (given.lookup "--path")
    | "help" =>
      match rest with
      | [] => throw .help
      | [topic] => throw (if (commands ++ ["help"]).contains topic then .help else .usage)
      | _ => throw .usage
    | _ => throw .usage

def request? (args : List String) : Option Request :=
  match read args with
  | .ok request => some request
  | .error .help => some .showHelp
  | .error .version => some .showVersion
  | .error .usage => none

end Arguments

end WrapperSynthesis
