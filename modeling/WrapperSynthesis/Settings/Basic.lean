/-! The settings of the program, in three groups: which wrappers to synthesize, how to log, and
where the model files are. Every setting has a default. -/

namespace WrapperSynthesis

structure GenerationSettings where
  longRunningWrappers : Bool := true
  pageWrappers : Bool := true
deriving DecidableEq, Repr, Inhabited

/-- What is logged, and where to besides the terminal. -/
structure LogSettings where
  /-- A level, or a list of filter directives. -/
  level : String := "info"
  file : Option String := none
deriving DecidableEq, Repr, Inhabited

structure ModelPaths where
  input : String := "service.json"
  output : String := "service.augmented.json"
deriving DecidableEq, Repr, Inhabited

structure Settings where
  generation : GenerationSettings := {}
  logging : LogSettings := {}
  codegen : ModelPaths := {}
deriving DecidableEq, Repr, Inhabited

end WrapperSynthesis
