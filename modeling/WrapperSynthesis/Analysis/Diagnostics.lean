import WrapperSynthesis.Analysis.Fault
import WrapperSynthesis.Analysis.Collision

/-! All that the analysis of a service finds. -/

namespace WrapperSynthesis

/-- Errors make a service unusable; warnings do not. -/
structure Diagnostics where
  errors : List Fault := []
  warnings : List Collision := []
deriving DecidableEq, Repr

namespace Diagnostics

def hasErrors (d : Diagnostics) : Bool := !d.errors.isEmpty

end Diagnostics

def Service.diagnostics (s : Service) : Diagnostics := ⟨s.faults, s.collisions⟩

end WrapperSynthesis
