/-! The name and the version of the program. -/

namespace WrapperSynthesis

def programName : String := "tessera"

def version : String := "0.1.0"

end WrapperSynthesis
