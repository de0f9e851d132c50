import WrapperSynthesis.Json.Draft
import WrapperSynthesis.Decimal.Shortest
import WrapperSynthesis.Text.Quoted

/-! Why a JSON document could not be read as a value of some type. -/

namespace WrapperSynthesis.Json

/-- What a document holds in a place where something else was expected. -/
inductive Found where
  | null
  | bool (b : Bool)
  | integer (i : Int)
  | real (x : Float)
  | string (s : String)
  | sequence
  | map
deriving Repr

namespace Found

/-- Doubles from `0.00001` up to sixteen digits before the point are written without an exponent
part, and an exponent part has no zeros in front. -/
def layout : Decimal.Layout := ⟨-5, 15, 1, true⟩

def text : Found → String
  | null => "null"
  | bool b => "boolean `" ++ toString b ++ "`"
  | integer i => "integer `" ++ toString i ++ "`"
  | real x => "floating point `" ++ layout.floatText x ++ "`"
  | string s => "string " ++ Text.quoted s
  | sequence => "sequence"
  | map => "map"

end Found

/-- A document that is JSON but does not describe a value of the expected type. -/
inductive DataFault where
  | missingField (name : String)
  | duplicateField (name : String)
  | unknownVariant (name : String) (known : List String)
  | invalidType (found : Found) (expected : String)
  | invalidValue (found : Found) (expected : String)
  | invalidLength (length : Nat) (expected : String)
deriving Repr

namespace DataFault

def listing : List String → String
  | [] => "there are no variants"
  | [a] => "expected `" ++ a ++ "`"
  | [a, b] => "expected `" ++ a ++ "` or `" ++ b ++ "`"
  | names => "expected one of " ++ ", ".intercalate (names.map fun n => "`" ++ n ++ "`")

def message : DataFault → String
  | missingField name => "missing field `" ++ name ++ "`"
  | duplicateField name => "duplicate field `" ++ name ++ "`"
  | unknownVariant name known => "unknown variant `" ++ name ++ "`, " ++ listing known
  | invalidType found expected => "invalid type: " ++ found.text ++ ", expected " ++ expected
  | invalidValue found expected => "invalid value: " ++ found.text ++ ", expected " ++ expected
  | invalidLength length expected =>
    "invalid length " ++ toString length ++ ", expected " ++ expected

end DataFault

inductive ReadError where
  | damaged (damage : Damage)
  | fault (fault : DataFault)
deriving Repr

def ReadError.message : ReadError → String
  | damaged .malformed => "malformed JSON"
  | damaged .truncated => "the JSON text ends too early"
  | fault f => f.message

end WrapperSynthesis.Json
