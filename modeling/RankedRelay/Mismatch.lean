import RankedRelay.Text.Quoted

namespace RankedRelay

/-- What stands where something else was wanted. -/
inductive Found where
  | boolean (b : Bool)
  | integer (n : Int)
  | float (text : String)
  | string (s : String)
  | other (description : String)
  | sequence
  | mapping
deriving DecidableEq, Repr

def Found.text : Found → String
  | boolean b => s!"boolean `{b}`"
  | integer n => s!"integer `{n}`"
  | float t => s!"floating point `{t}`"
  | string s => "string " ++ Text.quoted s
  | other description => description
  | sequence => "sequence"
  | mapping => "map"

inductive Mismatch where
  | missingField (name : String)
  | duplicateField (name : String)
  | invalidType (found : Found) (expected : String)
  | invalidValue (found : Found) (expected : String)
  | invalidLength (length : Nat) (expected : String)
deriving DecidableEq, Repr

def Mismatch.text : Mismatch → String
  | missingField name => s!"missing field `{name}`"
  | duplicateField name => s!"duplicate field `{name}`"
  | invalidType found expected => "invalid type: " ++ found.text ++ ", expected " ++ expected
  | invalidValue found expected => "invalid value: " ++ found.text ++ ", expected " ++ expected
  | invalidLength length expected => s!"invalid length {length}, expected {expected}"

end RankedRelay
