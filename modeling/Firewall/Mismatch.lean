import Firewall.Text.Quoted

/-!
Where data does not have the form that a record asks for: what was found, what
was expected, and which fields are missing or given twice.
-/

namespace Firewall

inductive Found
  | nothing
  | boolean (b : Bool)
  | integer (n : Int)
  | wideInteger (n : Nat)
  | float (digits : String)
  | text (s : String)
  | bytes
  | list
  | dict
  deriving DecidableEq, Repr

def Found.describe : Found → String
  | nothing => "null"
  | boolean b => "boolean `" ++ toString b ++ "`"
  | integer n => "integer `" ++ toString n ++ "`"
  | wideInteger n => "integer `" ++ toString n ++ "` as u128"
  | float digits => "floating point `" ++ digits ++ "`"
  | text s => "string " ++ Text.quoted s
  | bytes => "byte array"
  | list => "sequence"
  | dict => "map"

/-- How data and the expected form differ. -/
inductive Mismatch
  /-- A value of another kind. -/
  | kind (found : Found) (expected : String)
  /-- A value of the right kind outside its range. -/
  | range (found : Found) (expected : String)
  /-- A list with too few elements. -/
  | length (count : Nat) (expected : String)
  | missingField (name : String)
  | repeatedField (name : String)
  deriving DecidableEq, Repr

def Mismatch.message : Mismatch → String
  | kind found expected => "invalid type: " ++ found.describe ++ ", expected " ++ expected
  | range found expected => "invalid value: " ++ found.describe ++ ", expected " ++ expected
  | length count expected => "invalid length " ++ toString count ++ ", expected " ++ expected
  | missingField name => "missing field `" ++ name ++ "`"
  | repeatedField name => "duplicate field `" ++ name ++ "`"

end Firewall
