import RunLine.Text
/-!
# JSON values

A value as a JSON text states it.  Integers are the numbers that 64 bits can hold; every other
number is a binary floating-point number, kept as the decimal it was written as.
-/

namespace RunLine

/-- A JSON value. -/
inductive Json where
  | null
  | boolean (value : Bool)
  | integer (value : Int)
  /-- A significand times a power of ten. -/
  | float (negative : Bool) (significand : Nat) (exponent : Int)
  | string (text : Text)
  | array (items : List Json)
  /-- Members in the order written; a name may occur more than once. -/
  | object (members : List (Text × Json))
  deriving Repr

namespace Json

def asString? : Json → Option Text
  | string text => some text
  | _ => none

/-- The members of an object all of whose values are strings. -/
def asStrings? : Json → Option (List (Text × Text))
  | object members => members.mapM fun member => (member.2.asString?).map (member.1, ·)
  | _ => none

end Json

end RunLine
