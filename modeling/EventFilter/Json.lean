import EventFilter.Binary64
import EventFilter.KeyedList

/-!
# JSON values

JSON values as far as this library tells them apart. A number is an integer if it is written as one
and fits in 64 bits, signed or unsigned; any other number, minus zero among them, is a binary
floating point number. The members of an object are kept in the order of their keys, and of members
with one key the last one counts.
-/

namespace EventFilter

/-- **A JSON value.** -/
inductive Json where
  | null
  | boolean (b : Bool)
  | integer (n : Int)
  | float (negative : Bool) (magnitude : Binary64)
  | string (s : String)
  | array (items : List Json)
  | object (members : List (String × Json))

namespace Json

instance : Inhabited Json := ⟨.null⟩

/-- The object with some members, later ones replacing earlier ones. -/
def ofMembers (members : List (String × Json)) : Json := object (KeyedList.ofList members)

/-- The member of an object under a key. -/
def get? (key : String) : Json → Option Json
  | object members => KeyedList.find? key members
  | _ => none

end Json

end EventFilter
