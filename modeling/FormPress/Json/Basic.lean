import FormPress.Number.Binary64
import FormPress.Table

/-!
# JSON values

The values of JSON texts. Integers are exact and apart from numbers with a point or an exponent, and
an object keeps its members in order. A text may give a key more than once; `distinctKeys` leaves
one member for each.
-/

namespace FormPress

/-- A JSON value. A `brokenString` holds half a surrogate pair, for which no character stands; it is
shown with a replacement character there. -/
inductive Json where
  | null
  | bool (b : Bool)
  | int (i : Int)
  | float (x : Binary64)
  | string (s : String)
  | brokenString (shown : String)
  | array (items : List Json)
  | object (members : List (String × Json))
deriving Repr, Inhabited

namespace Json

/-- The member of an object, if the value is an object that has it. -/
def member? (key : String) : Json → Option Json
  | .object members => Table.lookup key members
  | _ => none

mutual

/-- The value with each key of an object once, at its first place and with its last value. -/
def distinctKeys : Json → Json
  | .array items => .array (distinctKeysItems items)
  | .object members => .object (Table.ofEntries (distinctKeysMembers members))
  | v => v

/-- The items of an array with distinct keys. -/
def distinctKeysItems : List Json → List Json
  | [] => []
  | v :: rest => distinctKeys v :: distinctKeysItems rest

/-- The members of an object, each value with distinct keys. -/
def distinctKeysMembers : List (String × Json) → List (String × Json)
  | [] => []
  | (k, v) :: rest => (k, distinctKeys v) :: distinctKeysMembers rest

end

/-- A value that counts as given: not null, false, zero or empty. -/
def isGiven : Json → Bool
  | .null => false
  | .bool b => b
  | .int i => i != 0
  | .float x => !x.isZero
  | .string s => s != ""
  | .brokenString _ => true
  | .array items => !items.isEmpty
  | .object members => !members.isEmpty

end Json

end FormPress
