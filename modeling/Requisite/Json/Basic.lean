import Requisite.Json.Double

/-!
# JSON values

Objects keep the order of their keys. A key that is given again keeps its place and takes the
new value.
-/

namespace Requisite

inductive Json where
  | null
  | bool (value : Bool)
  | int (value : Int)
  | float (value : Double)
  | str (value : String)
  | array (items : List Json)
  | object (fields : List (String × Json))
  deriving Repr

namespace Json

def setField (fields : List (String × Json)) (key : String) (value : Json) :
    List (String × Json) :=
  match fields with
  | [] => [(key, value)]
  | (k, v) :: rest =>
    if k == key then (k, value) :: rest else (k, v) :: setField rest key value

/-- One entry per key, from entries as they were written. -/
def ofEntries (entries : List (String × Json)) : List (String × Json) :=
  entries.foldl (fun fields (key, value) => setField fields key value) []

/-- The value of a key, if this is an object that has it. -/
def field? (json : Json) (key : String) : Option Json :=
  match json with
  | .object fields => fields.lookup key
  | _ => none

/-- Values that count as "yes". -/
def isTruthy : Json → Bool
  | .null => false
  | .bool value => value
  | .int value => value != 0
  | .float value => !value.isZero
  | .str value => !value.isEmpty
  | .array _ | .object _ => true

end Json

end Requisite
