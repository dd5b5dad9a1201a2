/-!
# JSON values

A JSON value keeps the fields of an object in their order. Numbers that are written as natural
numbers are kept as such; every other number is kept as it is written, since nothing here computes
with it.
-/

namespace ReleaseMatrix

/-- A JSON value. -/
inductive Json where
  /-- The literal `null`. -/
  | null
  /-- A truth value. -/
  | bool (value : Bool)
  /-- A number written by digits alone. -/
  | natural (value : Nat)
  /-- A number with a sign, a fraction or an exponent, as it is written. -/
  | number (written : String)
  /-- A text. -/
  | string (value : String)
  /-- A list of values. -/
  | array (items : List Json)
  /-- Named values. -/
  | object (fields : List (String × Json))

namespace Json

/-- The value of a field, if the value is an object that has the field. -/
def field? (v : Json) (name : String) : Option Json :=
  match v with
  | .object fields => fields.lookup name
  | _ => none

end Json

end ReleaseMatrix
