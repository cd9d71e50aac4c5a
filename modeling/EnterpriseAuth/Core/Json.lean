import EnterpriseAuth.Core.Settings
import Mathlib.Data.List.Defs

/-!
# Values of `json.loads`

A JSON text of a remote service becomes an untyped value.  The code asks it for keys, iterates over
it and coerces it to a truth value, and each of these raises on some values.
-/

namespace EnterpriseAuth

inductive Json where
  | null
  | bool (value : Bool)
  | int (value : ℤ)
  /-- a `float` by its `repr`, and whether it is zero -/
  | float (text : String) (zero : Bool)
  | string (text : String)
  | array (items : List Json)
  /-- a `dict`; of two fields with one key the first counts -/
  | object (fields : List (String × Json))

namespace Json

/-- `bool(value)` -/
def truthy : Json → Bool
  | .null => false
  | .bool value => value
  | .int value => value ≠ 0
  | .float _ zero => !zero
  | .string text => text ≠ ""
  | .array items => !items.isEmpty
  | .object fields => !fields.isEmpty

/-- `value.get(key, default)` -/
def getD (value : Json) (key : String) (default : Json) : Except AppError Json :=
  match value with
  | .object fields => .ok ((fields.lookup key).getD default)
  | _ => .error (.unexpected "AttributeError")

/-- `value.get(key)` -/
def get (value : Json) (key : String) : Except AppError Json := value.getD key .null

/-- `value[key]` for a text `key` -/
def item (value : Json) (key : String) : Except AppError Json :=
  match value with
  | .object fields =>
    match fields.lookup key with
    | none => .error (.unexpected "KeyError")
    | some found => .ok found
  | _ => .error (.unexpected "TypeError")

/-- What `for … in value` goes through. -/
def elements : Json → Except AppError (List Json)
  | .array items => .ok items
  | .object fields => .ok (fields.map fun field => .string field.1)
  | .string text => .ok (text.toList.map fun character => .string character.toString)
  | _ => .error (.unexpected "TypeError")

/-- `str(value)`; a text is left as it is, and everything else is represented. -/
def str (repr : Json → String) : Json → String
  | .string text => text
  | other => repr other

/-- `first or second` -/
def orElse (first second : Json) : Json := if first.truthy then first else second

end Json

/-- A response of a remote service; the body is missing where `response.json()` raises. -/
structure Response where
  statusCode : ℕ
  body : Option Json

def Response.json (response : Response) : Except AppError Json :=
  match response.body with
  | none => .error (.unexpected "JSONDecodeError")
  | some value => .ok value

end EnterpriseAuth
