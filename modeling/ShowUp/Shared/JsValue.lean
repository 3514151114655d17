import Mathlib.Algebra.Order.Ring.Int

/-!
# JavaScript values

A value of type `unknown` as `JSON.parse` or a decoder hands it over. A safe
integer is its value; any other finite number is represented by the text `String`
gives it, which determines it.
-/

namespace ShowUp

set_option autoImplicit false

inductive JsNumber where
  | safe (value : Int) (lower : -(2 ^ 53 - 1) ≤ value) (upper : value ≤ 2 ^ 53 - 1)
  | other (text : String) (nonempty : text ≠ "")
  | nonFinite
  deriving DecidableEq

namespace JsNumber

/-- `Number(value)` for an unsigned 32-bit value. -/
def ofU32 (n : UInt32) : JsNumber :=
  .safe n.toNat (by omega) (by have := n.toNat_lt; omega)

def isFinite : JsNumber → Bool
  | nonFinite => false
  | _ => true

/-- `String(value)` of a finite number. -/
def text : JsNumber → Option String
  | safe value _ _ => some (toString value)
  | other text _ => some text
  | nonFinite => none

end JsNumber

inductive JsValue where
  | undefined
  | null
  | boolean (value : Bool)
  | number (value : JsNumber)
  | bigint (value : Int)
  | string (value : String)
  | array (items : List JsValue)
  | object (fields : List (String × JsValue))

namespace JsValue

/-- `value[key]` for a key that names an own field: absent fields read as `undefined`. -/
def get : JsValue → String → JsValue
  | object fields, key => ((fields.find? fun field => field.1 == key).map Prod.snd).getD undefined
  | _, _ => undefined

/-- `key in value` for an own field of an object. -/
def has : JsValue → String → Bool
  | object fields, key => fields.any fun field => field.1 == key
  | _, _ => false

/-- `Object.entries(value)` -/
def entries : JsValue → List (String × JsValue)
  | array items => items.zipIdx.map fun (item, i) => (toString i, item)
  | object fields => fields
  | _ => []

/-- `value && typeof value === "object"`: objects and arrays. -/
def isObject : JsValue → Bool
  | array _ | object _ => true
  | _ => false

/-- `Array.isArray(value)`. -/
def isArray : JsValue → Bool
  | array _ => true
  | _ => false

end JsValue

/-- A JavaScript string or its absence, read as a condition. -/
def truthy : Option String → Bool
  | some text => text ≠ ""
  | none => false

end ShowUp
