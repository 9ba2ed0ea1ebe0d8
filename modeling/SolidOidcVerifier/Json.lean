import SolidOidcVerifier.Foundation.MachineInt

/-! JSON values as `serde_json` holds them. -/
namespace SolidOidcVerifier

/-- `serde_json::Number`: an integer keeps its machine range, everything else is a float. -/
inductive Number where
  | posInt (n : Nat) (bound : n < 2^64)
  | negInt (n : Int) (low : -2^63 ≤ n) (negative : n < 0)
  | float (value : ℚ)
deriving DecidableEq

def Number.asI64 : Number → Option Int
  | .posInt n _ => if n < 2^63 then some n else none
  | .negInt n _ _ => some n
  | .float _ => none

theorem Number.asI64_range (number : Number) (n : Int) (read : number.asI64 = some n) :
    Foundation.MachineInt.InI64 n := by
  unfold Foundation.MachineInt.InI64
  cases number with
  | posInt m bound =>
    simp only [Number.asI64,Option.ite_none_right_eq_some,Option.some.injEq] at read
    omega
  | negInt m low negative =>
    simp only [Number.asI64,Option.some.injEq] at read
    omega
  | float value => simp [Number.asI64] at read

inductive Json where
  | null
  | bool (value : Bool)
  | number (value : Number)
  | string (value : String)
  | array (items : List Json)
  | object (members : List (String × Json))

/-- `serde_json::Map<String, Value>`. -/
abbrev Claims := List (String × Json)

def Claims.get (claims : Claims) (name : String) : Option Json := List.lookup name claims

namespace Json

def asStr : Json → Option String
  | .string value => some value
  | _ => none

def asObject : Json → Option Claims
  | .object members => some members
  | _ => none

def asArray : Json → Option (List Json)
  | .array items => some items
  | _ => none

def asI64 : Json → Option Int
  | .number value => value.asI64
  | _ => none

/-- `Value::get`, which reads members of objects only. -/
def get (value : Json) (name : String) : Option Json := value.asObject.bind (·.get name)

theorem asI64_range (value : Json) (n : Int) (read : value.asI64 = some n) :
    Foundation.MachineInt.InI64 n := by
  cases value with
  | number value => exact value.asI64_range n read
  | _ => simp [asI64] at read

theorem asObject_some (value : Json) (members : Claims) :
    value.asObject = some members ↔ value = .object members := by
  cases value <;> simp [asObject]

theorem asStr_some (value : Json) (text : String) :
    value.asStr = some text ↔ value = .string text := by
  cases value <;> simp [asStr]

theorem asArray_some (value : Json) (items : List Json) :
    value.asArray = some items ↔ value = .array items := by
  cases value <;> simp [asArray]

end Json

/-- `claims.get(name).and_then(Value::as_str)`. -/
def Claims.str (claims : Claims) (name : String) : Option String := (claims.get name).bind Json.asStr

/-- `claims.get(name).and_then(Value::as_i64)`. -/
def Claims.i64 (claims : Claims) (name : String) : Option Int := (claims.get name).bind Json.asI64

theorem Claims.i64_range (claims : Claims) (name : String) (n : Int) (read : claims.i64 name = some n) :
    Foundation.MachineInt.InI64 n := by
  obtain ⟨value,_,integer⟩ := Option.bind_eq_some_iff.mp read
  exact value.asI64_range n integer

end SolidOidcVerifier
