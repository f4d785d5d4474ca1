/-
Module: Ocreg.Json.Value
Purpose: The values of json.cpp and the bounds on a document. The members of an object are kept in the order of their
  keys, one for each key.
-/
import Ocreg.Core.Hash
import Ocreg.Lib.SortedMap

namespace Ocreg

structure JsonLimits where
  maxBytes : UInt64 := 8 * 1024 * 1024
  maxDepth : UInt64 := 32
  maxItems : UInt64 := 262144
  maxStringBytes : UInt64 := 1024 * 1024
  maxKeyBytes : UInt64 := 128
deriving DecidableEq

inductive JsonValue where
  | null
  | boolean (value : Bool)
  | integer (value : Int64)
  | string (value : Bytes)
  | array (items : List JsonValue)
  | object (members : List (Bytes × JsonValue))

namespace JsonValue

/-- `JsonValue::find`: nothing in a value that is no object. -/
def find (value : JsonValue) (key : Bytes) : Option JsonValue :=
  match value with
  | .object members => SortedMap.lookupIn key members
  | _ => none

def isObject : JsonValue → Bool
  | .object _ => true
  | _ => false

def asBool? : JsonValue → Option Bool
  | .boolean value => some value
  | _ => none

def asInteger? : JsonValue → Option Int64
  | .integer value => some value
  | _ => none

def asString? : JsonValue → Option Bytes
  | .string value => some value
  | _ => none

def asArray? : JsonValue → Option (List JsonValue)
  | .array items => some items
  | _ => none

end JsonValue

end Ocreg
