import Mathlib

/-!
# Values on the wire

JSON values as `JSON.parse` returns them, and what the code asks of the runtime about texts.

* `Json` keeps the fields of an object in their order; `JSON.parse` leaves no field twice.
* A number that is no integer is kept as its shortest text; one that overflows does not occur.
* `Decoders` and `Codec` are the functions of the runtime the code relies on.
-/

namespace HonoWarden

/-- A parsed JSON text. -/
inductive Json where
  | null
  | bool (value : Bool)
  | number (value : Int)
  | decimal (text : String)
  | string (value : String)
  | array (items : List Json)
  | object (fields : List (String × Json))

/-- The fields of an object. -/
abbrev Fields := List (String × Json)

/-- `value.key`; `none` is `undefined`. -/
def Json.get? : Json → String → Option Json
  | object fields, key => fields.lookup key
  | _, _ => none

/-- `isPlainObject`. -/
def Json.fields? : Json → Option Fields
  | object fields => some fields
  | _ => none

/-- `Array.isArray`. -/
def Json.items? : Json → Option (List Json)
  | array items => some items
  | _ => none

/-- `text.length`, in UTF-16 units. -/
def jsLength (text : String) : Nat :=
  (text.toList.map fun c => if c.val < 0x10000 then 1 else 2).sum

/-- The parsers of the runtime. -/
structure Decoders where
  /-- `Date.parse`; `none` is not finite. -/
  dateParse : String → Option Int
  /-- `JSON.parse`; `none` throws. -/
  jsonParse : String → Option Json

/-- The parsers of the runtime, and their writers. -/
structure Codec extends Decoders where
  /-- `JSON.stringify`. -/
  jsonStringify : Json → String
  /-- `new Date(timestamp).toISOString()`. -/
  toISOString : Int → String

mutual

/-- `deepEqual`: the order of an array counts, the order of the fields does not. -/
def Json.deepEqual : Json → Json → Bool
  | .null, .null => true
  | .bool left, .bool right => left == right
  | .number left, .number right => left == right
  | .decimal left, .decimal right => left == right
  | .string left, .string right => left == right
  | .array left, .array right => Json.deepEqualItems left right
  | .object left, .object right =>
    (left.map Prod.fst).isPerm (right.map Prod.fst) && Json.deepEqualFields left right
  | _, _ => false

def Json.deepEqualItems : List Json → List Json → Bool
  | [], [] => true
  | left :: lefts, right :: rights => Json.deepEqual left right && Json.deepEqualItems lefts rights
  | _, _ => false

def Json.deepEqualFields : List (String × Json) → List (String × Json) → Bool
  | [], _ => true
  | (key, left) :: lefts, rights =>
    (match rights.lookup key with
      | some right => Json.deepEqual left right
      | none => false) && Json.deepEqualFields lefts rights

end

mutual

/-- `JSON.stringify`, where no text needs an escape. -/
def Json.plainText : Json → String
  | .null => "null"
  | .bool value => if value then "true" else "false"
  | .number value => toString value
  | .decimal text => text
  | .string value => "\"" ++ value ++ "\""
  | .array items => "[" ++ String.intercalate "," (Json.plainItems items) ++ "]"
  | .object fields => "\x7b" ++ String.intercalate "," (Json.plainFields fields) ++ "\x7d"

def Json.plainItems : List Json → List String
  | [] => []
  | item :: items => Json.plainText item :: Json.plainItems items

def Json.plainFields : List (String × Json) → List String
  | [] => []
  | (key, value) :: fields =>
    ("\"" ++ key ++ "\":" ++ Json.plainText value) :: Json.plainFields fields

end

end HonoWarden
