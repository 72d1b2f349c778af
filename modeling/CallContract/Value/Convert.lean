import CallContract.Double.Numeral
import CallContract.Double.Text
import CallContract.Json.Basic
import CallContract.Value.Basic

/-!
# Conversions

The three readings that every value is open to: as a truth value, which never fails; as a finite
number, which numbers, booleans and numerals have; and as text, which only symbols, and arrays with
a symbol somewhere inside, lack.

In the other direction a document is a value: every number is a double, and the fields of an object
are sorted.
-/

namespace CallContract

/-- The text of a number in a string: plain, with the infinities spelled out and one zero. -/
def Double.stringText : Double → String
  | .nan _ => "NaN"
  | .infinite negative => if negative then "-Infinity" else "Infinity"
  | .finite negative units h => if units = 0 then "0" else plainText (.finite negative units h)

namespace Value

/-- Everything is truthy but `undefined`, `null`, `false`, the zeros, NaN and the empty string. -/
def isTruthy : Value → Bool
  | undefined => false
  | null => false
  | bool b => b
  | number n => !n.isZero && !n.isNaN
  | string s => s != ""
  | _ => true

/-- The finite number that a value can be read as. -/
def asNumber? : Value → Option Double
  | number n => if n.isFinite then some n else none
  | bool b => some (if b then 1 else 0)
  | string s => Double.ofText? s
  | _ => none

mutual

/-- The text that a value can be read as. -/
def asText? : Value → Option String
  | undefined => some "undefined"
  | null => some "null"
  | bool b => some (if b then "true" else "false")
  | number n => some n.stringText
  | string s => some s
  | array items => (itemTexts? items).map (String.intercalate ",")
  | object _ => some "[object Object]"
  | function name _ => some ("function " ++ name ++ "() \x7b [native code] \x7d")
  | .instance type _ => some ("[object " ++ type.name ++ "]")
  | symbol .. => none

/-- The texts of the items of an array, in which absent values are empty. -/
def itemTexts? : List Value → Option (List String)
  | [] => some []
  | undefined :: items => (itemTexts? items).map ("" :: ·)
  | null :: items => (itemTexts? items).map ("" :: ·)
  | item :: items =>
    match asText? item, itemTexts? items with
    | some text, some texts => some (text :: texts)
    | _, _ => none

end

end Value

/-! ## Documents -/

/-- The double that a number in a document stands for. -/
def JsonNumber.toDouble : JsonNumber → Double
  | integer i => .ofInt i
  | float d => d

namespace Value

mutual

/-- The value of a document. -/
def ofJson : Json → Value
  | .null => null
  | .bool b => bool b
  | .number n => number n.toDouble
  | .string s => string s
  | .array items => array (ofJsonItems items)
  | .object fields => ofFields (ofJsonFields fields)

/-- The values of the items of an array. -/
def ofJsonItems : List Json → List Value
  | [] => []
  | item :: items => ofJson item :: ofJsonItems items

/-- The values of the fields of an object. -/
def ofJsonFields : List (String × Json) → List (String × Value)
  | [] => []
  | (name, value) :: fields => (name, ofJson value) :: ofJsonFields fields

end

end Value

end CallContract
