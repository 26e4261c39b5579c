import Switchboard.Json.Token
import Switchboard.Text.Numeral

/-!
# JSON values

Tokens are put together into a value one at a time. The collections that are
still open wait on a stack, so no nesting is too deep. An object keeps all its
fields in order, repeated ones included, because what a repeated field means is
for the reader of the value to say.
-/

namespace Switchboard.Json

/-- A JSON value. A key or string is absent if it spells no text. -/
inductive Value where
  | null
  | bool (value : Bool)
  | number (digits : List Char)
  | string (text : Option String)
  | array (items : List Value)
  | object (fields : List (Option String × Value))

/-- What a value under construction belongs to: the next item of an array, or the
field of an object under a key. Earlier items and fields are kept last first. -/
inductive Slot where
  | item (done : List Value)
  | field (done : List (Option String × Value)) (key : Option String)

/-- What may come next, with the collections that are open around it. -/
inductive Progress where
  | needValue (stack : List Slot)
  | firstItem (stack : List Slot)
  | afterItem (done : List Value) (stack : List Slot)
  | firstKey (stack : List Slot)
  | needKey (done : List (Option String × Value)) (stack : List Slot)
  | afterKey (done : List (Option String × Value)) (key : Option String) (stack : List Slot)
  | afterField (done : List (Option String × Value)) (stack : List Slot)
  | finished (value : Value)

namespace Progress

/-- A value is complete. -/
def close : List Slot → Value → Progress
  | [], v => finished v
  | .item done :: stack, v => afterItem (v :: done) stack
  | .field done key :: stack, v => afterField ((key, v) :: done) stack

/-- A token where a value has to start. -/
def start (stack : List Slot) : Token → Option Progress
  | .null => some (close stack .null)
  | .bool value => some (close stack (.bool value))
  | .number digits => some (close stack (.number digits))
  | .string text => some (close stack (.string text))
  | .beginArray => some (firstItem stack)
  | .beginObject => some (firstKey stack)
  | _ => none

/-- One more token. -/
def next? : Progress → Token → Option Progress
  | needValue stack, token => start stack token
  | firstItem stack, .endArray => some (close stack (.array []))
  | firstItem stack, token => start (.item [] :: stack) token
  | afterItem done stack, .comma => some (needValue (.item done :: stack))
  | afterItem done stack, .endArray => some (close stack (.array done.reverse))
  | firstKey stack, .endObject => some (close stack (.object []))
  | firstKey stack, .string key => some (afterKey [] key stack)
  | needKey done stack, .string key => some (afterKey done key stack)
  | afterKey done key stack, .colon => some (needValue (.field done key :: stack))
  | afterField done stack, .comma => some (needKey done stack)
  | afterField done stack, .endObject => some (close stack (.object done.reverse))
  | _, _ => none

/-- Take in tokens one after the other. -/
def run? : Progress → List Token → Option Progress
  | progress, [] => some progress
  | progress, token :: rest => do (← progress.next? token).run? rest

/-- The value, if it is complete. -/
def result? : Progress → Option Value
  | finished v => some v
  | _ => none

end Progress

/-- Read a whole text as one value. -/
def Value.read? (text : List Char) : Option Value := do
  (← (Progress.needValue []).run? (← tokens? text)).result?

namespace Value

/-- The text of a string value. -/
def text? : Value → Option String
  | string text => text
  | _ => none

/-- A number without sign, fraction and exponent that is below `bound`. -/
def natural? (bound : Nat) : Value → Option Nat
  | number digits => (Text.Numeral.read? 10 digits).filter (· < bound)
  | _ => none

/-- The fields of a map: every key has to spell a text. -/
def entries? : Value → Option (List (String × Value))
  | object fields => fields.mapM fun field => field.1.map (·, field.2)
  | _ => none

/-- The fields of a record in the order of their names. An object gives each field
at most once and may have other fields too; an array gives the first fields in
order and has no further items. -/
def record? (names : List String) : Value → Option (List (Option Value))
  | array items =>
    if items.length ≤ names.length then
      some (items.map some ++ List.replicate (names.length - items.length) none)
    else none
  | value => do
    let fields ← value.entries?
    names.mapM fun name =>
      match fields.filter (·.1 == name) with
      | [] => some none
      | [field] => some (some field.2)
      | _ => none

end Value

end Switchboard.Json
