import Switchboard.Component
import Switchboard.Config
import Switchboard.Json.Value
import Switchboard.Json.Writing

/-!
# Configurations in JSON

A configuration is the record `contracts`, an expectation the record `schema`,
`fingerprint`; absent fields have their defaults, and the two fields of an
expectation may also be `null`. Of several entries under one name the last counts,
but all of them have to be expectations. Writing leaves out absent fields.
-/

namespace Switchboard

namespace Json.Value

/-- A value that may be absent, or present as `null`. -/
def optional? {α : Type} (read : Value → Option α) : Option Value → Option (Option α)
  | none => some none
  | some .null => some none
  | some value => (read value).map some

/-- A schema revision. -/
def schema? (value : Value) : Option UInt32 :=
  (value.natural? UInt32.size).map UInt32.ofNat

/-- An expectation. -/
def expectation? (value : Value) : Option Expectation := do
  match ← value.record? ["schema", "fingerprint"] with
  | [schema, fingerprint] =>
    return {
      schema := ← optional? schema? schema
      fingerprint := ← optional? text? fingerprint }
  | _ => none

/-- Expectations under names. -/
def contracts? (value : Value) : Option (Dictionary String Expectation) := do
  let entries ← (← value.entries?).mapM fun entry => (expectation? entry.2).map (entry.1, ·)
  return Dictionary.ofPairs entries

/-- A configuration, not yet validated. -/
def config? (value : Value) : Option Config := do
  match ← value.record? ["contracts"] with
  | [none] => return Config.empty
  | [some contracts] => return ⟨← contracts? contracts⟩
  | _ => none

/-- The number of a component. -/
def component? (value : Value) : Option ComponentId :=
  (value.natural? UInt64.size).map fun number => ⟨UInt64.ofNat number⟩

end Json.Value

namespace Config

/-- Load a configuration from JSON text. -/
def ofJson (text : String) : Except ConfigError Config :=
  match (Json.Value.read? text.toList).bind Json.Value.config? with
  | some config => config.validate
  | none => .error .json

/-- The JSON text of an expectation. -/
def expectationJson (e : Expectation) : List Char :=
  Json.Writing.object
    ((e.schema.map fun schema => ("schema", Json.Writing.natural schema.toNat)).toList ++
      (e.fingerprint.map fun text => ("fingerprint", Json.Writing.string text)).toList)

/-- The JSON text of a configuration. -/
def toJson (config : Config) : String :=
  let contracts := config.contracts.pairs.map fun pair => (pair.1, expectationJson pair.2)
  String.ofList (Json.Writing.object [("contracts", Json.Writing.object contracts)])

end Config

namespace ComponentId

/-- Read a component's number from JSON text. -/
def ofJson? (text : String) : Option ComponentId :=
  (Json.Value.read? text.toList).bind Json.Value.component?

/-- The JSON text of a component's number. -/
def toJson (id : ComponentId) : String :=
  String.ofList (Json.Writing.natural id.number.toNat)

end ComponentId

end Switchboard
