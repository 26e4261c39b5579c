import Switchboard.Config
import Switchboard.Text.Numeral
import Switchboard.Yaml.Document

/-!
# Configurations in YAML

A configuration and an expectation are mappings with the same fields as in JSON;
other fields are left alone. An empty text, and a plain scalar without characters,
count as an empty mapping. A key is any scalar, with its text as it stands. The
fields of an expectation may be empty or `null`.
-/

namespace Switchboard

namespace Yaml

/-- The spellings of the null value. -/
def nullWords : List (List Char) :=
  ["null".toList, "Null".toList, "NULL".toList, "~".toList]

/-- A tag of the core schema. -/
def coreTag (name : String) : Tag := ("tag:yaml.org,2002:" ++ name).toList

/-- Digits that only look like a number: more than one, with a leading zero. -/
def isZeroPadded (digits : List Char) : Bool :=
  digits.length > 1 && digits.head? == some '0' && digits.all Char.isDigit

/-- A number in one of the other radixes, behind its mark. -/
def markedNumber? : List Char → Option Nat
  | '0' :: 'x' :: digits => Text.Numeral.read? 16 digits
  | '0' :: 'o' :: digits => Text.Numeral.read? 8 digits
  | '0' :: 'b' :: digits => Text.Numeral.read? 2 digits
  | _ => none

/-- A natural number: hexadecimal, octal or binary behind its mark, or decimal
without leading zeros; each may have a plus sign. -/
def natural? (text : List Char) : Option Nat :=
  let digits := match text with
    | '+' :: digits => digits
    | _ => text
  match markedNumber? digits with
  | some n => some n
  | none => if isZeroPadded digits then none else Text.Numeral.read? 10 digits

/-- The value of a field that may be given once among some entries. -/
def field? (entries : List (String × Node)) (name : String) : Option (Option Node) :=
  match entries.filter (·.1 == name) with
  | [] => some none
  | [entry] => some (some entry.2)
  | _ => none

namespace Node

/-- The text of a scalar. -/
def text? : Node → Option String
  | .scalar _ text _ => some (String.ofList text)
  | _ => none

/-- Whether a node has a value; no answer if its tag and its text disagree. -/
def hasValue? : Node → Option Bool
  | .scalar none text .plain => some !(text.isEmpty || nullWords.contains text)
  | .scalar (some tag) text .plain =>
    if tag = coreTag "null" then
      if nullWords.contains text then some false else none
    else some true
  | _ => some true

/-- A schema revision: an unquoted number, or a literal scalar tagged as one. -/
def schema? (node : Node) : Option UInt32 :=
  let number (text : List Char) : Option UInt32 :=
    ((natural? text).filter (· < UInt32.size)).map UInt32.ofNat
  match node with
  | .scalar _ text .plain => number text
  | .scalar (some tag) text .literal => if tag = coreTag "int" then number text else none
  | _ => none

end Node

namespace Document

/-- The entries of a mapping, with the texts of their keys. -/
def entries? (d : Document) (node : Node) : Reading (List (String × Node)) := do
  match ← d.target? node with
  | .mapping entries =>
    entries.mapM fun entry => do return (← (← d.target? entry.1).text?, entry.2)
  | .scalar _ [] .plain => return []
  | _ => failure

/-- A field that may be absent or have no value. -/
def optional? {α : Type} (d : Document) (value? : Node → Option α) :
    Option Node → Reading (Option α)
  | none => return none
  | some node => do
    let node ← d.target? node
    if ← node.hasValue? then return some (← value? node) else return none

/-- An expectation. -/
def expectation? (d : Document) (node : Node) : Reading Expectation := do
  let entries ← d.entries? node
  return {
    schema := ← d.optional? Node.schema? (← field? entries "schema")
    fingerprint := ← d.optional? Node.text? (← field? entries "fingerprint") }

/-- Expectations under names. -/
def contracts? (d : Document) (node : Node) : Reading (Dictionary String Expectation) := do
  let entries ← (← d.entries? node).mapM fun entry => do
    return (entry.1, ← d.expectation? entry.2)
  return Dictionary.ofPairs entries

/-- A configuration, not yet validated. -/
def config? (d : Document) : Reading Config :=
  match d.root with
  | none => return Config.empty
  | some root => do
    match ← field? (← d.entries? root) "contracts" with
    | none => return Config.empty
    | some contracts => return ⟨← d.contracts? contracts⟩

end Document

end Yaml

namespace Config

/-- Load a configuration from YAML text. -/
def ofYaml (text : String) : Except ConfigError Config :=
  match (Yaml.Document.read? text.toList).bind (·.config?.run' 0) with
  | some config => config.validate
  | none => .error .yaml

end Config

end Switchboard
