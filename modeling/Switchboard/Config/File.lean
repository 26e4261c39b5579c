import Switchboard.Config.Json
import Switchboard.Config.Yaml

/-!
# Configuration files

A file whose name has the extension `json`, in any case, is read as JSON and any
other file as YAML. Its content has to be UTF-8.
-/

namespace Switchboard.Config

/-- The extension of a file name: what follows its last dot, if something stands
before that dot. -/
def extension? (name : List Char) : Option (List Char) :=
  let behind := name.reverse.takeWhile (· ≠ '.')
  if behind.length + 1 < name.length then some behind.reverse else none

/-- Whether a file is read as JSON. -/
def isJsonFile (name : String) : Bool :=
  (extension? name.toList).any fun ending => ending.map Char.toLower == "json".toList

/-- Load a configuration from a file with a given content; there is none if the
file is missing or is a directory. -/
def ofFile (name : String) (content : Option ByteArray) : Except ConfigError Config :=
  match content.bind String.fromUTF8? with
  | none => .error .io
  | some text => if isJsonFile name then ofJson text else ofYaml text

end Switchboard.Config
