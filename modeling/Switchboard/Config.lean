import Switchboard.Dictionary
import Switchboard.Expectation

/-!
# Configuration

A configuration gives expectations under contract names. A key may also be the
type name of a contract, which is then meant exactly. A configuration that is
read from a text is accepted only if each fingerprint in it is the hexadecimal
text of a digest; one that a host builds is taken as it is.
-/

namespace Switchboard

/-- Why a configuration could not be loaded. -/
inductive ConfigError where
  /-- The file could not be read as text. -/
  | io
  /-- The text is not YAML, or not of the expected form. -/
  | yaml
  /-- The text is not JSON, or not of the expected form. -/
  | json
  /-- The text was read, but what it says is not acceptable. -/
  | invalid (reason : String)
deriving DecidableEq

/-- Expectations under contract names and type names. -/
structure Config where
  contracts : Dictionary String Expectation
deriving DecidableEq

namespace Config

/-- The configuration without expectations. -/
def empty : Config where
  contracts := .empty

instance : Inhabited Config := ⟨empty⟩

/-- Add an expectation, or replace the one under the same name. -/
def withExpectation (config : Config) (name : String) (expectation : Expectation) : Config where
  contracts := config.contracts.put name expectation

/-- The expectation under a name; an empty one counts as none. -/
def expectation? (config : Config) (name : String) : Option Expectation :=
  (config.contracts.get? name).filter (!·.isEmpty)

/-- Whether a text is a digest of thirty-two bytes in hexadecimal digits of
either case, with nothing around it. -/
def isDigestText (fingerprint : String) : Bool :=
  match Text.Hex.decode? fingerprint.toList with
  | some bytes => bytes.length == 32
  | none => false

/-- Whether the fingerprint of an expectation, if there is one, is a digest. -/
def wellFormed (expectation : Expectation) : Bool :=
  expectation.fingerprint.all isDigestText

/-- The report of a fingerprint that is no digest. -/
def malformedFingerprint (name : String) : ConfigError :=
  .invalid ("fingerprint for contract '" ++ name ++ "' is not a 64-digit hex SHA-256 digest")

/-- Accept a configuration if every fingerprint in it is a digest, or report the
first name under which one is not. -/
def validate (config : Config) : Except ConfigError Config :=
  match config.contracts.pairs.find? (!wellFormed ·.2) with
  | none => .ok config
  | some (name, _) => .error (malformedFingerprint name)

/-- A configuration is accepted as it is, if every fingerprint in it is a digest. -/
theorem validate_eq_ok_iff {config accepted : Config} :
    config.validate = .ok accepted ↔
      config = accepted ∧ ∀ pair ∈ config.contracts.pairs, wellFormed pair.2 = true := by
  rw [validate]
  cases found : config.contracts.pairs.find? (!wellFormed ·.2) with
  | none =>
    simp only [List.find?_eq_none, Bool.not_eq_true, Bool.not_eq_false'] at found
    exact ⟨fun same => ⟨Except.ok.inj same, found⟩, fun same => congrArg Except.ok same.1⟩
  | some pair =>
    have malformed := List.find?_some found
    have listed := List.mem_of_find?_eq_some found
    constructor
    · nofun
    · rintro ⟨-, wellFormed⟩
      simp [wellFormed pair listed] at malformed

/-- A configuration that is not accepted is reported for a fingerprint in it that is no digest. -/
theorem validate_eq_error {config : Config}
    (refused : ¬ ∀ pair ∈ config.contracts.pairs, wellFormed pair.2 = true) :
    ∃ pair ∈ config.contracts.pairs, wellFormed pair.2 = false ∧
      config.validate = .error (malformedFingerprint pair.1) := by
  rw [validate]
  cases found : config.contracts.pairs.find? (!wellFormed ·.2) with
  | none =>
    simp only [List.find?_eq_none, Bool.not_eq_true, Bool.not_eq_false'] at found
    exact absurd found refused
  | some pair =>
    have malformed := List.find?_some found
    rw [Bool.not_eq_true'] at malformed
    exact ⟨pair, List.mem_of_find?_eq_some found, malformed, rfl⟩

end Config

/-- The text that reports a rejected configuration. -/
def ConfigError.message : ConfigError → String
  | io => "IO error"
  | yaml => "YAML error"
  | json => "JSON error"
  | invalid reason => "Validation error: " ++ reason

end Switchboard
