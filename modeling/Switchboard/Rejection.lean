import Switchboard.Contract

/-!
# Refusals

Every way in which a registration, a lookup or a configuration is refused, as a
cause, and the one text that reports it. Texts name contracts by their names.
-/

namespace Switchboard

/-- Why an object or a contract is not acceptable. -/
inductive Rejection where
  | notACapability (contract : String)
  | rootMarker
  | notImplemented (contract : String)
  | severalCapabilities (contract : String) (found : List String)
  | schemaMismatch (contract : String) (expected found : UInt32)
  | fingerprintMismatch (contract expected found : String)
  | familyMismatch (contract : String) (expected found : Family)
  | ambiguousName (contract pinned found : String)
deriving DecidableEq

namespace Rejection

/-- The stable code of a rejection. -/
def code : Rejection → String
  | notACapability .. => "not_a_capability_type"
  | rootMarker => "root_marker"
  | notImplemented .. => "not_implemented"
  | severalCapabilities .. => "multiple_capabilities"
  | schemaMismatch .. => "schema_mismatch"
  | fingerprintMismatch .. => "fingerprint_mismatch"
  | familyMismatch .. => "family_mismatch"
  | ambiguousName .. => "ambiguous_contract_name"

/-- The text that reports a rejection. -/
def message : Rejection → String
  | notACapability contract => contract ++ " is not a capability contract"
  | rootMarker => "the root context marker is not a registrable capability"
  | notImplemented contract => "instance does not implement " ++ contract ++ " directly"
  | severalCapabilities contract found =>
    "instance registered as " ++ contract ++ " implements several capabilities directly: " ++
      ", ".intercalate found
  | schemaMismatch contract expected found =>
    contract ++ " has schema revision " ++ Text.Numeral.text found.toNat ++ ", expected " ++
      Text.Numeral.text expected.toNat
  | fingerprintMismatch contract expected found =>
    contract ++ " has fingerprint " ++ found ++ ", expected " ++ expected
  | familyMismatch contract expected found =>
    contract ++ " belongs to the " ++ found.text ++ " family, not " ++ expected.text
  | ambiguousName contract pinned found =>
    "contract name " ++ contract ++ " is configured for " ++ pinned ++ ", not " ++ found

end Rejection

/-- Why an object was not registered. -/
inductive RegistrationError where
  | rejected (cause : Rejection)
  | alreadyRegistered (contract : String)
deriving DecidableEq

/-- The text that reports a failed registration. -/
def RegistrationError.message : RegistrationError → String
  | rejected cause => cause.message
  | alreadyRegistered contract => "instance is already registered (offered as " ++ contract ++ ")"

/-- Why a lookup gave nothing. A missing bucket, a missing connection and an index
past the end are one and the same answer. -/
inductive LookupError where
  | rejected (cause : Rejection)
  | notFound
deriving DecidableEq

/-- The text that reports a failed lookup. -/
def LookupError.message : LookupError → String
  | rejected cause => cause.message
  | notFound => "context not found"

end Switchboard
