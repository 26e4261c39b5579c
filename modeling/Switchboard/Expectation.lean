import Switchboard.Contract.Shape
import Switchboard.Rejection

/-!
# Expectations

What a host expects of one contract: a schema revision, a fingerprint, both or
neither. An expectation of neither is empty and demands nothing.
-/

namespace Switchboard

/-- What is expected of a contract. -/
structure Expectation where
  schema : Option UInt32
  /-- The expected digest in hexadecimal digits of either case. -/
  fingerprint : Option String
deriving DecidableEq, Inhabited

namespace Expectation

/-- The expectation that demands nothing. -/
def none : Expectation where
  schema := .none
  fingerprint := .none

/-- Whether nothing is demanded. -/
def isEmpty (e : Expectation) : Bool :=
  e.schema.isNone && e.fingerprint.isNone

/-- The schema part of the check: the revisions are compared as numbers. -/
def checkSchema (e : Expectation) (c : Contract) : Except Rejection Unit :=
  match e.schema with
  | .none => .ok ()
  | some expected =>
    if c.schema = expected then .ok () else .error (.schemaMismatch c.name expected c.schema)

/-- The fingerprint part of the check: the digest is computed anew. -/
def checkFingerprint (e : Expectation) (c : Contract) : Except Rejection Unit :=
  match e.fingerprint with
  | .none => .ok ()
  | some expected =>
    if c.hasFingerprint expected then .ok ()
    else .error (.fingerprintMismatch c.name expected c.fingerprint)

/-- Check a contract against an expectation; of two faults the schema is reported. -/
def check (e : Expectation) (c : Contract) : Except Rejection Unit := do
  e.checkSchema c
  e.checkFingerprint c

end Expectation

end Switchboard
