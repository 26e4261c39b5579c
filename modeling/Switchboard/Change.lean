import Switchboard.Component
import Switchboard.Rejection

/-!
# Changes and records

A change is a mutation that a registry has committed; observers are told of every
change. A record is what a registry or a list of observers writes to the log.
-/

namespace Switchboard

/-- A committed change of a registry. -/
inductive Change where
  /-- An object was appended to a bucket, at an index. -/
  | registered (owner : ComponentId) (contract : Contract) (index : UInt32)
  /-- A bucket of some objects was removed. -/
  | unregistered (owner : ComponentId) (contract : Contract) (count : Nat)
  /-- All buckets of an owner were removed. -/
  | ownerCleared (owner : ComponentId) (buckets : Nat)
deriving DecidableEq

/-- The owner whose buckets changed. -/
def Change.owner : Change → ComponentId
  | registered owner .. => owner
  | unregistered owner .. => owner
  | ownerCleared owner _ => owner

/-- How an observer failed: by an error, or by breaking off. -/
inductive FailureCause where
  | error (text : String)
  | panic (text : String)
deriving DecidableEq

/-- One observer's failure to take note of one change. -/
structure Failure where
  observer : String
  cause : FailureCause
deriving DecidableEq

/-- The text that goes with a failure. -/
def FailureCause.text : FailureCause → String
  | error text => text
  | panic text => text

/-- The text that reports a failure. -/
def Failure.message (f : Failure) : String :=
  match f.cause with
  | .error text => "observer '" ++ f.observer ++ "' failed: " ++ text
  | .panic text => "observer '" ++ f.observer ++ "' panicked: " ++ text

/-- How much a record matters. -/
inductive Level where
  | trace
  | debug
  | info
  | warn
  | error
deriving DecidableEq

/-- The name of a level. -/
def Level.text : Level → String
  | trace => "TRACE"
  | debug => "DEBUG"
  | info => "INFO"
  | warn => "WARN"
  | error => "ERROR"

/-- A record for the log. -/
inductive LogRecord where
  | rejected (owner : ComponentId) (contract : Contract) (cause : Rejection)
  | offeredAgain (owner : ComponentId) (contract : Contract)
  | registered (owner : ComponentId) (contract : Contract) (index : UInt32)
  | unregistered (owner : ComponentId) (contract : Contract) (count : Nat)
  | cleared (owner : ComponentId) (buckets : Nat)
  | notFound (requester : ComponentId) (contract : Contract)
  | observerFailed (failure : Failure)
deriving DecidableEq

namespace LogRecord

/-- The level of a record. -/
def level : LogRecord → Level
  | rejected .. => .warn
  | offeredAgain .. => .warn
  | registered .. => .debug
  | unregistered .. => .debug
  | cleared .. => .debug
  | notFound .. => .trace
  | observerFailed failure =>
    match failure.cause with
    | .error _ => .warn
    | .panic _ => .error

/-- The text of a record. -/
def message : LogRecord → String
  | rejected owner contract cause =>
    "ContextRegistry: " ++ owner.text ++ " rejected " ++ contract.text ++ ": " ++ cause.message
  | offeredAgain owner contract =>
    "ContextRegistry: " ++ owner.text ++ " offered an already registered instance as " ++
      contract.text
  | registered owner contract index =>
    "ContextRegistry: " ++ owner.text ++ " registered " ++ contract.text ++ " at index " ++
      Text.Numeral.text index.toNat
  | unregistered owner contract count =>
    "ContextRegistry: " ++ owner.text ++ " unregistered " ++ contract.text ++ " (" ++
      Text.Numeral.text count ++ " instances)"
  | cleared owner buckets =>
    "ContextRegistry: cleared " ++ Text.Numeral.text buckets ++ " buckets of " ++ owner.text
  | notFound requester contract =>
    "ContextRegistry: lookup by " ++ requester.text ++ " of " ++ contract.text ++ " not found"
  | observerFailed failure => "[ObserverList] " ++ failure.message

end LogRecord

end Switchboard
