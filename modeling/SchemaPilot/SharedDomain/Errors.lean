import SchemaPilot.Library.Json

/-!
# Exceptions

The exceptions the services raise on purpose, as constructors with what `str` and the handlers read
of them, and one constructor for every other exception.
-/

namespace SchemaPilot.SharedDomain

open Library

inductive Exn where
  /-- `PolicyDeniedError`. -/
  | policyDenied (message : String) (details : Fields)
  /-- `NotFoundError`. -/
  | notFound (message : String) (details : Fields)
  /-- `DisabledIntegrationError`. -/
  | disabledIntegration (message : String)
  /-- `ValueError` itself. -/
  | valueError (message : String)
  /-- `UnsafeSqlError`, a `ValueError`. -/
  | unsafeSql (message : String)
  /-- `QueryTimeoutError`, a `ValueError`. -/
  | queryTimeout (message : String)
  /-- `TimeoutError`. -/
  | timeout (message : String)
  /-- `AuditSinkError`. -/
  | auditSink (message : String)
  /-- `OpenSearchUnavailableError`. -/
  | openSearchUnavailable (message : String)
  /-- `QdrantUnavailableError`. -/
  | qdrantUnavailable (message : String)
  /-- Any other exception. -/
  | other (message : String)

namespace Exn

/-- `str(exc)`. -/
def message : Exn → String
  | policyDenied message _ => message
  | notFound message _ => message
  | disabledIntegration message => message
  | valueError message => message
  | unsafeSql message => message
  | queryTimeout message => message
  | timeout message => message
  | auditSink message => message
  | openSearchUnavailable message => message
  | qdrantUnavailable message => message
  | other message => message

/-- `except ValueError` catches the exception. -/
def isValueError : Exn → Bool
  | valueError _ => true
  | unsafeSql _ => true
  | queryTimeout _ => true
  | _ => false

end Exn

/-- A `ValueError` carrying the error text of a pure check. -/
def raiseValueError {α : Type} : Except String α → Except Exn α
  | .ok value => .ok value
  | .error message => .error (.valueError message)

end SchemaPilot.SharedDomain
