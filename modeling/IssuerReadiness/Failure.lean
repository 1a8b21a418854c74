import IssuerReadiness.Text

/-!
# Failures

Why an operation did not give its result.  The library's own operations fail
with a code that programs can test and a message for people; clients that other
people write may fail with a bare message, or with something that has no text at
all.

* `Failure.code?` --- the code, where there is one.
* `Failure.message` --- the whole message.
* `Failure.text?` --- the message as a caller sees it that knows nothing of the
  kind of failure: it ends at the first NUL, and a nameless failure has none.
-/

namespace IssuerReadiness

/-- Why an operation did not give its result. -/
inductive Failure where
  /-- An issuer, a secret or a setting is invalid or incomplete. -/
  | configuration (message : String)
  /-- A secret that is referred to does not exist. -/
  | secretNotFound (ns name : String)
  /-- The backend could not be reached or refused the request. -/
  | client (code message : String)
  /-- The context of the operation was canceled or has expired. -/
  | context (code message : String)
  /-- Any other failure with a code. -/
  | coded (code message : String)
  /-- A failure that is only a message. -/
  | plain (message : String)
  /-- A part was put together from arguments that do not fit. -/
  | invalidArgument (message : String)
  /-- A whole number of a manifest that does not fit 64 bits with a sign; it was
  written as an integer or as a decimal fraction. -/
  | numberRange (isInteger : Bool)
  /-- A failure that carries neither code nor text. -/
  | nameless
  deriving DecidableEq, Repr

namespace Failure

/-- The code of a client failure that names no other. -/
def clientCode : String := "CLIENT_ERROR"

/-- A client failure with the usual code. -/
def ofClient (message : String) : Failure := .client clientCode message

/-- The code that programs can test. -/
def code? : Failure → Option String
  | .configuration _ => some "INVALID_CONFIGURATION"
  | .secretNotFound _ _ => some "SECRET_NOT_FOUND"
  | .client code _ => some code
  | .context code _ => some code
  | .coded code _ => some code
  | .plain _ | .invalidArgument _ | .numberRange _ | .nameless => none

/-- The message for people; empty for a nameless failure. -/
def message : Failure → String
  | .configuration m => m
  | .secretNotFound ns name => "secret \"" ++ ns ++ "/" ++ name ++ "\" not found"
  | .client _ m => m
  | .context _ m => m
  | .coded _ m => m
  | .plain m => m
  | .invalidArgument m => m
  | .numberRange true => "LargestUInt out of Int64 range"
  | .numberRange false => "double out of Int64 range"
  | .nameless => ""

/-- The message as it is passed on where only its text counts. -/
def text? : Failure → Option String
  | .nameless => none
  | f => some (Text.beforeNul f.message)

/-- What stands for the text of a failure that has none. -/
def unknownText : String := "unknown error"

/-- The text of a failure, as the cause of another one. -/
def cause (f : Failure) : String :=
  f.text?.getD unknownText

/-- Puts a text before the message of a client failure and keeps its code; other
failures stay as they are. -/
def withinClient (context : String) : Failure → Failure
  | .client code m => .client code (context ++ m)
  | f => f

@[simp] theorem cause_nameless : cause .nameless = unknownText := rfl

@[simp] theorem code?_withinClient (context : String) (f : Failure) :
    (f.withinClient context).code? = f.code? := by
  cases f <;> rfl

end Failure

end IssuerReadiness
