import ConnectionManager.Status

/-!
Failures as clients see them: one of the well-known error names of the bus, with a free text for
people and logs.
-/

namespace ConnectionManager

inductive FailureKind
  | invalidArgument
  | invalidHandle
  | notAvailable
  | notImplemented
  | notYours
  | disconnected
  | nameOwnerLost
  | inconsistent
  | networkError
  | authenticationFailed
  | permissionDenied
  | encryptionError
deriving DecidableEq, Repr

namespace FailureKind

def all : List FailureKind :=
  [.invalidArgument, .invalidHandle, .notAvailable, .notImplemented, .notYours, .disconnected,
    .nameOwnerLost, .inconsistent, .networkError, .authenticationFailed, .permissionDenied,
    .encryptionError]

def name : FailureKind → String
  | .invalidArgument => "InvalidArgument"
  | .invalidHandle => "InvalidHandle"
  | .notAvailable => "NotAvailable"
  | .notImplemented => "NotImplemented"
  | .notYours => "NotYours"
  | .disconnected => "Disconnected"
  | .nameOwnerLost => "NameOwnerLost"
  | .inconsistent => "Inconsistent"
  | .networkError => "NetworkError"
  | .authenticationFailed => "AuthenticationFailed"
  | .permissionDenied => "PermissionDenied"
  | .encryptionError => "EncryptionError"

def ofName? (name : String) : Option FailureKind := all.find? fun kind => kind.name = name

def phrase : FailureKind → String
  | .invalidArgument => "invalid argument"
  | .invalidHandle => "invalid handle"
  | .notAvailable => "not available"
  | .notImplemented => "not implemented"
  | .notYours => "not yours"
  | .disconnected => "disconnected"
  | .nameOwnerLost => "name owner lost"
  | .inconsistent => "inconsistent"
  | .networkError => "network error"
  | .authenticationFailed => "authentication failed"
  | .permissionDenied => "permission denied"
  | .encryptionError => "encryption error"

end FailureKind

structure Failure where
  kind : FailureKind
  message : String
deriving DecidableEq, Repr

abbrev Outcome (α : Type) := Except Failure α

namespace Failure

def errorNamespace : String := "org.freedesktop.Telepathy.Error"

def busName (failure : Failure) : String := errorNamespace ++ "." ++ failure.kind.name

def display (failure : Failure) : String := failure.kind.phrase ++ ": " ++ failure.message

/-- The reason announced when this failure ends a connection. -/
def statusReason (failure : Failure) : StatusReason :=
  match failure.kind with
  | .networkError => .networkError
  | .authenticationFailed | .permissionDenied => .authenticationFailed
  | .encryptionError => .encryptionError
  | _ => .noneSpecified

end Failure

end ConnectionManager
