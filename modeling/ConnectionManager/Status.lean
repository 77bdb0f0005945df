/-!
The status of a connection and the reasons for its changes. A connection that was never asked to
connect is new; clients see it as disconnected.
-/

namespace ConnectionManager

inductive ConnectionStatus
  | connecting
  | connected
  | disconnected
  | new
deriving DecidableEq, Repr

namespace ConnectionStatus

def all : List ConnectionStatus := [.connecting, .connected, .disconnected, .new]

def number : ConnectionStatus → Nat
  | .connecting => 1
  | .connected => 2
  | .disconnected => 3
  | .new => 4

def name : ConnectionStatus → String
  | .connecting => "connecting"
  | .connected => "connected"
  | .disconnected => "disconnected"
  | .new => "new"

def ofName? (name : String) : Option ConnectionStatus :=
  all.find? fun status => status.name = name

def title : ConnectionStatus → String
  | .connecting => "Connecting"
  | .connected => "Connected"
  | .disconnected => "Disconnected"
  | .new => "New"

def visible : ConnectionStatus → ConnectionStatus
  | .new => .disconnected
  | status => status

end ConnectionStatus

inductive StatusReason
  | noneSpecified
  | requested
  | networkError
  | authenticationFailed
  | encryptionError
  | nameInUse
  | certificateNotProvided
  | certificateUntrusted
  | certificateExpired
  | certificateNotActivated
  | certificateHostnameMismatch
  | certificateFingerprintMismatch
  | certificateSelfSigned
  | certificateOtherError
deriving DecidableEq, Repr

namespace StatusReason

def all : List StatusReason :=
  [.noneSpecified, .requested, .networkError, .authenticationFailed, .encryptionError, .nameInUse,
    .certificateNotProvided, .certificateUntrusted, .certificateExpired, .certificateNotActivated,
    .certificateHostnameMismatch, .certificateFingerprintMismatch, .certificateSelfSigned,
    .certificateOtherError]

def number : StatusReason → Nat
  | .noneSpecified => 0
  | .requested => 1
  | .networkError => 2
  | .authenticationFailed => 3
  | .encryptionError => 4
  | .nameInUse => 5
  | .certificateNotProvided => 6
  | .certificateUntrusted => 7
  | .certificateExpired => 8
  | .certificateNotActivated => 9
  | .certificateHostnameMismatch => 10
  | .certificateFingerprintMismatch => 11
  | .certificateSelfSigned => 12
  | .certificateOtherError => 13

def name : StatusReason → String
  | .noneSpecified => "none_specified"
  | .requested => "requested"
  | .networkError => "network_error"
  | .authenticationFailed => "authentication_failed"
  | .encryptionError => "encryption_error"
  | .nameInUse => "name_in_use"
  | .certificateNotProvided => "cert_not_provided"
  | .certificateUntrusted => "cert_untrusted"
  | .certificateExpired => "cert_expired"
  | .certificateNotActivated => "cert_not_activated"
  | .certificateHostnameMismatch => "cert_hostname_mismatch"
  | .certificateFingerprintMismatch => "cert_fingerprint_mismatch"
  | .certificateSelfSigned => "cert_self_signed"
  | .certificateOtherError => "cert_other_error"

def ofName? (name : String) : Option StatusReason := all.find? fun reason => reason.name = name

end StatusReason

end ConnectionManager
