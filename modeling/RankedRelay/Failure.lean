import RankedRelay.Network
import RankedRelay.Time

namespace RankedRelay

inductive FailureKind where
  | timeout
  | connectionRefused
  | invalidResponse
  | other
deriving DecidableEq, Repr

def FailureKind.text : FailureKind → String
  | timeout => "timeout"
  | connectionRefused => "connection_refused"
  | invalidResponse => "invalid_response"
  | other => "other"

/-- Why one call to an endpoint has no usable answer. -/
inductive CallError where
  | timeout (ms : UInt64)
  | connectionRefused (detail : String)
  | status (code : Nat)
  | invalidResponse (detail : String)
  | other (detail : String)
deriving DecidableEq, Repr

namespace CallError

def text : CallError → String
  | timeout ms => s!"Request timed out after {ms.toNat}ms"
  | connectionRefused detail => "Connection failed: " ++ detail
  | status code => s!"Upstream returned HTTP {code}"
  | invalidResponse detail => "Invalid response: " ++ detail
  | other detail => detail

def kind : CallError → FailureKind
  | timeout _ => .timeout
  | connectionRefused _ => .connectionRefused
  | status _ => .invalidResponse
  | invalidResponse _ => .invalidResponse
  | other _ => .other

def cutOff (limit : Span) : CallError := .timeout (UInt64.ofNat limit.millis)

end CallError

structure Attempt where
  url : String
  kind : FailureKind
  reason : String
deriving DecidableEq, Repr

def Attempt.of (url : String) (e : CallError) : Attempt := ⟨url, e.kind, e.text⟩

/-- Why a request gets no upstream's answer. -/
inductive RequestError where
  | malformedNetwork (value : String)
  | unknownNetwork (network : NetworkId)
  | exhausted (network : NetworkId) (failures : List Attempt)
deriving DecidableEq, Repr

namespace RequestError

def text : RequestError → String
  | malformedNetwork value =>
    "network id must be a non-negative integer, got " ++ Text.quoted value
  | unknownNetwork network => "unknown network " ++ network.text
  | exhausted network failures =>
    s!"all {failures.length} endpoints for network {network.text} failed"

def isCallers : RequestError → Bool
  | malformedNetwork _ => true
  | unknownNetwork _ => true
  | exhausted _ _ => false

end RequestError

def NetworkId.parse (s : String) : Except RequestError NetworkId :=
  match NetworkId.parse? s with
  | some id => .ok id
  | none => .error (.malformedNetwork s)

end RankedRelay
