import RankedRelay.Failure
import RankedRelay.Flight
import RankedRelay.Rpc.Request
import RankedRelay.Rpc.Reply

namespace RankedRelay

structure Reply where
  status : Nat
  contentType : Option String
  body : Bytes
deriving DecidableEq, Repr

/-- Sends a body to a URL at a moment of the clock. The span bounds the call. -/
abbrev Transport := String → Bytes → Span → Nat → Course (Except CallError Reply)

/-- Measures an endpoint at a moment of the clock. -/
abbrev Prober := Endpoint → Nat → Course (Except CallError Span)

namespace Reply

def isSuccess (r : Reply) : Bool := 200 ≤ r.status && r.status < 300

/-- A reply is passed on if it is a success and its body is one JSON value. -/
def relayable (r : Reply) : Except CallError Reply :=
  if !r.isSuccess then .error (.status r.status)
  else
    match Json.check r.body with
    | .ok () => .ok r
    | .error f => .error (.invalidResponse ("body is not JSON: " ++ f.message r.body))

def chain? : Json.Value → Option UInt64
  | .string s => Rpc.quantity? s
  | _ => none

/-- Whether a body is a JSON-RPC result and, if that is asked, names the chain of the network. -/
def judgeBody (verify : Bool) (network : NetworkId) (body : Bytes) : Except CallError Unit :=
  match Rpc.Reply.decode body with
  | .error f => .error (.invalidResponse ("not a JSON-RPC response: " ++ f.message body))
  | .ok reply =>
    if reply.jsonrpc ≠ Rpc.version then
      .error (.invalidResponse ("unsupported jsonrpc version " ++ Text.quoted reply.jsonrpc))
    else
      match reply.error, reply.result with
      | some e, _ => .error (.invalidResponse e.text)
      | none, none => .error (.invalidResponse "response has no result")
      | none, some result =>
        if !verify then .ok ()
        else
          match chain? result with
          | none => .error (.invalidResponse ("unexpected chain id result " ++ result.text))
          | some chain =>
            if chain = network.number then .ok ()
            else
              .error (.invalidResponse
                s!"endpoint serves chain {chain.toNat}, expected {network.text}")

def judge (verify : Bool) (network : NetworkId) (r : Reply) : Except CallError Unit :=
  if !r.isSuccess then .error (.status r.status) else judgeBody verify network r.body

end Reply

/-- Probes by one call for the chain id. The latency is the time until the reply. -/
def Prober.over (post : Transport) (verify : Bool) (timeout : Span) : Prober := fun e now =>
  (post e.url Rpc.probePayload timeout now).map fun delay answer =>
    match answer with
    | .error err => .error err
    | .ok reply => (reply.judge verify e.network).map fun _ => Span.ofMillis delay

end RankedRelay
