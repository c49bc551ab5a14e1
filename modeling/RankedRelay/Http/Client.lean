import RankedRelay.Http.Body
import RankedRelay.Http.Request
import RankedRelay.Upstream

namespace RankedRelay.Http

inductive Exchange where
  | replied (r : Reply)
  /-- No reply: not HTTP, or the connection ends before its head does. -/
  | noReply
  | noBody
  | pending
deriving DecidableEq, Repr

def Head.isInterim (h : Head) : Bool := h.status < 200 && h.status != 101

def Exchange.ofDelivery (h : Head) : Delivery → Exchange
  | .whole body => .replied ⟨h.status, h.contentType?, body⟩
  | .broken => .noBody
  | .pending => .pending

def readExchangeWith (closed : Bool) : Nat → Bytes → Exchange
  | 0, _ => .noReply
  | fuel + 1, bs =>
    match readHead bs with
    | .refused => .noReply
    | .short => if closed then .noReply else .pending
    | .done head rest =>
      if head.isInterim then readExchangeWith closed fuel rest
      else
        match head.framing? with
        | none => .noReply
        | some framing => .ofDelivery head (framing.deliver closed rest)

/-- The first reply that is not interim. -/
def readExchange (closed : Bool) (bs : Bytes) : Exchange :=
  readExchangeWith closed (bs.length + 1) bs

/-- What a server does with a request: after a while it sends bytes, then closes the connection or
leaves it open. -/
structure Answer where
  delay : Nat
  bytes : Bytes
  closes : Bool
deriving DecidableEq, Repr

/-- The servers that can be reached, by host and port. None of them speaks TLS. -/
abbrev Servers := String → UInt16 → Option (Request → Answer)

def Servers.reached? (servers : Servers) (r : Request) : Option (Request → Answer) :=
  if r.isSecure then none else servers r.hostText r.port

def Servers.send (servers : Servers) (r : Request) : Course (Except CallError Reply) :=
  match servers.reached? r with
  | none => .answers 0 (.error (.connectionRefused r.failureText))
  | some server =>
    let answer := server r
    match readExchange answer.closes answer.bytes with
    | .replied reply => .answers answer.delay (.ok reply)
    | .noReply => .answers answer.delay (.error (.other r.failureText))
    | .noBody => .answers answer.delay (.error (.invalidResponse "error decoding response body"))
    | .pending => .silent

def bounded (limit : Span) (course : Course (Except CallError Reply)) :
    Course (Except CallError Reply) :=
  let flight : Flight (Except CallError Reply) := ⟨0, limit.millis, course⟩
  match flight.ending with
  | .answered value => .answers flight.duration value
  | .crashed => .crashes flight.duration
  | .cutOff => .answers flight.duration (.error (.cutOff limit))

def Servers.transport (servers : Servers) : Transport := fun url body limit _ =>
  match Request.make url body with
  | .error e => .answers 0 (.error e)
  | .ok r => bounded limit (servers.send r)

end RankedRelay.Http
