import RankedRelay.Traffic.Pool
import RankedRelay.Ranking
import RankedRelay.Upstream

namespace RankedRelay

structure Post where
  time : Nat
  url : String
  body : Bytes
deriving DecidableEq, Repr

inductive RequestResult where
  | replied (reply : Reply)
  | failed (e : RequestError)
  | crashed
  | dropped

structure Trying where
  endpoint : Endpoint
  flight : Flight (Except CallError Reply)
  rest : List Endpoint

/-- Where a walk stands: at an attempt, or at its end. -/
inductive Stand where
  | trying (t : Trying)
  | done (r : RequestResult)

inductive WalkEvent where
  | posted (p : Post)
  | passedOn (endpoint : Endpoint)
  | fellBack (endpoint : Endpoint) (e : CallError)

/-- A walk's state, with the failures so far in order, and what it has told. -/
structure Strides where
  stand : Stand
  failures : List Attempt
  events : List WalkEvent

namespace Walk

variable (post : Transport) (limit : Nat)

def verdict? (f : Flight (Except CallError Reply)) : Option (Except CallError Reply) :=
  match f.ending with
  | .answered (.ok reply) => some reply.relayable
  | .answered (.error e) => some (.error e)
  | .crashed => none
  | .cutOff => some (.error (.cutOff (.ofMillis f.limit)))

/-- Tries the endpoints from the front as long as the attempts end at once. -/
def tryFrom (network : NetworkId) (payload : Bytes) (now : Nat) :
    List Endpoint → List Attempt → Strides
  | [], failures => ⟨.done (.failed (.exhausted network failures)), [], []⟩
  | e :: rest, failures =>
    let flight : Flight (Except CallError Reply) :=
      ⟨now, limit, post e.url payload (.ofMillis limit) now⟩
    let posted := WalkEvent.posted ⟨now, e.url, payload⟩
    if now < flight.due then ⟨.trying ⟨e, flight, rest⟩, failures, [posted]⟩
    else
      match verdict? flight with
      | none => ⟨.done .crashed, failures, [posted]⟩
      | some (.ok reply) => ⟨.done (.replied reply), [], [posted, .passedOn e]⟩
      | some (.error err) =>
        let next := tryFrom network payload now rest (failures ++ [Attempt.of e.url err])
        ⟨next.stand, next.failures, posted :: .fellBack e err :: next.events⟩

def resume (network : NetworkId) (payload : Bytes) (now : Nat) (t : Trying)
    (failures : List Attempt) : Strides :=
  match verdict? t.flight with
  | none => ⟨.done .crashed, failures, []⟩
  | some (.ok reply) => ⟨.done (.replied reply), [], [.passedOn t.endpoint]⟩
  | some (.error err) =>
    let next :=
      tryFrom post limit network payload now t.rest (failures ++ [Attempt.of t.endpoint.url err])
    ⟨next.stand, next.failures, .fellBack t.endpoint err :: next.events⟩

def begin (ranking : Except RequestError Ranking) (network : NetworkId) (payload : Bytes)
    (now : Nat) : Strides :=
  match ranking with
  | .error e => ⟨.done (.failed e), [], []⟩
  | .ok r => tryFrom post limit network payload now r.endpoints []

end Walk

end RankedRelay
