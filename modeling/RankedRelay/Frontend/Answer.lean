import RankedRelay.Frontend.Route
import RankedRelay.Relay.Summary

namespace RankedRelay.Frontend

open Json (Value)

def healthy : Response := .json 200 (Value.object [("status", .string "UP")]).text

def failureValue (a : Attempt) : Value :=
  .object [("kind", .string a.kind.text), ("reason", .string a.reason), ("url", .string a.url)]

def ofError (e : RequestError) : Response :=
  let error := ("error", Value.string e.text)
  let network (id : NetworkId) := ("network_id", Value.natural id.number.toNat)
  match e with
  | .malformedNetwork _ => .json 400 (Value.object [error]).text
  | .unknownNetwork id => .json 503 (Value.object [error, network id]).text
  | .exhausted id failures =>
    .json 502
      (Value.object [error, ("failures", .array (failures.map failureValue)), network id]).text

/-- Whether a header can have the value: no control characters but the tab. -/
def isHeaderText (s : String) : Bool :=
  (Bytes.ofText s).all fun b => b = 9 || (0x20 ≤ b && b != 0x7f)

/-- The status that a number stands for; without three digits it counts as 200. -/
def statusCode (n : Nat) : Nat := if 100 ≤ n ∧ n ≤ 999 then n else 200

/-- An upstream's reply is passed on as it is; what is not a header value counts as JSON. -/
def ofReply (r : Reply) : Response :=
  let contentType := (r.contentType.filter isHeaderText).getD "application/json"
  ⟨statusCode r.status, some contentType, none, r.body⟩

def ofResult : RequestResult → Option Response
  | .replied r => some (ofReply r)
  | .failed e => some (ofError e)
  | .crashed => none
  | .dropped => none

inductive Reception where
  | answered (r : Response)
  | rejected (e : RequestError)
  | admitted (network : NetworkId)

/-- A network's request is admitted if its name is text, its body is not over the limit, and the
name is a number, in this order. -/
def accept (maxBytes : Nat) (segment body : Bytes) : Reception :=
  match segment.text? with
  | none => .answered (.plain 400 "Invalid URL: Invalid UTF-8 in \x60id\x60")
  | some name =>
    if maxBytes < body.length then
      .answered (.plain 413 "Failed to buffer the request body: length limit exceeded")
    else
      match NetworkId.parse name with
      | .error e => .rejected e
      | .ok id => .admitted id

def status (r : Relay) : Response := .json 200 (statusValue r).text

def receive (maxBytes : Nat) (relay : Relay) (c : Call) : Reception :=
  let shown (r : Response) : Reception := .answered (if c.method = "HEAD" then r.withoutBody else r)
  match route c.method c.target with
  | .health => shown healthy
  | .status => shown (status relay)
  | .notAllowed allow => .answered (.empty 405 (some allow))
  | .notFound => .answered (.empty 404 none)
  | .network segment => accept maxBytes segment c.body

end RankedRelay.Frontend
