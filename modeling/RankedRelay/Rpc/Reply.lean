import RankedRelay.Json.Record

namespace RankedRelay.Rpc

open Json

structure ReplyError where
  code : Int
  message : String
deriving DecidableEq, Repr

def ReplyError.text (e : ReplyError) : String := s!"upstream error {e.code} ({e.message})"

/-- A reply; `null` counts as absent. -/
structure Reply where
  jsonrpc : String
  result : Option Value
  error : Option ReplyError

namespace ReplyError

structure Gathered where
  code : Option Int
  message : Option String

def schema : Schema Gathered where
  title := "struct JsonRpcError"
  empty := ⟨none, none⟩
  fields := [
    { name := "code"
      optional := false
      isSet g := g.code.isSome
      read g bs := (readInt64 bs).map fun r => (⟨some r.1, g.message⟩, r.2)
      shorter _ _ _ h := by obtain ⟨r, hr, rfl⟩ := map_ok h; exact readInt64_shorter hr },
    { name := "message"
      optional := false
      isSet g := g.message.isSome
      read g bs := (readText bs).map fun r => (⟨g.code, some r.1⟩, r.2)
      shorter _ _ _ h := by obtain ⟨r, hr, rfl⟩ := map_ok h; exact readText_shorter hr }]

def read (bs : Bytes) : Except Fault (ReplyError × Bytes) :=
  (schema.read bs).map fun r => (⟨r.1.code.getD 0, r.1.message.getD ""⟩, r.2)

theorem read_shorter (bs : Bytes) (r : ReplyError × Bytes) (h : read bs = .ok r) :
    r.2.length < bs.length := by
  obtain ⟨q, hq, rfl⟩ := map_ok h
  exact (Schema.read_shorter hq : q.2.length < bs.length)

end ReplyError

namespace Reply

structure Gathered where
  jsonrpc : Option String
  result : Option (Option Value)
  error : Option (Option ReplyError)

/-- The record is one bracket, so its values may open one less. -/
def schema : Schema Gathered where
  title := "struct JsonRpcResponse"
  empty := ⟨none, none, none⟩
  fields := [
    { name := "jsonrpc"
      optional := false
      isSet g := g.jsonrpc.isSome
      read g bs := (readText bs).map fun r => ({ g with jsonrpc := some r.1 }, r.2)
      shorter _ _ _ h := by obtain ⟨r, hr, rfl⟩ := map_ok h; exact readText_shorter hr },
    { name := "result"
      optional := true
      isSet g := g.result.isSome
      read g bs := (readOptional (decodeValue (maxDepth - 1)) bs).map fun r =>
        ({ g with result := some r.1 }, r.2)
      shorter _ _ _ h := by
        obtain ⟨r, hr, rfl⟩ := map_ok h
        exact readOptional_shorter (fun _ _ => decodeValue_shorter) hr },
    { name := "error"
      optional := true
      isSet g := g.error.isSome
      read g bs :=
        (readOptional ReplyError.read bs).map fun r => ({ g with error := some r.1 }, r.2)
      shorter _ _ _ h := by
        obtain ⟨r, hr, rfl⟩ := map_ok h
        exact readOptional_shorter ReplyError.read_shorter hr }]

def decode (body : Bytes) : Except Fault Reply :=
  match schema.read body with
  | .error f => .error f
  | .ok (g, rest) =>
    (finish rest).map fun _ => ⟨g.jsonrpc.getD "", g.result.join, g.error.join⟩

end Reply

end RankedRelay.Rpc
