import RankedRelay.Json.Value
import RankedRelay.Text.Bytes

namespace RankedRelay.Rpc

open Json (Value)

def version : String := "2.0"

structure Request where
  id : UInt64
  method : String
  params : List Value

/-- The call asks for the chain id, which no node refuses and which changes nothing. -/
def Request.chainId : Request := ⟨1, "eth_chainId", []⟩

def Request.toJson (r : Request) : Value :=
  .object [("jsonrpc", .string version), ("id", .natural r.id.toNat), ("method", .string r.method),
    ("params", .array r.params)]

def Request.text (r : Request) : String := r.toJson.text

def probePayload : Bytes := Bytes.ofText Request.chainId.text

def behindPrefix? : List Char → Option (List Char)
  | '0' :: 'x' :: digits => some digits
  | '0' :: 'X' :: digits => some digits
  | _ => none

/-- A number below `2 ^ 64` in hexadecimal digits behind `0x` or `0X`. One plus sign may stand
in front of the digits. -/
def quantity? (s : String) : Option UInt64 :=
  match behindPrefix? s.toList with
  | none => none
  | some digits =>
    let digits := match digits with
      | '+' :: rest => rest
      | _ => digits
    match Text.hexadecimal? digits with
    | some n => if n < UInt64.size then some (UInt64.ofNat n) else none
    | none => none

def quantity (n : UInt64) : String := "0x" ++ Text.hexadecimal n.toNat

end RankedRelay.Rpc
