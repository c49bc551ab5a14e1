import RankedRelay.Text.Bytes

namespace RankedRelay.Http

inductive Progress (α : Type) where
  | done (value : α) (rest : Bytes)
  | short
  | refused
deriving DecidableEq, Repr

namespace Progress

variable {α β : Type}

def bind (p : Progress α) (f : α → Bytes → Progress β) : Progress β :=
  match p with
  | done value rest => f value rest
  | short => .short
  | refused => .refused

def map (f : α → β) (p : Progress α) : Progress β := p.bind fun value rest => .done (f value) rest

end Progress

def literal : Bytes → Bytes → Progress Unit
  | [], bs => .done () bs
  | _ :: _, [] => .short
  | a :: as, b :: bs => if a = b then literal as bs else .refused

def lineFeed (bs : Bytes) : Progress Unit := literal [0x0a] bs

def isBlank (b : UInt8) : Bool := b = 0x20 || b = 0x09

def isText (b : UInt8) : Bool := b = 0x09 || (0x20 ≤ b && b != 0x7f)

def isToken (b : UInt8) : Bool :=
  isDigit b || (0x41 ≤ b && b ≤ 0x5a) || (0x5e ≤ b && b ≤ 0x7a) ||
    "!#$%&'*+-.|~".toList.any fun c => c.toNat = b.toNat

def line (bs : Bytes) : Progress Bytes :=
  match bs.span isText with
  | (_, []) => .short
  | (text, 0x0a :: rest) => .done text rest
  | (text, 0x0d :: rest) => (lineFeed rest).map fun _ => text
  | _ => .refused

def skipEmptyLines : Bytes → Progress Unit
  | [] => .short
  | [0x0d] => .short
  | 0x0d :: 0x0a :: rest => skipEmptyLines rest
  | 0x0d :: _ :: _ => .refused
  | 0x0a :: rest => skipEmptyLines rest
  | bs => .done () bs

end RankedRelay.Http
