import RankedRelay.Http.Head

namespace RankedRelay.Http

inductive Framing where
  | absent
  | sized (length : Nat)
  | chunked
  | untilClose
deriving DecidableEq, Repr

def listItems (value : String) : List (List Char) :=
  let blank (c : Char) : Bool := c = ' ' || c = '\t'
  (value.splitOn ",").map fun item =>
    ((item.toList.dropWhile blank).reverse.dropWhile blank).reverse

/-- Lengths may be repeated but not differ, and have a place in 64 bits with two to spare. -/
def contentLength? (values : List Bytes) : Option Nat := do
  let texts ← values.mapM visible?
  let lengths ← (texts.flatMap listItems).mapM Text.decimal?
  let length ← lengths.head?
  if lengths.all (· == length) ∧ length < UInt64.size - 2 then some length else none

def endsChunked (value : Bytes) : Bool :=
  match visible? value with
  | none => false
  | some text =>
    match (listItems text).getLast? with
    | none => false
    | some item => item.map (·.toLower) == "chunked".toList

/-- Statuses without a body, then an encoding, then a length; nothing if they are not in order. -/
def Head.framing? (h : Head) : Option Framing :=
  if h.status = 101 ∨ h.status = 204 ∨ h.status = 304 then some .absent
  else
    match (h.values "transfer-encoding").getLast? with
    | some encoding =>
      if h.version = .http10 then none
      else if endsChunked encoding then some .chunked
      else some .untilClose
    | none =>
      match h.values "content-length" with
      | [] => some .untilClose
      | values => (contentLength? values).map .sized

def readExtension (bs : Bytes) : Progress Unit :=
  match bs.dropWhile isBlank with
  | [] => .short
  | 0x0d :: rest => lineFeed rest
  | 0x3b :: rest =>
    match rest.dropWhile fun b => b != 0x0d && b != 0x0a with
    | [] => .short
    | 0x0d :: rest => lineFeed rest
    | _ :: _ => .refused
  | _ :: _ => .refused

def readSize (bs : Bytes) : Progress Nat :=
  match bs.span (hexValue? · |>.isSome) with
  | ([], []) => .short
  | ([], _ :: _) => .refused
  | (digits, rest) =>
    let size := digits.foldl (fun n b => 16 * n + (hexValue? b).getD 0) 0
    if UInt64.size ≤ size then .refused else (readExtension rest).map fun _ => size

def trailerLines : Nat → Bytes → Progress (List Bytes)
  | 0, _ => .short
  | fuel + 1, bs =>
    match bs with
    | [] => .short
    | 0x0d :: rest => (lineFeed rest).map fun _ => []
    | b :: rest =>
      match rest.span (· != 0x0d) with
      | (_, []) => .short
      | (text, _ :: rest) =>
        (lineFeed rest).bind fun _ rest =>
          (trailerLines fuel rest).map fun lines => (b :: text ++ [0x0d, 0x0a]) :: lines

/-- Fields behind the last chunk have to be in order, but say nothing. -/
def readTrailer (bs : Bytes) : Progress Unit :=
  (trailerLines (bs.length + 1) bs).bind fun lines rest =>
    if lines.isEmpty then .done () rest
    else if maxFields ≤ lines.length then .refused
    else
      match readFields lines.length (lines.flatten ++ [0x0d, 0x0a]) with
      | .done _ _ => .done () rest
      | _ => .refused

def readChunksWith : Nat → Bytes → Progress Bytes
  | 0, _ => .short
  | fuel + 1, bs =>
    (readSize bs).bind fun size rest =>
      if size = 0 then (readTrailer rest).map fun _ => []
      else if rest.length < size then .short
      else
        (literal [0x0d, 0x0a] (rest.drop size)).bind fun _ rest' =>
          (readChunksWith fuel rest').map (rest.take size ++ ·)

def readChunks (bs : Bytes) : Progress Bytes := readChunksWith (bs.length + 1) bs

inductive Delivery where
  | whole (body : Bytes)
  | broken
  | pending
deriving DecidableEq, Repr

/-- What is missing never comes from a connection that is closed. -/
def Delivery.missing (closed : Bool) : Delivery := if closed then .broken else .pending

def Framing.deliver (closed : Bool) (bs : Bytes) : Framing → Delivery
  | absent => .whole []
  | sized length => if length ≤ bs.length then .whole (bs.take length) else .missing closed
  | chunked =>
    match readChunks bs with
    | .done body _ => .whole body
    | .short => .missing closed
    | .refused => .broken
  | untilClose => if closed then .whole bs else .pending

end RankedRelay.Http
