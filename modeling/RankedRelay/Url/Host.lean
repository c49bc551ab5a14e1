import RankedRelay.Url.Basic
import RankedRelay.Url.Domain

namespace RankedRelay.Host

/-- The part between two dots of an address: decimal, or hexadecimal behind `0x`, or octal behind
`0`. -/
def ipv4Number? (s : List Char) : Option Nat :=
  let octal? (c : Char) : Option Nat :=
    if '0' ≤ c ∧ c ≤ '7' then some (c.toNat - '0'.toNat) else none
  match s with
  | [] => none
  | '0' :: 'x' :: rest => Text.readDigits 16 Text.hexDigit? rest 0
  | '0' :: 'X' :: rest => Text.readDigits 16 Text.hexDigit? rest 0
  | '0' :: c :: rest => Text.readDigits 8 octal? (c :: rest) 0
  | _ => Text.readDigits 10 Text.digit? s 0

def parts (domain : List Char) : List (List Char) :=
  let all := Url.labels domain
  if all.getLast? = some [] then all.dropLast else all

/-- Whether a name is to be read as an address. -/
def endsInNumber (domain : List Char) : Bool :=
  match (parts domain).getLast? with
  | none => false
  | some last =>
    (!last.isEmpty && last.all fun c => (Text.digit? c).isSome) || (ipv4Number? last).isSome

/-- The last part fills all the bytes that the others leave. -/
def ipv4? (domain : List Char) : Option UInt32 := do
  let ps := parts domain
  if 4 < ps.length then none else
  let numbers ← ps.mapM ipv4Number?
  let front := numbers.dropLast
  let last ← numbers.getLast?
  if last < Nat.pow 256 (4 - front.length) ∧ front.all (· < 256) then
    let high := front.zipIdx.foldl (fun sum n => sum + n.1 * Nat.pow 256 (3 - n.2)) 0
    some (UInt32.ofNat (high + last))
  else none

def dottedQuad? (s : List Char) : Option (List UInt16) := do
  let byte? (p : List Char) : Option Nat := do
    let n ← Text.decimal? p
    if n < 256 ∧ (p.head? ≠ some '0' ∨ p.length = 1) then some n else none
  match (← (Url.labels s).mapM byte?) with
  | [a, b, c, d] => some [UInt16.ofNat (a * 256 + b), UInt16.ofNat (c * 256 + d)]
  | _ => none

def pieces? : List (List Char) → Option (List UInt16)
  | [] => some []
  | [p] => if p.contains '.' then dottedQuad? p else (piece? p).map ([·])
  | p :: rest => do return (← piece? p) :: (← pieces? rest)
where
  piece? (p : List Char) : Option UInt16 :=
    if p.length ≤ 4 then (Text.hexadecimal? p).map UInt16.ofNat else none

def colonParts (s : List Char) : List (List Char) :=
  match s with
  | [] => [[]]
  | c :: rest =>
    match c, colonParts rest with
    | ':', ps => [] :: ps
    | _, [] => [[c]]
    | _, p :: ps => (c :: p) :: ps

def splitAtGap : List Char → Option (List Char × List Char)
  | ':' :: ':' :: rest => some ([], rest)
  | c :: rest => (splitAtGap rest).map fun s => (c :: s.1, s.2)
  | [] => none

/-- Eight pieces; two colons in a row stand once for one or more zeros. -/
def ipv6? (s : List Char) : Option (List UInt16) := do
  let side (t : List Char) : Option (List UInt16) :=
    if t.isEmpty then some [] else pieces? (colonParts t)
  match splitAtGap s with
  | none =>
    let all ← side s
    if all.length = 8 then some all else none
  | some (before, behind) =>
    if before.contains '.' then none else
    let front ← side before
    let back ← side behind
    if front.length + back.length ≤ 7 then
      some (front ++ List.replicate (8 - front.length - back.length) 0 ++ back)
    else none

def bracketed (s : List Char) : Except UrlError Host :=
  match s.getLast? with
  | some ']' =>
    match ipv6? (s.drop 1).dropLast with
    | some pieces => .ok (.ipv6 pieces)
    | none => .error .invalidIpv6
  | _ => .error .invalidIpv6

def parse (s : List Char) : Except UrlError Host :=
  if s.head? = some '[' then bracketed s
  else
    match Url.domainToAscii (Percent.decode (Bytes.ofText (String.ofList s))) with
    | none => .error .invalidInternationalName
    | some domain =>
      if domain.isEmpty then .error .emptyHost
      else if endsInNumber domain.toList then
        match ipv4? domain.toList with
        | some address => .ok (.ipv4 address)
        | none => .error .invalidIpv4
      else .ok (.name domain)

def isForbidden (c : Char) : Bool := "\x00\t\n\r #/:<>?@[\\]^|".toList.contains c

def isControl (b : UInt8) : Bool := b < 0x20 || 0x7f ≤ b

def parseLoose (s : List Char) : Except UrlError Host :=
  if s.head? = some '[' then bracketed s
  else if s.any isForbidden then .error .invalidDomainCharacter
  else .ok (.name (Percent.encodeChars isControl s))

def longestGap (pieces : List UInt16) : Nat × Nat :=
  let runs :=
    (List.range pieces.length).map fun i => (i, ((pieces.drop i).takeWhile (· = 0)).length)
  runs.foldl (fun best r => if best.2 < r.2 ∧ 2 ≤ r.2 then r else best) (0, 0)

def piecesText (pieces : List UInt16) : String :=
  ":".intercalate (pieces.map fun p => Text.hexadecimal p.toNat)

def ipv6Text (pieces : List UInt16) : String :=
  match longestGap pieces with
  | (_, 0) => piecesText pieces
  | (start, length) =>
    piecesText (pieces.take start) ++ "::" ++ piecesText (pieces.drop (start + length))

def ipv4Text (address : UInt32) : String :=
  ".".intercalate ([24, 16, 8, 0].map fun shift => toString (address.toNat / Nat.pow 2 shift % 256))

def text : Host → String
  | name s => s
  | ipv4 address => ipv4Text address
  | ipv6 pieces => "[" ++ ipv6Text pieces ++ "]"

end RankedRelay.Host
