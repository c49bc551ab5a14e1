import RankedRelay.Json.Fault
import RankedRelay.Json.Value

namespace RankedRelay.Json

open Number (Binary64)

structure Digits where
  whole : Bytes
  fraction : Bytes
  exponent : Option (Bool × Bytes)
deriving DecidableEq, Repr

def scanExponentDigits (atEnd : Cause) (negative : Bool) (d : Digits) :
    Bytes → Except Fault (Digits × Bytes)
  | [] => .error ⟨atEnd, 0⟩
  | b :: rest =>
    if isDigit b then
      .ok (⟨d.whole, d.fraction, some (negative, (b :: rest).takeWhile isDigit)⟩,
        rest.dropWhile isDigit)
    else .error ⟨.invalidNumber, rest.length⟩

def scanExponent (atEnd : Cause) (d : Digits) (bs : Bytes) : Except Fault (Digits × Bytes) :=
  match bs with
  | 0x65 :: 0x2b :: rest | 0x45 :: 0x2b :: rest => scanExponentDigits atEnd false d rest
  | 0x65 :: 0x2d :: rest | 0x45 :: 0x2d :: rest => scanExponentDigits atEnd true d rest
  | 0x65 :: rest | 0x45 :: rest => scanExponentDigits atEnd false d rest
  | _ => .ok (d, bs)

def scanFraction (atEnd : Cause) (whole bs : Bytes) : Except Fault (Digits × Bytes) :=
  match bs with
  | [0x2e] => .error ⟨atEnd, 0⟩
  | 0x2e :: b :: rest =>
    if isDigit b then
      scanExponent atEnd ⟨whole, (b :: rest).takeWhile isDigit, none⟩ (rest.dropWhile isDigit)
    else .error ⟨.invalidNumber, rest.length⟩
  | _ => scanExponent atEnd ⟨whole, [], none⟩ bs

def scanDigits (atEnd : Cause) : Bytes → Except Fault (Digits × Bytes)
  | [] => .error ⟨atEnd, 0⟩
  | b :: rest =>
    if b = 0x30 then
      match rest with
      | d :: more =>
        if isDigit d then .error ⟨.invalidNumber, more.length⟩ else scanFraction atEnd [b] rest
      | [] => scanFraction atEnd [b] rest
    else if isDigit b then
      scanFraction atEnd ((b :: rest).takeWhile isDigit) (rest.dropWhile isDigit)
    else .error ⟨.invalidNumber, rest.length⟩

def digitValue (b : UInt8) : Nat := b.toNat - 0x30

/-- Reads digits onto `acc` while the result is at most `bound`; also gives the digits left. -/
def accumulate (bound : Nat) : Bytes → Nat → Nat × Bytes
  | [], acc => (acc, [])
  | b :: rest, acc =>
    let next := acc * 10 + digitValue b
    if next ≤ bound then accumulate bound rest next else (acc, b :: rest)

def largestWord : Nat := UInt64.size - 1
def largestExponent : Nat := Nat.pow 2 31 - 1

/-- `x * 10 ^ e`, by one rounded product or by rounded quotients of at most `10 ^ 308`. -/
def scaleByTen (x : Binary64) (e : Int) : Option Binary64 :=
  if x.mantissa = 0 then some x
  else if 308 < e then none
  else if 0 ≤ e then (Binary64.ofRatio (Nat.pow 10 e.toNat) 1).bind x.mul
  else if -308 ≤ e then (Binary64.ofRatio (Nat.pow 10 (-e).toNat) 1).bind x.div
  else
    (Binary64.ofRatio (Nat.pow 10 308) 1).bind fun y =>
      (x.div y).bind fun z => scaleByTen z (e + 308)
termination_by e.natAbs
decreasing_by omega

def floatValue (negative : Bool) (significand : Nat) (e : Int) (unread : Nat) :
    Except Fault Numeral :=
  match (Binary64.ofRatio significand 1).bind (scaleByTen · e) with
  | some x => .ok (.float negative x)
  | none => .error ⟨.numberOutOfRange, unread⟩

def clampScale (e : Int) : Int := max (-(Nat.pow 2 31)) (min e (Nat.pow 2 31 - 1))

/-- The value of a number. Without point and exponent it is an integer if that fits 64 bits
(except for a negated zero); else the leading digits that fit a word are scaled. -/
def numeralValue (negative : Bool) (d : Digits) (unread : Nat) : Except Fault Numeral :=
  let (kept, dropped) := accumulate largestWord d.whole 0
  let (significand, ignored) := accumulate largestWord d.fraction kept
  let scale : Int := dropped.length - (d.fraction.length - ignored.length : Nat)
  match d.exponent with
  | some (down, digits) =>
    match accumulate largestExponent digits 0 with
    | (_, _ :: more) =>
      if significand ≠ 0 ∧ ¬ down then .error ⟨.numberOutOfRange, more.length + unread⟩
      else .ok (.float negative .zero)
    | (e, []) =>
      floatValue negative significand (clampScale (if down then scale - e else scale + e)) unread
  | none =>
    if d.fraction.isEmpty ∧ dropped.isEmpty then
      if ¬ negative then .ok (.integer kept)
      else if 0 < kept ∧ kept ≤ Nat.pow 2 63 then .ok (.integer (-(kept : Int)))
      else floatValue true kept 0 unread
    else floatValue negative significand scale unread

def skipNumber (bs : Bytes) : Except Fault Bytes :=
  match bs with
  | 0x2d :: rest => (scanDigits .invalidNumber rest).map (·.2)
  | _ => (scanDigits .invalidNumber bs).map (·.2)

def readUnsigned (negative : Bool) (bs : Bytes) : Except Fault (Numeral × Bytes) :=
  match scanDigits .endOfValue bs with
  | .error f => .error f
  | .ok (digits, rest) => (numeralValue negative digits rest.length).map (·, rest)

def readNumber (bs : Bytes) : Except Fault (Numeral × Bytes) :=
  match bs with
  | 0x2d :: rest => readUnsigned true rest
  | _ => readUnsigned false bs

end RankedRelay.Json
