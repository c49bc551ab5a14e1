import RankedRelay.Number.Binary64

namespace RankedRelay.Number

/-- `digits * 10 ^ exponent`, the digits without a trailing zero unless they are zero. -/
structure ShortDecimal where
  digits : Nat
  exponent : Int
deriving DecidableEq, Repr

namespace Binary64

/-- Four times the value and the ends of the interval that rounds to it, over one denominator. -/
structure Interval where
  low : Nat
  value : Nat
  high : Nat
  den : Nat
  closed : Bool

def interval (x : Binary64) : Interval :=
  let e := x.exponent - 2
  let scale := if 0 ≤ e then Nat.pow 2 e.toNat else 1
  let den := if 0 ≤ e then 1 else Nat.pow 2 (-e).toNat
  let below := if x.mantissa = Nat.pow 2 52 ∧ -1074 < x.exponent then 1 else 2
  ⟨(4 * x.mantissa - below) * scale, 4 * x.mantissa * scale, (4 * x.mantissa + 2) * scale, den,
    x.mantissa % 2 = 0⟩

def powerOfTen (k : Int) : Nat × Nat :=
  if 0 ≤ k then (Nat.pow 10 k.toNat, 1) else (1, Nat.pow 10 (-k).toNat)

def Interval.contains (i : Interval) (c : Nat) (k : Int) : Bool :=
  let (p, q) := powerOfTen k
  let here := c * p * i.den
  if i.closed then i.low * q ≤ here && here ≤ i.high * q else i.low * q < here && here < i.high * q

def magnitude (x : Binary64) : Int :=
  let n := x.num
  let d := x.den
  if d ≤ n then ((toString (n / d)).length : Int) - 1
  else
    let k := (toString (d / n)).length
    if d ≤ n * Nat.pow 10 (k - 1) then 1 - (k : Int) else -(k : Int)

def neighbours (i : Interval) (k : Int) : Nat × Nat :=
  let (p, q) := powerOfTen k
  let c := i.value * q / (i.den * p)
  let twice := 2 * (i.value * q)
  let middle := (2 * c + 1) * (i.den * p)
  if twice < middle ∨ (twice = middle ∧ c % 2 = 0) then (c, c + 1) else (c + 1, c)

def trim (digits : Nat) (k : Int) : Nat → ShortDecimal
  | 0 => ⟨digits, k⟩
  | fuel + 1 =>
    if digits % 10 = 0 ∧ digits ≠ 0 then trim (digits / 10) (k + 1) fuel else ⟨digits, k⟩

/-- The first grid, from coarse to fine, that has a point in the interval. -/
def search (i : Interval) (top : Int) : Nat → ShortDecimal
  | 0 => ⟨0, 0⟩
  | more + 1 =>
    let k := top - (16 - more : Nat)
    let (near, far) := neighbours i k
    if i.contains near k then trim near k 18
    else if i.contains far k then trim far k 18
    else search i top more

def shortest (x : Binary64) : ShortDecimal :=
  if x.mantissa = 0 then ⟨0, 0⟩ else search x.interval x.magnitude 17

end Binary64

def zeros (n : Nat) : String := String.ofList (List.replicate n '0')

/-- Positional from `1e-5` up to `1e16`, with at least one digit on each side of the point;
scientific beyond, with a signed exponent. -/
def ShortDecimal.text (d : ShortDecimal) : String :=
  let digits := toString d.digits
  let point : Int := digits.length + d.exponent
  if d.digits = 0 then "0.0"
  else if 0 ≤ d.exponent ∧ point ≤ 16 then digits ++ zeros d.exponent.toNat ++ ".0"
  else if 0 < point ∧ point ≤ 16 then
    (digits.take point.toNat).toString ++ "." ++ (digits.drop point.toNat).toString
  else if -5 < point ∧ point ≤ 0 then "0." ++ zeros (-point).toNat ++ digits
  else
    let fraction := if digits.length = 1 then "" else "." ++ (digits.drop 1).toString
    let e := point - 1
    (digits.take 1).toString ++ fraction ++ "e" ++ (if 0 ≤ e then "+" else "-") ++ toString e.natAbs

end RankedRelay.Number
