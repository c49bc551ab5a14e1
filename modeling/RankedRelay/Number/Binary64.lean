namespace RankedRelay.Number

/-- A finite magnitude. The mantissa has 53 bits, or fewer where the exponent is the least one. -/
structure Binary64 where
  mantissa : Nat
  exponent : Int
deriving DecidableEq, Repr

namespace Binary64

def zero : Binary64 := ⟨0, -1074⟩

def roundHalfEven (num den : Nat) : Nat :=
  let q := num / den
  let twice := 2 * (num % den)
  if twice < den then q else if den < twice then q + 1 else q + q % 2

/-- The exponent at which `num / den` has a mantissa of 53 bits, but never below the least. -/
def exponentFor (num den : Nat) : Int :=
  let guess : Int := (num.log2 : Int) - den.log2 - 52
  let tooSmall :=
    if 0 ≤ guess then num < den * Nat.pow 2 (guess.toNat + 52)
    else num * Nat.pow 2 (-guess).toNat < den * Nat.pow 2 52
  max (if tooSmall then guess - 1 else guess) (-1074)

/-- The magnitude nearest to `num / den`; none if that is beyond the finite ones. -/
def ofRatio (num den : Nat) : Option Binary64 :=
  if num = 0 then some zero else
  let e := exponentFor num den
  let m := if 0 ≤ e then roundHalfEven num (den * Nat.pow 2 e.toNat)
    else roundHalfEven (num * Nat.pow 2 (-e).toNat) den
  let r : Binary64 := if m = Nat.pow 2 53 then ⟨Nat.pow 2 52, e + 1⟩ else ⟨m, e⟩
  if 971 < r.exponent then none else some r

def num (x : Binary64) : Nat :=
  if 0 ≤ x.exponent then x.mantissa * Nat.pow 2 x.exponent.toNat else x.mantissa

def den (x : Binary64) : Nat := if 0 ≤ x.exponent then 1 else Nat.pow 2 (-x.exponent).toNat

def mul (x y : Binary64) : Option Binary64 := ofRatio (x.num * y.num) (x.den * y.den)

def div (x y : Binary64) : Option Binary64 := ofRatio (x.num * y.den) (x.den * y.num)

end Binary64

end RankedRelay.Number
