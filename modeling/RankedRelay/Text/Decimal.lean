namespace RankedRelay.Text

def digit? (c : Char) : Option Nat :=
  if '0' ≤ c ∧ c ≤ '9' then some (c.toNat - '0'.toNat) else none

def hexDigit? (c : Char) : Option Nat :=
  if '0' ≤ c ∧ c ≤ '9' then some (c.toNat - '0'.toNat)
  else if 'a' ≤ c ∧ c ≤ 'f' then some (c.toNat - 'a'.toNat + 10)
  else if 'A' ≤ c ∧ c ≤ 'F' then some (c.toNat - 'A'.toNat + 10)
  else none

/-- The number that digits of one base spell, read from the left onto `acc`. -/
def readDigits (base : Nat) (digit : Char → Option Nat) : List Char → Nat → Option Nat
  | [], acc => some acc
  | c :: rest, acc => do readDigits base digit rest (acc * base + (← digit c))

def decimal? (s : List Char) : Option Nat :=
  if s.isEmpty then none else readDigits 10 digit? s 0

def hexadecimal? (s : List Char) : Option Nat :=
  if s.isEmpty then none else readDigits 16 hexDigit? s 0

def hexadecimal (n : Nat) : String := String.ofList (Nat.toDigits 16 n)

def padZeros (width : Nat) (n : Nat) : String :=
  let digits := toString n
  String.ofList (List.replicate (width - digits.length) '0') ++ digits

end RankedRelay.Text
