import RankedRelay.Text.Decimal

namespace RankedRelay.Unicode

def numbersFrom : List Char → Option Nat → List Nat
  | [], none => []
  | [], some n => [n]
  | c :: rest, pending =>
    match Text.hexDigit? c, pending with
    | some d, _ => numbersFrom rest (some (pending.getD 0 * 16 + d))
    | none, some n => n :: numbersFrom rest none
    | none, none => numbersFrom rest none

def numbers (table : String) : List Nat := numbersFrom table.toList none

def ranges : List Nat → List (Nat × Nat)
  | first :: last :: rest => (first, last) :: ranges rest
  | _ => []

/-- Rows of a first and a last code point, and the number of their class. -/
def classes : List Nat → List (Nat × Nat × Nat)
  | first :: last :: cls :: rest => (first, last, cls) :: classes rest
  | _ => []

def inRanges (rows : List (Nat × Nat)) (c : Nat) : Bool :=
  rows.any fun r => r.1 ≤ c && c ≤ r.2

def classOf (rows : List (Nat × Nat × Nat)) (c : Nat) : Nat :=
  ((rows.find? fun r => r.1 ≤ c && c ≤ r.2.1).map (·.2.2)).getD 0

end RankedRelay.Unicode
