import RankedRelay.Text.Quoted

namespace RankedRelay

structure NetworkId where
  number : UInt64
deriving DecidableEq, Repr

namespace NetworkId

instance : LE NetworkId := ⟨fun a b => a.number ≤ b.number⟩
instance : LT NetworkId := ⟨fun a b => a.number < b.number⟩
instance (a b : NetworkId) : Decidable (a ≤ b) := inferInstanceAs (Decidable (a.number ≤ b.number))
instance (a b : NetworkId) : Decidable (a < b) := inferInstanceAs (Decidable (a.number < b.number))

def text (id : NetworkId) : String := toString id.number.toNat

/-- Decimal digits only, at least one, for a number below `2 ^ 64`. -/
def parse? (s : String) : Option NetworkId :=
  match Text.decimal? s.toList with
  | some n => if n < UInt64.size then some ⟨UInt64.ofNat n⟩ else none
  | none => none

end NetworkId

/-- One upstream URL of a network, as it was written. -/
structure Endpoint where
  url : String
  network : NetworkId
deriving DecidableEq, Repr

end RankedRelay
