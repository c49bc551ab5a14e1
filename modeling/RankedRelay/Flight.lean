namespace RankedRelay

/-- What becomes of a call. -/
inductive Course (α : Type) where
  | answers (delay : Nat) (value : α)
  | crashes (delay : Nat)
  | silent
deriving Repr

namespace Course

variable {α β : Type}

def map (f : Nat → α → β) : Course α → Course β
  | answers delay value => .answers delay (f delay value)
  | crashes delay => .crashes delay
  | silent => .silent

def delay? : Course α → Option Nat
  | answers delay _ => some delay
  | crashes delay => some delay
  | silent => none

end Course

inductive Ending (α : Type) where
  | answered (value : α)
  | crashed
  | cutOff
deriving Repr

/-- A call on its way, which its caller gives up `limit` after it left. -/
structure Flight (α : Type) where
  departed : Nat
  limit : Nat
  course : Course α
deriving Repr

namespace Flight

variable {α : Type}

/-- How long the call lasts. An answer that comes at the limit is in time. -/
def duration (f : Flight α) : Nat :=
  match f.course.delay? with
  | some d => min d f.limit
  | none => f.limit

def due (f : Flight α) : Nat := f.departed + f.duration

def ending (f : Flight α) : Ending α :=
  match f.course with
  | .answers delay value => if delay ≤ f.limit then .answered value else .cutOff
  | .crashes delay => if delay ≤ f.limit then .crashed else .cutOff
  | .silent => .cutOff

end Flight

end RankedRelay
