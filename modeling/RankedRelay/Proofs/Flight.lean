import RankedRelay.Failure
import RankedRelay.Flight

namespace RankedRelay

variable {α β : Type}

theorem foldr_max_le_iff {f : α → Nat} {xs : List α} {a t : Nat} :
    (xs.map f).foldr max a ≤ t ↔ a ≤ t ∧ ∀ x ∈ xs, f x ≤ t := by
  induction xs with
  | nil => simp
  | cons x rest ih =>
    rw [List.map_cons, List.foldr_cons, Nat.max_le, ih, List.forall_mem_cons, and_left_comm]

theorem add_foldr_max_le_iff {f : α → Nat} {xs : List α} {a t : Nat} :
    a + (xs.map f).foldr max 0 ≤ t ↔ a ≤ t ∧ ∀ x ∈ xs, a + f x ≤ t := by
  induction xs with
  | nil => simp
  | cons x rest ih =>
    have hmax : ∀ b c : Nat, a + max b c ≤ t ↔ a + b ≤ t ∧ a + c ≤ t := by omega
    rw [List.map_cons, List.foldr_cons, hmax, ih, List.forall_mem_cons, and_left_comm]

namespace Course

/-- How long a call lasts whose caller waits so long and no longer. -/
def lasting (limit : Nat) : Course α → Nat
  | .answers delay _ => min delay limit
  | .crashes delay => min delay limit
  | .silent => limit

theorem lasting_le (limit : Nat) (c : Course α) : c.lasting limit ≤ limit := by
  cases c with
  | answers delay value => exact Nat.min_le_right _ _
  | crashes delay => exact Nat.min_le_right _ _
  | silent => exact Nat.le_refl _

@[simp] theorem lasting_map (f : Nat → α → β) (limit : Nat) (c : Course α) :
    (c.map f).lasting limit = c.lasting limit := by
  cases c <;> rfl

end Course

theorem Flight.duration_eq (f : Flight α) : f.duration = f.course.lasting f.limit := by
  obtain ⟨departed, limit, course⟩ := f
  cases course <;> rfl

theorem Flight.ending_eq_answered {f : Flight α} {value : α} (h : f.ending = .answered value) :
    ∃ d ≤ f.limit, f.course = .answers d value := by
  simp only [ending] at h
  split at h
  · rename_i d _ hcourse
    split at h
    · rename_i hd
      cases h
      exact ⟨d, hd, hcourse⟩
    · cases h
  · split at h <;> cases h
  · cases h

theorem CallError.cutOff_ofMillis (ms : UInt64) : cutOff (.ofMillis ms.toNat) = .timeout ms := by
  simp [cutOff, Span.ofMillis, Span.millis]

end RankedRelay
