import Mathlib.Data.Nat.Digits.Defs
import RankedRelay.Rpc.Request

namespace RankedRelay

namespace Text

def hexDigits : List Char :=
  ['0', '1', '2', '3', '4', '5', '6', '7', '8', '9', 'a', 'b', 'c', 'd', 'e', 'f']

def hexValue (s : List Char) : Nat :=
  Nat.ofDigits 16 (s.reverse.map fun ch => hexDigits.idxOf ch.toLower)

/-- Whether a text consists of hexadecimal digits, at least one, that spell `n`. -/
structure IsHexadecimal (s : List Char) (n : Nat) : Prop where
  ne_nil : s ≠ []
  digits : ∀ ch ∈ s, ch.toLower ∈ hexDigits
  value : hexValue s = n

theorem hexDigit?_eq (ch : Char) : hexDigit? ch =
    if ch.toLower ∈ hexDigits then some (hexDigits.idxOf ch.toLower) else none := by
  have hascii : ∀ n < 128, hexDigit? (Char.ofNat n) =
      if (Char.ofNat n).toLower ∈ hexDigits then some (hexDigits.idxOf (Char.ofNat n).toLower)
      else none := by decide +kernel
  by_cases hlt : ch.toNat < 128
  · simpa only [Char.ofNat_toNat] using hascii ch.toNat hlt
  · have habove : ∀ d : Char, d.toNat < 128 → ¬ ch ≤ d := by
      intro d hd hle
      rw [Char.le_def, UInt32.le_iff_toNat_le] at hle
      exact hlt (Nat.lt_of_le_of_lt hle hd)
    have hlower : ch.toLower = ch := dif_neg fun h => habove 'Z' (by decide) h.2
    have hmem : ch ∉ hexDigits := by
      have hall : hexDigits.all (·.toNat < 128) = true := by decide
      intro h
      exact hlt (by simpa using List.all_eq_true.mp hall ch h)
    simp only [hexDigit?, habove '9' (by decide), habove 'f' (by decide), habove 'F' (by decide),
      and_false, if_false, hlower, hmem]

theorem readDigits_hex (s : List Char) (acc : Nat) : readDigits 16 hexDigit? s acc =
    if s.all (·.toLower ∈ hexDigits) then some (acc * 16 ^ s.length + hexValue s) else none := by
  induction s generalizing acc with
  | nil => simp [readDigits, hexValue]
  | cons ch rest ih =>
    have hvalue : hexValue (ch :: rest) =
        hexDigits.idxOf ch.toLower * 16 ^ rest.length + hexValue rest := by
      simp only [hexValue, List.reverse_cons, List.map_append, List.map_cons, List.map_nil,
        Nat.ofDigits_append, Nat.ofDigits_singleton, List.length_map, List.length_reverse]
      ring
    rw [readDigits, hexDigit?_eq]
    by_cases hdigit : ch.toLower ∈ hexDigits
    · have hplaces : (acc * 16 + hexDigits.idxOf ch.toLower) * 16 ^ rest.length + hexValue rest =
          acc * 16 ^ (ch :: rest).length + hexValue (ch :: rest) := by
        rw [hvalue, List.length_cons]
        ring
      simp only [hdigit, if_true, Option.bind_eq_bind, Option.bind_some, ih, hplaces,
        List.all_cons, decide_true, Bool.true_and]
    · simp only [hdigit, if_false, Option.bind_eq_bind, Option.bind_none, List.all_cons,
        decide_false, Bool.false_and, Bool.false_eq_true]

theorem hexadecimal?_eq_some {s : List Char} {n : Nat} :
    hexadecimal? s = some n ↔ IsHexadecimal s n := by
  have hall : s.all (·.toLower ∈ hexDigits) = true ↔ ∀ ch ∈ s, ch.toLower ∈ hexDigits := by
    simp only [List.all_eq_true, decide_eq_true_eq]
  unfold hexadecimal?
  cases s with
  | nil =>
    constructor
    · intro h
      cases h
    · intro h
      exact absurd rfl h.ne_nil
  | cons ch rest =>
    rw [List.isEmpty_cons, if_neg Bool.false_ne_true, readDigits_hex, Nat.zero_mul, Nat.zero_add]
    constructor
    · intro h
      split at h
      · rename_i hdigits
        exact ⟨List.cons_ne_nil _ _, hall.mp hdigits, Option.some.inj h⟩
      · cases h
    · intro h
      rw [if_pos (hall.mpr h.digits), h.value]

theorem digitChar_hex {k : Nat} (h : k < 16) :
    k.digitChar.toLower ∈ hexDigits ∧ hexDigits.idxOf k.digitChar.toLower = k := by
  have hall : ∀ k < 16, k.digitChar.toLower ∈ hexDigits ∧
      hexDigits.idxOf k.digitChar.toLower = k := by decide
  exact hall k h

theorem isHexadecimal_toDigits (n : Nat) : IsHexadecimal (Nat.toDigits 16 n) n := by
  induction n using Nat.strong_induction_on with
  | _ n ih =>
    refine ⟨Nat.toDigits_ne_nil, ?_, ?_⟩ <;> rw [Nat.toDigits_eq_if (by decide)] <;> split
    · rename_i hlt
      exact fun ch hch => List.mem_singleton.mp hch ▸ (digitChar_hex hlt).1
    · rename_i hge
      have hfront := ih (n / 16) (by omega)
      intro ch hch
      obtain hch | hch := List.mem_append.mp hch
      · exact hfront.digits ch hch
      · exact List.mem_singleton.mp hch ▸ (digitChar_hex (Nat.mod_lt n (by decide))).1
    · rename_i hlt
      simp only [hexValue, List.reverse_singleton, List.map_cons, List.map_nil,
        Nat.ofDigits_singleton, (digitChar_hex hlt).2]
    · rename_i hge
      have hfront : Nat.ofDigits 16 ((Nat.toDigits 16 (n / 16)).reverse.map
          fun ch => hexDigits.idxOf ch.toLower) = n / 16 := (ih (n / 16) (by omega)).value
      simp only [hexValue, List.reverse_append, List.reverse_singleton, List.singleton_append,
        List.map_cons, Nat.ofDigits_cons, (digitChar_hex (Nat.mod_lt n (by decide))).2, hfront]
      exact Nat.mod_add_div n 16

end Text

namespace Rpc

/-- Whether a text is `0x` or `0X` and then hexadecimal digits that spell `n`. -/
def Denotes (s : String) (n : UInt64) : Prop :=
  ∃ x digits, s.toList = '0' :: x :: digits ∧ (x = 'x' ∨ x = 'X') ∧
    Text.IsHexadecimal digits n.toNat

def DenotesSigned (s : String) (n : UInt64) : Prop :=
  ∃ x digits, s.toList = '0' :: x :: '+' :: digits ∧ (x = 'x' ∨ x = 'X') ∧
    Text.IsHexadecimal digits n.toNat

theorem not_isHexadecimal_plus {digits : List Char} {k : Nat} :
    ¬ Text.IsHexadecimal ('+' :: digits) k := fun h =>
  absurd (h.digits '+' (List.mem_cons_self ..)) (by decide)

theorem Denotes.not_signed {s : String} {n m : UInt64} (h : Denotes s n) :
    ¬ DenotesSigned s m := by
  rintro ⟨y, signed, hsigned, -, -⟩
  obtain ⟨x, digits, hlist, -, hdigits⟩ := h
  rw [hlist, List.cons.injEq, List.cons.injEq] at hsigned
  obtain ⟨-, -, rfl⟩ := hsigned
  exact not_isHexadecimal_plus hdigits

theorem behindPrefix?_eq_some {s digits : List Char} :
    behindPrefix? s = some digits ↔ ∃ x, s = '0' :: x :: digits ∧ (x = 'x' ∨ x = 'X') := by
  unfold behindPrefix?
  constructor
  · intro h
    split at h <;> cases h
    · exact ⟨'x', rfl, .inl rfl⟩
    · exact ⟨'X', rfl, .inr rfl⟩
  · rintro ⟨x, rfl, rfl | rfl⟩ <;> rfl

theorem quantity?_eq_some {s : String} {n : UInt64} :
    quantity? s = some n ↔ Denotes s n ∨ DenotesSigned s n := by
  have hword : ∀ {digits : List Char} {k : Nat}, Text.hexadecimal? digits = some k →
      ((if k < UInt64.size then some (UInt64.ofNat k) else none) = some n ↔
        Text.IsHexadecimal digits n.toNat) := by
    intro digits k hdigits
    rw [Option.ite_none_right_eq_some, ← Text.hexadecimal?_eq_some, hdigits, Option.some.injEq,
      Option.some.injEq]
    constructor
    · rintro ⟨hlt, rfl⟩
      exact (UInt64.toNat_ofNat_of_lt' hlt).symm
    · rintro rfl
      exact ⟨n.toNat_lt_size, UInt64.ofNat_toNat⟩
  unfold quantity?
  constructor
  · intro h
    split at h
    · cases h
    rename_i behind hbehind
    obtain ⟨x, hs, hx⟩ := behindPrefix?_eq_some.mp hbehind
    dsimp only at h
    split at h
    · rename_i k hk
      have hdigits := (hword hk).mp h
      split at hdigits
      · exact .inr ⟨x, _, hs, hx, hdigits⟩
      · exact .inl ⟨x, _, hs, hx, hdigits⟩
    · cases h
  · rintro (⟨x, digits, hs, hx, hdigits⟩ | ⟨x, digits, hs, hx, hdigits⟩)
    · obtain ⟨ch, rest, rfl⟩ := List.exists_cons_of_ne_nil hdigits.ne_nil
      have hplus : ch ≠ '+' := fun h => not_isHexadecimal_plus (h ▸ hdigits)
      have hread := Text.hexadecimal?_eq_some.mpr hdigits
      simpa [behindPrefix?_eq_some.mpr ⟨x, hs, hx⟩, hplus, hread] using (hword hread).mpr hdigits
    · have hread := Text.hexadecimal?_eq_some.mpr hdigits
      simpa [behindPrefix?_eq_some.mpr ⟨x, hs, hx⟩, hread] using (hword hread).mpr hdigits

theorem quantity_denotes (n : UInt64) : Denotes (quantity n) n := by
  refine ⟨'x', Nat.toDigits 16 n.toNat, ?_, .inl rfl, Text.isHexadecimal_toDigits _⟩
  simp [quantity, Text.hexadecimal, String.toList_append]

/-- What is read as a quantity is the prefix and the digits of a word, with or without a plus sign
between them. Only where that sign stands does the reading differ from `Denotes`. What is printed
for a word is read back. -/
theorem quantity?_denotes (s : String) :
    (∀ n, quantity? s = some n ↔ Denotes s n ∨ DenotesSigned s n) ∧
    ((∀ n, quantity? s = some n ↔ Denotes s n) ↔ ∀ n, ¬ DenotesSigned s n) ∧
    ∀ n, quantity? (quantity n) = some n := by
  refine ⟨fun n => quantity?_eq_some, ?_, fun n => ?_⟩
  · constructor
    · intro h n hsigned
      exact ((h n).mp (quantity?_eq_some.mpr (.inr hsigned))).not_signed hsigned
    · intro h n
      rw [quantity?_eq_some, or_iff_left (h n)]
  · exact quantity?_eq_some.mpr (.inl (quantity_denotes n))

theorem quantity?_signed : quantity? "0x+1" = some 1 ∧ ¬ Denotes "0x+1" 1 := by
  refine ⟨by decide +kernel, fun h => h.not_signed (m := 1) ?_⟩
  have hdigits : ∀ ch ∈ ['1'], ch.toLower ∈ Text.hexDigits := fun ch hch =>
    List.mem_singleton.mp hch ▸ by decide
  exact ⟨'x', ['1'], by decide +kernel, .inl rfl, List.cons_ne_nil _ _, hdigits, by decide⟩

end Rpc

end RankedRelay
