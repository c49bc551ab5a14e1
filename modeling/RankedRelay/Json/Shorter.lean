import RankedRelay.Json.Numeral
import RankedRelay.Json.Quotation

namespace RankedRelay.Json

theorem length_dropWhile_le {α : Type} (p : α → Bool) (l : List α) :
    (l.dropWhile p).length ≤ l.length := by
  induction l with
  | nil => simp
  | cons a l ih =>
    rw [List.dropWhile_cons]
    split
    · exact Nat.le_succ_of_le ih
    · exact Nat.le_refl _

theorem scanExponentDigits_shorter {atEnd : Cause} {negative : Bool} {d : Digits} {bs : Bytes}
    {r : Digits × Bytes} (h : scanExponentDigits atEnd negative d bs = .ok r) :
    r.2.length < bs.length := by
  cases bs with
  | nil => simp [scanExponentDigits] at h
  | cons b rest =>
    simp only [scanExponentDigits] at h
    split at h
    · cases h
      exact Nat.lt_succ_of_le (length_dropWhile_le ..)
    · simp at h

theorem scanExponent_le {atEnd : Cause} {d : Digits} {bs : Bytes} {r : Digits × Bytes}
    (h : scanExponent atEnd d bs = .ok r) : r.2.length ≤ bs.length := by
  unfold scanExponent at h
  split at h <;> first
    | (have h1 := scanExponentDigits_shorter h; simp only [List.length_cons]; omega)
    | (cases h; exact Nat.le_refl _)

theorem scanFraction_le {atEnd : Cause} {whole bs : Bytes} {r : Digits × Bytes}
    (h : scanFraction atEnd whole bs = .ok r) : r.2.length ≤ bs.length := by
  unfold scanFraction at h
  split at h
  · simp at h
  · rename_i b rest
    split at h
    · have h1 := scanExponent_le h
      have h2 := length_dropWhile_le isDigit rest
      simp only [List.length_cons]
      omega
    · simp at h
  · exact scanExponent_le h

theorem scanDigits_shorter {atEnd : Cause} {bs : Bytes} {r : Digits × Bytes}
    (h : scanDigits atEnd bs = .ok r) : r.2.length < bs.length := by
  cases bs with
  | nil => simp [scanDigits] at h
  | cons b rest =>
    simp only [scanDigits] at h
    split at h
    · split at h
      · split at h
        · simp at h
        · exact Nat.lt_succ_of_le (scanFraction_le h)
      · exact Nat.lt_succ_of_le (scanFraction_le h)
    · split at h
      · have h1 := scanFraction_le h
        have h2 := length_dropWhile_le isDigit rest
        simp only [List.length_cons]
        omega
      · simp at h

theorem skipNumber_shorter {bs rest : Bytes} (h : skipNumber bs = .ok rest) :
    rest.length < bs.length := by
  unfold skipNumber at h
  split at h
  · rename_i tail
    cases hs : scanDigits .invalidNumber tail with
    | error f => simp [hs, Except.map] at h
    | ok r =>
      simp only [hs, Except.map, Except.ok.injEq] at h
      have := scanDigits_shorter hs
      simp only [List.length_cons, ← h]
      omega
  · cases hs : scanDigits .invalidNumber bs with
    | error f => simp [hs, Except.map] at h
    | ok r =>
      simp only [hs, Except.map, Except.ok.injEq] at h
      exact h ▸ scanDigits_shorter hs

theorem readUnsigned_shorter {negative : Bool} {bs : Bytes} {r : Numeral × Bytes}
    (h : readUnsigned negative bs = .ok r) : r.2.length < bs.length := by
  unfold readUnsigned at h
  split at h
  · simp at h
  · rename_i digits rest hs
    have := scanDigits_shorter hs
    cases hn : numeralValue negative digits rest.length with
    | error f => simp [hn, Except.map] at h
    | ok n =>
      simp only [hn, Except.map, Except.ok.injEq] at h
      exact h ▸ this

theorem readNumber_shorter {bs : Bytes} {r : Numeral × Bytes} (h : readNumber bs = .ok r) :
    r.2.length < bs.length := by
  unfold readNumber at h
  split at h
  · exact Nat.lt_succ_of_lt (readUnsigned_shorter h)
  · exact readUnsigned_shorter h

theorem skipString_shorter {bs rest : Bytes} (h : skipString bs = .ok rest) :
    rest.length < bs.length := by
  fun_induction skipString bs <;> simp_all <;> omega

theorem readStringOnto_shorter {acc bs : Bytes} {r : String × Bytes}
    (h : readStringOnto acc bs = .ok r) : r.2.length < bs.length := by
  fun_induction readStringOnto acc bs generalizing r <;>
    first
    | (cases h; simp)
    | simp at h
    | (rename_i ih; have := ih h; simp only [List.length_cons] at *; omega)

theorem readString_shorter {bs : Bytes} {r : String × Bytes} (h : readString bs = .ok r) :
    r.2.length < bs.length := by
  unfold readString at h
  split at h
  · rename_i q hq
    cases h
    exact readStringOnto_shorter hq
  · simp at h
  · simp at h

end RankedRelay.Json
