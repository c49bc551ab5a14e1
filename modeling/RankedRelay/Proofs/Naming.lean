import Mathlib.Data.List.TakeWhile
import RankedRelay.Frontend.Answer
import RankedRelay.Proofs.Spelling

namespace RankedRelay

namespace Text

def value (s : List Char) : Nat := s.foldl (fun n ch => n * 10 + (ch.toNat - '0'.toNat)) 0

theorem digit?_eq (ch : Char) :
    digit? ch = if ch.isDigit then some (ch.toNat - '0'.toNat) else none := by
  simp only [digit?, Char.le_def, Char.isDigit, ge_iff_le, Bool.and_eq_true, decide_eq_true_eq]

theorem readDigits_eq (s : List Char) (acc : Nat) :
    readDigits 10 digit? s acc = if s.all Char.isDigit then
      some (s.foldl (fun n ch => n * 10 + (ch.toNat - '0'.toNat)) acc) else none := by
  induction s generalizing acc with
  | nil => rfl
  | cons ch rest ih =>
    rw [readDigits, digit?_eq]
    cases hdigit : ch.isDigit with
    | true =>
      simp only [if_true, Option.bind_eq_bind, Option.bind_some, ih, List.all_cons, hdigit,
        Bool.true_and, List.foldl_cons]
    | false =>
      simp only [Bool.false_eq_true, if_false, Option.bind_eq_bind, Option.bind_none,
        List.all_cons, hdigit, Bool.false_and]

/-- Whether a text consists of decimal digits, at least one, that spell `n`. -/
structure IsDecimal (s : List Char) (n : Nat) : Prop where
  ne_nil : s ≠ []
  digits : ∀ ch ∈ s, ch.isDigit = true
  value : Nat.ofDigitChars 10 s 0 = n

/-- A text without the zeros in front, except for the last digit of zero. -/
def withoutZeros (s : List Char) : List Char :=
  match s.dropWhile (· == '0') with
  | [] => ['0']
  | rest => rest

/-- Whether one of two texts is the other with zeros in front. -/
def SameButZeros (s t : List Char) : Prop :=
  ∃ k, s = List.replicate k '0' ++ t ∨ t = List.replicate k '0' ++ s

variable {s t : List Char} {n : Nat}

theorem value_eq (s : List Char) : value s = Nat.ofDigitChars 10 s 0 := by
  simp only [value, Nat.ofDigitChars_eq_foldl, Nat.mul_comm]

theorem decimal?_eq_some : decimal? s = some n ↔ IsDecimal s n := by
  cases s with
  | nil => exact iff_of_false nofun fun h => h.ne_nil rfl
  | cons ch rest =>
    have hread : decimal? (ch :: rest) = readDigits 10 digit? (ch :: rest) 0 := rfl
    rw [hread, readDigits_eq, Option.ite_none_right_eq_some, Option.some.injEq, List.all_eq_true]
    constructor
    · rintro ⟨hdigits, hvalue⟩
      exact ⟨List.cons_ne_nil _ _, hdigits, (value_eq _).symm.trans hvalue⟩
    · intro h
      exact ⟨h.digits, (value_eq _).trans h.value⟩

theorem ofDigitChars_zeros (k : Nat) (s : List Char) :
    Nat.ofDigitChars 10 (List.replicate k '0' ++ s) 0 = Nat.ofDigitChars 10 s 0 := by
  rw [Nat.ofDigitChars_append, Nat.ofDigitChars_replicate_zero, Nat.mul_zero]

theorem exists_zeros (hs : s ≠ []) : ∃ k, s = List.replicate k '0' ++ withoutZeros s := by
  have hfront : s.takeWhile (· == '0') = List.replicate (s.takeWhile (· == '0')).length '0' :=
    List.eq_replicate_iff.mpr ⟨rfl, fun ch hch => by simpa using List.mem_takeWhile_imp hch⟩
  have hsplit : s = s.takeWhile (· == '0') ++ s.dropWhile (· == '0') :=
    List.takeWhile_append_dropWhile.symm
  unfold withoutZeros
  split
  · rename_i hnone
    rw [hnone, List.append_nil] at hsplit
    rw [← hsplit] at hfront
    obtain ⟨k, hk⟩ := Nat.exists_eq_succ_of_ne_zero (mt List.length_eq_zero_iff.mp hs)
    refine ⟨k, ?_⟩
    rw [hfront, hk, List.replicate_succ']
  · exact ⟨_, hsplit.trans (by rw [← hfront])⟩

theorem withoutZeros_cases (s : List Char) :
    withoutZeros s = ['0'] ∨ ∃ ch rest, withoutZeros s = ch :: rest ∧ ch ≠ '0' := by
  have hhead := List.head?_dropWhile_not (· == '0') s
  unfold withoutZeros
  split
  · exact .inl rfl
  · rename_i hne
    obtain ⟨ch, rest, hrest⟩ := List.exists_cons_of_ne_nil hne
    rw [hrest] at hhead ⊢
    exact .inr ⟨ch, rest, rfl, by simpa using hhead⟩

theorem IsDecimal.zeros_iff {k : Nat} (ht : t ≠ []) :
    IsDecimal (List.replicate k '0' ++ t) n ↔ IsDecimal t n := by
  constructor
  · intro h
    refine ⟨ht, fun ch hch => h.digits ch (List.mem_append_right _ hch), ?_⟩
    rw [← ofDigitChars_zeros k]
    exact h.value
  · intro h
    refine ⟨by simp [ht], fun ch hch => ?_, ?_⟩
    · rcases List.mem_append.mp hch with hch | hch
      · rw [List.eq_of_mem_replicate hch]
        rfl
      · exact h.digits ch hch
    · rw [ofDigitChars_zeros]
      exact h.value

theorem toNat_of_isDigit {ch : Char} (h : ch.isDigit = true) :
    48 ≤ ch.toNat ∧ ch.toNat ≤ 57 := by
  simpa [Char.isDigit, UInt32.le_iff_toNat_le] using h

theorem digitChar_of_isDigit {ch : Char} (h : ch.isDigit = true) :
    ch.toNat - '0'.toNat < 10 ∧ (ch.toNat - '0'.toNat).digitChar = ch := by
  have hrange := toNat_of_isDigit h
  have hzero : '0'.toNat = 48 := rfl
  rw [hzero]
  have hlt : ch.toNat - 48 < 10 := by omega
  refine ⟨hlt, Char.toNat_inj.mp ?_⟩
  rw [Nat.toNat_digitChar_of_lt_ten hlt]
  omega

theorem toDigits_append (hs : ∀ ch ∈ s, ch.isDigit = true) (hn : 0 < n) :
    Nat.toDigits 10 n ++ s = Nat.toDigits 10 (Nat.ofDigitChars 10 s n) := by
  induction s generalizing n with
  | nil => simp [Nat.ofDigitChars]
  | cons ch rest ih =>
    obtain ⟨hch, hrest⟩ := List.forall_mem_cons.mp hs
    obtain ⟨hlt, hdigit⟩ := digitChar_of_isDigit hch
    have hstep := Nat.toDigits_append_toDigits (b := 10) (by decide) hn hlt
    rw [Nat.toDigits_of_lt_base hlt, hdigit] at hstep
    rw [Nat.ofDigitChars_cons, ← ih hrest (by omega), ← hstep]
    simp

/-- A number is printed as any digits that spell it, without the zeros in front. -/
theorem toDigits_of_isDecimal (h : IsDecimal s n) : Nat.toDigits 10 n = withoutZeros s := by
  obtain ⟨k, hk⟩ := exists_zeros h.ne_nil
  have hdigits : ∀ ch ∈ withoutZeros s, ch.isDigit = true := fun ch hch =>
    h.digits ch (hk ▸ List.mem_append_right _ hch)
  have hvalue : Nat.ofDigitChars 10 (withoutZeros s) 0 = n := by
    rw [← ofDigitChars_zeros k, ← hk]
    exact h.value
  rcases withoutZeros_cases s with hzero | ⟨ch, rest, hcons, hhead⟩
  · rw [hzero] at hvalue ⊢
    rw [← hvalue]
    rfl
  · rw [hcons] at hdigits hvalue ⊢
    obtain ⟨hch, hmore⟩ := List.forall_mem_cons.mp hdigits
    obtain ⟨hlt, hdigit⟩ := digitChar_of_isDigit hch
    have hpos : 0 < ch.toNat - '0'.toNat := by
      rcases Nat.eq_zero_or_pos (ch.toNat - '0'.toNat) with hzero | hpos
      · rw [hzero] at hdigit
        exact absurd hdigit.symm hhead
      · exact hpos
    have happend := toDigits_append hmore hpos
    rw [Nat.toDigits_of_lt_base hlt, hdigit] at happend
    rw [← hvalue, Nat.ofDigitChars_cons, Nat.mul_zero, Nat.zero_add, ← happend]
    rfl

theorem isDecimal_toDigits (n : Nat) : IsDecimal (Nat.toDigits 10 n) n :=
  ⟨Nat.toDigits_ne_nil, fun _ hch => Nat.isDigit_of_mem_toDigits (by decide) (by decide) hch,
    Nat.ofDigitChars_toDigits (by decide) (by decide)⟩

theorem IsDecimal.same_iff (hs : IsDecimal s n) (ht : t ≠ []) :
    IsDecimal t n ↔ SameButZeros s t := by
  constructor
  · intro h
    obtain ⟨j, hj⟩ := exists_zeros hs.ne_nil
    obtain ⟨k, hk⟩ := exists_zeros ht
    rw [← toDigits_of_isDecimal hs] at hj
    rw [← toDigits_of_isDecimal h] at hk
    rcases Nat.le_total j k with hle | hle
    · obtain ⟨i, rfl⟩ := Nat.exists_eq_add_of_le' hle
      refine ⟨i, .inr ?_⟩
      rw [hk, hj, List.replicate_add, List.append_assoc]
    · obtain ⟨i, rfl⟩ := Nat.exists_eq_add_of_le' hle
      refine ⟨i, .inl ?_⟩
      rw [hk, hj, List.replicate_add, List.append_assoc]
  · rintro ⟨k, rfl | rfl⟩
    · exact (IsDecimal.zeros_iff ht).mp hs
    · exact (IsDecimal.zeros_iff hs.ne_nil).mpr hs

end Text

namespace NetworkId

variable {s : String} {n : NetworkId}

theorem toList_text (n : NetworkId) : n.text.toList = Nat.toDigits 10 n.number.toNat := by
  rw [text, Nat.toString_eq_repr, Nat.toList_repr]

theorem parse_eq_ok : parse s = .ok n ↔ Text.IsDecimal s.toList n.number.toNat := by
  have hparse : parse s = .ok n ↔ parse? s = some n := by
    unfold parse
    cases parse? s <;> simp
  rw [hparse, parse?, ← Text.decimal?_eq_some]
  cases hread : Text.decimal? s.toList with
  | none => simp
  | some k =>
    simp only [Option.ite_none_right_eq_some, Option.some.injEq]
    constructor
    · rintro ⟨hlt, rfl⟩
      exact (UInt64.toNat_ofNat_of_lt' hlt).symm
    · rintro rfl
      exact ⟨n.number.toNat_lt_size, by rw [UInt64.ofNat_toNat]⟩

theorem parse_eq_error {e : RequestError} : parse s = .error e ↔
    e = .malformedNetwork s ∧ ∀ k, Text.IsDecimal s.toList k → UInt64.size ≤ k := by
  have hnumber : (∀ n, parse s ≠ .ok n) ↔ ∀ k, Text.IsDecimal s.toList k → UInt64.size ≤ k := by
    constructor
    · intro h k hk
      by_contra hlt
      refine h ⟨.ofNat k⟩ (parse_eq_ok.mpr ?_)
      rwa [UInt64.toNat_ofNat_of_lt' (Nat.not_le.mp hlt)]
    · intro h n hn
      exact absurd (h _ (parse_eq_ok.mp hn)) (Nat.not_le.mpr n.number.toNat_lt_size)
  rw [← hnumber, parse]
  cases parse? s <;> simp [eq_comm]

theorem accept_eq_admitted {maxBytes : Nat} {segment body : Bytes} (hsize : body.length ≤ maxBytes)
    (hs : segment.text? = some s) : Frontend.accept maxBytes segment body = .admitted n ↔
      Text.IsDecimal s.toList n.number.toNat := by
  rw [← parse_eq_ok]
  simp only [Frontend.accept, hs, if_neg (Nat.not_lt.mpr hsize)]
  cases parse s <;> simp

/-- A text is read as a number of 64 bits if it consists of digits that spell one, and is named in
the error otherwise. What is printed is read back, and what is read is printed without the zeros in
front. So two segments lead to one network if they differ in such zeros only. -/
theorem parse_exact (s : String) :
    (∀ n, parse s = .ok n ↔ Text.IsDecimal s.toList n.number.toNat) ∧
    (∀ e, parse s = .error e ↔
      e = .malformedNetwork s ∧ ∀ k, Text.IsDecimal s.toList k → UInt64.size ≤ k) ∧
    (∀ n : NetworkId, parse n.text = .ok n) ∧
    (∀ n, parse s = .ok n → n.text = String.ofList (Text.withoutZeros s.toList)) ∧
    ∀ {t : String} {maxBytes : Nat} {segment segment' body body' : Bytes} {n : NetworkId},
      body.length ≤ maxBytes → body'.length ≤ maxBytes → segment.text? = some s →
      segment'.text? = some t → t ≠ "" → Frontend.accept maxBytes segment body = .admitted n →
      (Frontend.accept maxBytes segment' body' = .admitted n ↔
        Text.SameButZeros s.toList t.toList) := by
  refine ⟨fun n => parse_eq_ok, fun e => parse_eq_error, fun n => ?_, fun n h => ?_, ?_⟩
  · rw [parse_eq_ok, toList_text]
    exact Text.isDecimal_toDigits _
  · rw [← Text.toDigits_of_isDecimal (parse_eq_ok.mp h), ← toList_text, String.ofList_toList]
  · intro t maxBytes segment segment' body body' n hsize hsize' hs ht hne h
    rw [accept_eq_admitted hsize' ht]
    exact ((accept_eq_admitted hsize hs).mp h).same_iff (mt String.toList_eq_nil_iff.mp hne)

theorem parse_exact_padded :
    let largest : NetworkId := ⟨.ofNat 18446744073709551615⟩
    Frontend.accept 0 (.ofText "00018446744073709551615") [] = .admitted largest ∧
    Frontend.accept 0 (.ofText "18446744073709551615") [] = .admitted largest ∧
    largest.text = "18446744073709551615" := by
  intro largest
  have hpadded : (Bytes.ofText "00018446744073709551615").text? =
      some "00018446744073709551615" := Bytes.text?_eq_some.mpr rfl
  have hplain : (Bytes.ofText "18446744073709551615").text? =
      some "18446744073709551615" := Bytes.text?_eq_some.mpr rfl
  have hdecimal : Text.IsDecimal "00018446744073709551615".toList largest.number.toNat :=
    ⟨List.cons_ne_nil _ _, List.all_eq_true.mp rfl, by decide⟩
  obtain ⟨hok, -, -, hprinted, hreaches⟩ := parse_exact "00018446744073709551615"
  have hadmitted : Frontend.accept 0 (.ofText "00018446744073709551615") [] = .admitted largest :=
    (accept_eq_admitted (Nat.le_refl 0) hpadded).mpr hdecimal
  refine ⟨hadmitted, (hreaches (Nat.le_refl 0) (Nat.le_refl 0) hpadded hplain (by decide)
    hadmitted).mpr ⟨3, .inl rfl⟩, ?_⟩
  rw [hprinted largest ((hok largest).mpr hdecimal)]
  rfl

end NetworkId

end RankedRelay
