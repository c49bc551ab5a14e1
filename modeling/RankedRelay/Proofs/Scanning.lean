import RankedRelay.Proofs.Grammar

namespace RankedRelay.Json

open Grammar

variable {c : Cause} {b : UInt8} {bs rest v m w ds : Bytes} {d : Digits} {r : Digits × Bytes}

theorem isDigit_iff : isDigit b = true ↔ 0x30 ≤ b ∧ b ≤ 0x39 := by
  simp only [isDigit, Bool.and_eq_true, decide_eq_true_eq]

theorem Grammar.Ends.head_not_digit (h : Ends rest) : ∀ b ∈ rest.head?, isDigit b = false := by
  intro b hb
  have hmem := h b hb
  simp only [List.mem_cons, List.not_mem_nil, or_false] at hmem
  rcases hmem with rfl | rfl | rfl | rfl | rfl | rfl | rfl <;> rfl

theorem takeWhile_digits (ds rest : Bytes) (hds : ∀ b ∈ ds, 0x30 ≤ b ∧ b ≤ 0x39)
    (hrest : ∀ b ∈ rest.head?, isDigit b = false) :
    (ds ++ rest).takeWhile isDigit = ds ∧ (ds ++ rest).dropWhile isDigit = rest := by
  have hall : ∀ b ∈ ds, isDigit b = true := fun b hb => isDigit_iff.mpr (hds b hb)
  rw [List.takeWhile_append_of_pos hall, List.dropWhile_append_of_pos hall]
  cases rest with
  | nil => simp
  | cons b t => simp [hrest b rfl]

theorem digitRun_takeWhile (bs : Bytes) (hb : isDigit b = true) :
    DigitRun (b :: bs.takeWhile isDigit) ∧
      b :: bs = (b :: bs.takeWhile isDigit) ++ bs.dropWhile isDigit := by
  refine ⟨⟨List.cons_ne_nil _ _, ?_⟩, ?_⟩
  · intro e he
    obtain rfl | he := List.mem_cons.mp he
    · exact isDigit_iff.mp hb
    · exact isDigit_iff.mp (List.mem_takeWhile_imp he)
  · rw [List.cons_append, List.takeWhile_append_dropWhile]

theorem digitRun_of_scan {negative : Bool} (h : scanExponentDigits c negative d bs = .ok r) :
    ∃ ds, DigitRun ds ∧ bs = ds ++ r.2 := by
  cases bs with
  | nil => cases h
  | cons b bs =>
    simp only [scanExponentDigits] at h
    split at h
    · rename_i hb
      cases h
      exact ⟨_, digitRun_takeWhile _ hb⟩
    · cases h

theorem exponent_of_scan (h : scanExponent c d bs = .ok r) : ∃ e, Exponent e ∧ bs = e ++ r.2 := by
  unfold scanExponent at h
  split at h
  case h_7 => cases h; exact ⟨[], .absent, rfl⟩
  all_goals
    obtain ⟨ds, hds, rfl⟩ := digitRun_of_scan h
    first
    | exact ⟨_, .signed (.inl rfl) (.inl rfl) hds, rfl⟩
    | exact ⟨_, .signed (.inr rfl) (.inl rfl) hds, rfl⟩
    | exact ⟨_, .signed (.inl rfl) (.inr rfl) hds, rfl⟩
    | exact ⟨_, .signed (.inr rfl) (.inr rfl) hds, rfl⟩
    | exact ⟨_, .plain (.inl rfl) hds, rfl⟩
    | exact ⟨_, .plain (.inr rfl) hds, rfl⟩

theorem fraction_of_scan (h : scanFraction c w bs = .ok r) :
    ∃ f e, Fraction f ∧ Exponent e ∧ bs = f ++ (e ++ r.2) := by
  unfold scanFraction at h
  split at h
  · cases h
  · rename_i b t
    split at h
    · rename_i hb
      obtain ⟨hrun, hbs⟩ := digitRun_takeWhile _ hb
      obtain ⟨e, he, hrest⟩ := exponent_of_scan h
      refine ⟨_, e, .present hrun, he, ?_⟩
      rw [hbs, hrest]
      rfl
    · cases h
  · obtain ⟨e, he, rfl⟩ := exponent_of_scan h
    exact ⟨[], e, .absent, he, rfl⟩

theorem magnitude_of_scan (h : scanDigits c bs = .ok r) : ∃ m, Magnitude m ∧ bs = m ++ r.2 := by
  -- Whatever the whole part is, the rest of the number is scanned behind it.
  have hfollow : ∀ {w bs' : Bytes}, Whole w → scanFraction c w bs' = .ok r →
      ∃ m, Magnitude m ∧ w ++ bs' = m ++ r.2 := by
    intro w bs' hw hscan
    obtain ⟨f, e, hf, he, rfl⟩ := fraction_of_scan hscan
    exact ⟨_, .mk hw hf he, by simp only [List.append_assoc]⟩
  cases bs with
  | nil => cases h
  | cons b t =>
    simp only [scanDigits] at h
    split at h
    · rename_i hzero
      subst hzero
      split at h
      · split at h
        · cases h
        · exact hfollow .zero h
      · exact hfollow .zero h
    · rename_i hzero
      split at h
      · rename_i hb
        obtain ⟨hrun, hbs⟩ := digitRun_takeWhile t hb
        rw [List.takeWhile_cons, if_pos hb] at h
        obtain ⟨m, hm, heq⟩ := hfollow (.run hrun hzero) h
        exact ⟨m, hm, hbs.trans heq⟩
      · cases h

theorem number_of_skip (h : skipNumber bs = .ok rest) : ∃ v, Number v ∧ bs = v ++ rest := by
  unfold skipNumber at h
  split at h
  · obtain ⟨r, hscan, rfl⟩ := map_ok h
    obtain ⟨m, hm, rfl⟩ := magnitude_of_scan hscan
    exact ⟨_, .negative hm, rfl⟩
  · obtain ⟨r, hscan, rfl⟩ := map_ok h
    obtain ⟨m, hm, rfl⟩ := magnitude_of_scan hscan
    exact ⟨_, .positive hm, rfl⟩

theorem Grammar.DigitRun.scan (hds : DigitRun ds) (negative : Bool) (hrest : Ends rest) :
    ∃ d', scanExponentDigits c negative d (ds ++ rest) = .ok (d', rest) := by
  obtain ⟨b, t, rfl, hb⟩ := hds.head
  obtain ⟨-, hdrop⟩ := takeWhile_digits t _
    (fun b hb => hds.digits b (List.mem_cons_of_mem _ hb)) hrest.head_not_digit
  simp only [List.cons_append, scanExponentDigits, isDigit_iff.mpr hb, if_true, hdrop]
  exact ⟨_, rfl⟩

theorem Grammar.Exponent.scan {e : Bytes} (he : Exponent e) (hrest : Ends rest) :
    ∃ d', scanExponent c d (e ++ rest) = .ok (d', rest) := by
  cases he with
  | absent =>
    cases rest with
    | nil => exact ⟨d, rfl⟩
    | cons b t =>
      have hb := hrest b rfl
      simp only [List.mem_cons, List.not_mem_nil, or_false] at hb
      rcases hb with rfl | rfl | rfl | rfl | rfl | rfl | rfl <;> exact ⟨d, rfl⟩
  | @signed e s ds he hs hds =>
    obtain ⟨d', hd'⟩ := hds.scan (c := c) (d := d) (s == 0x2d) hrest
    refine ⟨d', ?_⟩
    rw [← hd']
    rcases he with rfl | rfl <;> rcases hs with rfl | rfl <;> rfl
  | @plain e ds he hds =>
    obtain ⟨d', hd'⟩ := hds.scan (c := c) (d := d) false hrest
    refine ⟨d', ?_⟩
    obtain ⟨b, t, rfl, hlow, -⟩ := hds.head
    have hplus : b ≠ 0x2b := by rintro rfl; exact absurd hlow (by decide)
    have hminus : b ≠ 0x2d := by rintro rfl; exact absurd hlow (by decide)
    rw [← hd']
    rcases he with rfl | rfl <;> simp [scanExponent, hplus, hminus]

theorem Grammar.Exponent.head {e : Bytes} (he : Exponent e) (hrest : Ends rest) :
    ∀ b ∈ (e ++ rest).head?, isDigit b = false ∧ b ≠ 0x2e := by
  intro b hb
  cases he with
  | absent =>
    have hmem := hrest b hb
    simp only [List.mem_cons, List.not_mem_nil, or_false] at hmem
    rcases hmem with rfl | rfl | rfl | rfl | rfl | rfl | rfl <;> decide
  | plain he _ | signed he _ _ =>
    cases hb
    rcases he with rfl | rfl <;> decide

theorem Grammar.Fraction.head {f e : Bytes} (hf : Fraction f) (he : Exponent e)
    (hrest : Ends rest) : ∀ b ∈ (f ++ (e ++ rest)).head?, isDigit b = false := by
  intro b hb
  cases hf with
  | absent => exact (he.head hrest b hb).1
  | present _ =>
    cases hb
    rfl

theorem Grammar.Fraction.scan {f e : Bytes} (hf : Fraction f) (he : Exponent e)
    (hrest : Ends rest) : ∃ d', scanFraction c w (f ++ (e ++ rest)) = .ok (d', rest) := by
  cases hf with
  | absent =>
    obtain ⟨d', hd'⟩ := he.scan (c := c) (d := ⟨w, [], none⟩) hrest
    refine ⟨d', ?_⟩
    have hhead := he.head hrest
    rw [List.nil_append, ← hd']
    cases htext : e ++ rest with
    | nil => rfl
    | cons b t => simp [scanFraction, (hhead b (by rw [htext]; rfl)).2]
  | @present ds hds =>
    obtain ⟨b, t, rfl, hb⟩ := hds.head
    obtain ⟨-, hdrop⟩ := takeWhile_digits t (e ++ rest)
      (fun b hb => hds.digits b (List.mem_cons_of_mem _ hb)) fun b hb => (he.head hrest b hb).1
    obtain ⟨d', hd'⟩ :=
      he.scan (c := c) (d := ⟨w, (b :: (t ++ (e ++ rest))).takeWhile isDigit, none⟩) hrest
    refine ⟨d', ?_⟩
    simp only [List.cons_append, scanFraction, isDigit_iff.mpr hb, if_true, hdrop, hd']

theorem Grammar.Magnitude.scan (hm : Magnitude m) (hrest : Ends rest) :
    ∃ d', scanDigits c (m ++ rest) = .ok (d', rest) := by
  obtain @⟨w, f, e, hw, hf, he⟩ := hm
  have hhead := hf.head he hrest
  simp only [List.append_assoc]
  cases hw with
  | zero =>
    obtain ⟨d', hd'⟩ := hf.scan (c := c) (w := [0x30]) he hrest
    refine ⟨d', ?_⟩
    rw [← hd']
    cases htext : f ++ (e ++ rest) with
    | nil => rfl
    | cons b t =>
      have hb : isDigit b = false := hhead b (by rw [htext]; rfl)
      simp [scanDigits, hb]
  | @run b t hrun hzero =>
    obtain ⟨htake, hdrop⟩ := takeWhile_digits t _
      (fun b hb => hrun.digits b (List.mem_cons_of_mem _ hb)) hhead
    obtain ⟨d', hd'⟩ := hf.scan (c := c) (w := b :: t) he hrest
    have hb := isDigit_iff.mpr (hrun.digits b (List.mem_cons_self ..))
    refine ⟨d', ?_⟩
    simp only [List.cons_append, scanDigits, if_neg hzero, hb, if_true, List.takeWhile_cons, htake,
      hdrop, hd']

theorem skip_of_number (hv : Number v) (hrest : Ends rest) :
    skipNumber (v ++ rest) = .ok rest := by
  cases hv with
  | positive hm =>
    obtain ⟨d', hd'⟩ := hm.scan (c := .invalidNumber) hrest
    obtain ⟨b, t, rfl, hlow, -⟩ := hm.head
    have hminus : b ≠ 0x2d := by rintro rfl; exact absurd hlow (by decide)
    rw [List.cons_append] at hd' ⊢
    simp [skipNumber, hminus, hd', Except.map]
  | negative hm =>
    obtain ⟨d', hd'⟩ := hm.scan (c := .invalidNumber) hrest
    rw [List.cons_append, skipNumber, hd']
    rfl

theorem simpleEscape?_isSome : (simpleEscape? b).isSome = true ↔ b ∈ escapeLetters := by
  have hall : ∀ n < 256, (simpleEscape? (UInt8.ofNat n)).isSome = true ↔
      UInt8.ofNat n ∈ escapeLetters := by decide +kernel
  simpa only [UInt8.ofNat_toNat] using hall b.toNat b.toNat_lt

theorem hexValue?_isSome : (hexValue? b).isSome = true ↔ IsHex b := by
  simp only [hexValue?, IsHex, Bool.and_eq_true, decide_eq_true_eq]
  split
  · simp [*]
  split
  · simp [*]
  split
  · simp [*]
  · simp [*]

theorem fourHex?_isSome {a b c d : UInt8} :
    (fourHex? a b c d).isSome = true ↔ IsHex a ∧ IsHex b ∧ IsHex c ∧ IsHex d := by
  simp only [← hexValue?_isSome, fourHex?]
  cases hexValue? a <;> cases hexValue? b <;> cases hexValue? c <;> cases hexValue? d <;> simp

theorem chars_of_skip (h : skipString bs = .ok rest) :
    ∃ cs, Chars cs ∧ bs = cs ++ 0x22 :: rest := by
  fun_induction skipString bs with
  | case2 => cases h; exact ⟨[], .nil, rfl⟩
  | case3 a b c d bs hhex ih =>
    obtain ⟨cs, hcs, rfl⟩ := ih h
    obtain ⟨ha, hb, hc, hd⟩ := fourHex?_isSome.mp hhex
    exact ⟨_, .codePoint ha hb hc hd hcs, rfl⟩
  | case6 e bs _ _ hletter ih =>
    obtain ⟨cs, hcs, rfl⟩ := ih h
    exact ⟨_, .escape (simpleEscape?_isSome.mp hletter) hcs, rfl⟩
  | case10 b bs hquote _ _ hescape hlast hlow ih =>
    obtain ⟨cs, hcs, heq⟩ := ih h
    have hback : b ≠ 0x5c := by
      intro hb
      cases bs with
      | nil => exact hlast hb rfl
      | cons e t => exact hescape e t hb rfl
    refine ⟨b :: cs, .plain (UInt8.not_lt.mp hlow) hquote hback hcs, ?_⟩
    rw [heq]
    rfl
  | _ => cases h

theorem skip_of_chars {cs : Bytes} (hcs : Chars cs) :
    skipString (cs ++ 0x22 :: rest) = .ok rest := by
  induction hcs with
  | nil => simp [skipString]
  | plain hlow hquote hback _ ih =>
    simp [skipString, hback, UInt8.not_lt.mpr hlow, ih]
  | escape he _ ih =>
    rw [← ih]
    simp only [escapeLetters, List.mem_cons, List.not_mem_nil, or_false] at he
    rcases he with rfl | rfl | rfl | rfl | rfl | rfl | rfl | rfl <;> rfl
  | codePoint ha hb hc hd _ ih =>
    simp only [List.cons_append, skipString, fourHex?_isSome.mpr ⟨ha, hb, hc, hd⟩, if_true, ih]

end RankedRelay.Json
