import RankedRelay.Proofs.Scanning

namespace RankedRelay

namespace Bytes

theorem toList_loop (b : ByteArray) (i : Nat) (acc : Bytes) :
    ByteArray.toList.loop b i acc = acc.reverse ++ b.data.toList.drop i := by
  unfold ByteArray.toList.loop
  split
  · rename_i hi
    have hdrop : b.data.toList.drop i = b.data[i] :: b.data.toList.drop (i + 1) :=
      List.drop_eq_getElem_cons hi
    rw [toList_loop b (i + 1), hdrop, List.reverse_cons, List.append_assoc]
    simp [ByteArray.get!, hi]
  · rename_i hi
    rw [List.drop_eq_nil_of_le (Nat.le_of_not_lt hi), List.append_nil]
termination_by b.size - i

theorem ofText_eq (s : String) : ofText s = s.toByteArray.data.toList :=
  toList_loop s.toByteArray 0 []

theorem text?_eq_some {b : Bytes} {s : String} : text? b = some s ↔ b = ofText s := by
  rw [ofText_eq]
  unfold text? String.fromUTF8?
  constructor
  · intro h
    split at h
    · cases h
      rfl
    · cases h
  · rintro rfl
    exact dif_pos s.isValidUTF8

end Bytes

namespace Json

open Grammar

def escapes : List (UInt8 × UInt8) :=
  [(0x22, 0x22), (0x5c, 0x5c), (0x2f, 0x2f), (0x62, 0x08), (0x66, 0x0c), (0x6e, 0x0a), (0x72, 0x0d),
    (0x74, 0x09)]

def utf8 (n : Nat) : Bytes := String.utf8EncodeChar (Char.ofNat n)

/-- What the characters between the quotes of a string come to, in bytes. -/
inductive Unescapes : Bytes → Bytes → Prop where
  | nil : Unescapes [] []
  | plain {b : UInt8} {raw out : Bytes} : 0x20 ≤ b → b ≠ 0x22 → b ≠ 0x5c → Unescapes raw out →
      Unescapes (b :: raw) (b :: out)
  | escape {e b : UInt8} {raw out : Bytes} : (e, b) ∈ escapes → Unescapes raw out →
      Unescapes (0x5c :: e :: raw) (b :: out)
  | codePoint {a b c d : UInt8} {n : Nat} {raw out : Bytes} : fourHex? a b c d = some n →
      isLeading n = false → isTrailing n = false → Unescapes raw out →
      Unescapes (0x5c :: 0x75 :: a :: b :: c :: d :: raw) (utf8 n ++ out)
  | surrogates {a b c d a' b' c' d' : UInt8} {n m : Nat} {raw out : Bytes} :
      fourHex? a b c d = some n → isLeading n = true → fourHex? a' b' c' d' = some m →
      isTrailing m = true → Unescapes raw out →
      Unescapes (0x5c :: 0x75 :: a :: b :: c :: d :: 0x5c :: 0x75 :: a' :: b' :: c' :: d' :: raw)
        (utf8 (joinSurrogates n m) ++ out)

/-- Whether the characters between the quotes of a string spell a text. -/
def Spells (raw : Bytes) (s : String) : Prop := Unescapes raw (Bytes.ofText s)

variable {raw out acc bs rest : Bytes} {s t : String}

theorem simpleEscape?_eq_some {e b : UInt8} : simpleEscape? e = some b ↔ (e, b) ∈ escapes := by
  constructor
  · intro h
    have hmem := simpleEscape?_isSome.mp (h ▸ rfl : (simpleEscape? e).isSome = true)
    simp only [escapeLetters, List.mem_cons, List.not_mem_nil, or_false] at hmem
    rcases hmem with rfl | rfl | rfl | rfl | rfl | rfl | rfl | rfl <;> cases h <;> decide
  · intro h
    simp only [escapes, List.mem_cons, Prod.mk.injEq, List.not_mem_nil, or_false] at h
    rcases h with ⟨rfl, rfl⟩ | ⟨rfl, rfl⟩ | ⟨rfl, rfl⟩ | ⟨rfl, rfl⟩ | ⟨rfl, rfl⟩ | ⟨rfl, rfl⟩ |
      ⟨rfl, rfl⟩ | ⟨rfl, rfl⟩ <;> rfl

theorem isTrailing_of_isLeading {n : Nat} (h : isLeading n = true) : isTrailing n = false := by
  simp only [isLeading, isTrailing, Bool.and_eq_true, decide_eq_true_eq, Bool.and_eq_false_iff,
    decide_eq_false_iff_not] at h ⊢
  omega

theorem unescapes_of_readStringOnto {r : String × Bytes} (h : readStringOnto acc bs = .ok r) :
    ∃ raw out, Unescapes raw out ∧ bs = raw ++ 0x22 :: r.2 ∧
      acc.reverse ++ out = Bytes.ofText r.1 := by
  fun_induction readStringOnto acc bs with
  | case2 acc rest s hs =>
    cases h
    exact ⟨[], [], .nil, rfl, by rw [List.append_nil, Bytes.text?_eq_some.mp hs]⟩
  | case7 acc a b c d n hn htrailing hleading a' b' c' d' more m hm htrailing' ih =>
    obtain ⟨raw, out, hraw, rfl, hout⟩ := ih h
    refine ⟨_, _, .surrogates hn hleading hm htrailing' hraw, rfl, ?_⟩
    rw [← hout]
    simp [reversedUtf8, utf8]
  | case14 acc a b c d rest n hn htrailing hleading ih =>
    obtain ⟨raw, out, hraw, rfl, hout⟩ := ih h
    refine ⟨_, _, .codePoint hn (by simpa using hleading) (by simpa using htrailing) hraw, rfl, ?_⟩
    rw [← hout]
    simp [reversedUtf8, utf8]
  | case16 acc e rest _ _ b hb ih =>
    obtain ⟨raw, out, hraw, rfl, hout⟩ := ih h
    exact ⟨_, _, .escape (simpleEscape?_eq_some.mp hb) hraw, rfl, by rw [← hout]; simp⟩
  | case20 acc b rest hquote _ _ hescape hlast hlow ih =>
    obtain ⟨raw, out, hraw, hrest, hout⟩ := ih h
    have hback : b ≠ 0x5c := by
      intro hb
      cases rest with
      | nil => exact hlast hb rfl
      | cons e t => exact hescape e t hb rfl
    refine ⟨_, _, .plain (UInt8.not_lt.mp hlow) hquote hback hraw, by rw [hrest]; rfl, ?_⟩
    rw [← hout]
    simp
  | _ => cases h

theorem readStringOnto_of_unescapes (h : Unescapes raw out)
    (hs : acc.reverse ++ out = Bytes.ofText s) :
    readStringOnto acc (raw ++ 0x22 :: rest) = .ok (s, rest) := by
  induction h generalizing acc with
  | nil =>
    rw [List.append_nil] at hs
    simp [readStringOnto, Bytes.text?_eq_some.mpr hs]
  | @plain b raw out hlow hquote hback _ ih =>
    have hread : readStringOnto (b :: acc) (raw ++ 0x22 :: rest) = .ok (s, rest) :=
      ih (by simpa using hs)
    simp [readStringOnto, hback, UInt8.not_lt.mpr hlow, hread]
  | @escape e b raw out he _ ih =>
    have hread : readStringOnto (b :: acc) (raw ++ 0x22 :: rest) = .ok (s, rest) :=
      ih (by simpa using hs)
    have hcode : e ≠ 0x75 := by
      rintro rfl
      simp [escapes] at he
    simp [readStringOnto, hcode, simpleEscape?_eq_some.mpr he, hread]
  | @codePoint a b c d n raw out hn hleading htrailing _ ih =>
    have hread : readStringOnto (reversedUtf8 n ++ acc) (raw ++ 0x22 :: rest) = .ok (s, rest) :=
      ih (by simpa [reversedUtf8, utf8] using hs)
    simp [readStringOnto, hn, hleading, htrailing, hread]
  | @surrogates a b c d a' b' c' d' n m raw out hn hleading hm htrailing _ ih =>
    have hread : readStringOnto (reversedUtf8 (joinSurrogates n m) ++ acc) (raw ++ 0x22 :: rest) =
        .ok (s, rest) := ih (by simpa [reversedUtf8, utf8] using hs)
    simp [readStringOnto, hn, hleading, isTrailing_of_isLeading hleading, hm, htrailing, hread]

theorem readString_eq_ok :
    readString bs = .ok (s, rest) ↔ ∃ raw, Spells raw s ∧ bs = raw ++ 0x22 :: rest := by
  constructor
  · intro h
    unfold readString at h
    split at h
    · rename_i hread
      cases h
      obtain ⟨raw, out, hraw, hbs, hout⟩ := unescapes_of_readStringOnto hread
      have hspells : Spells raw s := by
        rw [Spells, ← hout]
        exact hraw
      exact ⟨raw, hspells, hbs⟩
    · cases h
    · cases h
  · rintro ⟨raw, hraw, rfl⟩
    rw [readString, readStringOnto_of_unescapes hraw rfl]

theorem Spells.read (h : Spells raw s) (rest : Bytes) :
    readString (raw ++ 0x22 :: rest) = .ok (s, rest) :=
  readString_eq_ok.mpr ⟨raw, h, rfl⟩

theorem spells_of_read (h : readString (raw ++ [0x22]) = .ok (s, [])) : Spells raw s := by
  obtain ⟨raw', hraw, heq⟩ := readString_eq_ok.mp h
  obtain rfl := List.append_cancel_right heq
  exact hraw

theorem Spells.unique (hs : Spells raw s) (ht : Spells raw t) : s = t := by
  have hread := (hs.read []).symm.trans (ht.read [])
  cases hread
  rfl

theorem Unescapes.chars (h : Unescapes raw out) : Chars raw := by
  have hhex : ∀ {a b c d : UInt8} {n : Nat}, fourHex? a b c d = some n →
      IsHex a ∧ IsHex b ∧ IsHex c ∧ IsHex d := by
    intro a b c d n hn
    rw [← fourHex?_isSome, hn]
    rfl
  induction h with
  | nil => exact .nil
  | plain hlow hquote hback _ ih => exact .plain hlow hquote hback ih
  | escape he _ ih =>
    have hletter := simpleEscape?_isSome.mp (by rw [simpleEscape?_eq_some.mpr he]; rfl)
    exact .escape hletter ih
  | codePoint hn _ _ _ ih =>
    obtain ⟨ha, hb, hc, hd⟩ := hhex hn
    exact .codePoint ha hb hc hd ih
  | surrogates hn _ hm _ _ ih =>
    obtain ⟨ha, hb, hc, hd⟩ := hhex hn
    obtain ⟨ha', hb', hc', hd'⟩ := hhex hm
    exact .codePoint ha hb hc hd (.codePoint ha' hb' hc' hd' ih)

theorem Grammar.Chars.quote_unique {cs cs' rest' : Bytes} (hcs : Chars cs) (hcs' : Chars cs')
    (h : cs ++ 0x22 :: rest = cs' ++ 0x22 :: rest') : cs = cs' ∧ rest = rest' := by
  have hskip : skipString (cs ++ 0x22 :: rest) = .ok rest := skip_of_chars hcs
  rw [h, skip_of_chars hcs'] at hskip
  cases hskip
  exact ⟨List.append_cancel_right h, rfl⟩

/-- Whether the text of a value is a string that spells `s`. -/
def Says (v : Bytes) (s : String) : Prop := ∃ raw, Spells raw s ∧ v = quoted raw

theorem Says.unique {v : Bytes} (hs : Says v s) (ht : Says v t) : s = t := by
  obtain ⟨raw, hraw, rfl⟩ := hs
  obtain ⟨raw', hraw', heq⟩ := ht
  obtain ⟨rfl, -⟩ := hraw.chars.quote_unique hraw'.chars (List.cons.inj heq).2
  exact hraw.unique hraw'

theorem Says.ne_null {v : Bytes} (h : Says v s) : v ≠ null := by
  obtain ⟨raw, -, rfl⟩ := h
  intro heq
  cases heq

end Json

end RankedRelay
