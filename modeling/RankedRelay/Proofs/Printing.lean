import RankedRelay.Proofs.Naming
import RankedRelay.Proofs.Skipping
import RankedRelay.Proofs.Spelling

namespace RankedRelay

namespace Bytes

variable {s t : String}

theorem ofText_eq_flatMap (s : String) : ofText s = s.toList.flatMap String.utf8EncodeChar := by
  have hs : s.toByteArray = s.toList.utf8Encode := by
    rw [← String.toByteArray_ofList, String.ofList_toList]
  rw [ofText_eq, hs, List.utf8Encode, List.data_toByteArray, List.toList_toArray]

theorem ofText_append (s t : String) : ofText (s ++ t) = ofText s ++ ofText t := by
  simp only [ofText_eq_flatMap, String.toList_append, List.flatMap_append]

theorem ofText_join (l : List String) : ofText (String.join l) = l.flatMap ofText := by
  induction l with
  | nil => exact ofText_eq_flatMap ""
  | cons s l ih => rw [String.join_cons, ofText_append, ih, List.flatMap_cons]

theorem ofText_ascii (h : ∀ ch ∈ s.toList, ch.toNat < 0x80) :
    ofText s = s.toList.map fun ch => UInt8.ofNat ch.toNat := by
  rw [ofText_eq_flatMap, List.map_eq_flatMap]
  apply List.flatMap_congr
  intro ch hch
  have hlow : ch.val.toNat ≤ 0x7f := Nat.le_of_lt_succ (h ch hch)
  simp only [String.utf8EncodeChar, if_pos hlow]
  rfl

end Bytes

namespace Json

open Grammar

variable {c : Cause} {raw out bs rest : Bytes} {ch : Char}

def escaped (s : String) : Bytes := s.toList.flatMap fun ch => Bytes.ofText (escape ch)

theorem ofText_empty : Bytes.ofText "" = [] := Bytes.ofText_eq_flatMap ""

theorem ofText_minus : Bytes.ofText "-" = [0x2d] := Bytes.ofText_eq_flatMap "-"

theorem ofText_comma : Bytes.ofText "," = [0x2c] := Bytes.ofText_eq_flatMap ","

theorem ofText_quote (s : String) : Bytes.ofText (quote s) = quoted (escaped s) := by
  have hmark : Bytes.ofText "\"" = [0x22] := Bytes.ofText_eq_flatMap "\""
  rw [quote, Bytes.ofText_append, Bytes.ofText_append, Bytes.ofText_join, List.flatMap_map, hmark,
    quoted, List.append_assoc]
  rfl

theorem Unescapes.plains (hbs : ∀ b ∈ bs, 0x20 ≤ b ∧ b ≠ 0x22 ∧ b ≠ 0x5c)
    (h : Unescapes raw out) : Unescapes (bs ++ raw) (bs ++ out) := by
  induction bs with
  | nil => exact h
  | cons b bs ih =>
    obtain ⟨⟨hlow, hquote, hback⟩, hrest⟩ := List.forall_mem_cons.mp hbs
    exact .plain hlow hquote hback (ih hrest)

theorem plain_of_utf8EncodeChar (hlow : 0x20 ≤ ch.toNat) (hquote : ch ≠ '"') (hback : ch ≠ '\\') :
    ∀ b ∈ String.utf8EncodeChar ch, 0x20 ≤ b ∧ b ≠ 0x22 ∧ b ≠ 0x5c := by
  have hquote' : ch.val.toNat ≠ 0x22 := fun h => hquote (Char.toNat_inj.mp h)
  have hback' : ch.val.toNat ≠ 0x5c := fun h => hback (Char.toNat_inj.mp h)
  have hlow' : 0x20 ≤ ch.val.toNat := hlow
  intro b hb
  suffices h : 0x20 ≤ b.toNat ∧ b.toNat ≠ 0x22 ∧ b.toNat ≠ 0x5c by
    obtain ⟨hlow, hquote, hback⟩ := h
    refine ⟨hlow, fun he => hquote ?_, fun he => hback ?_⟩
    · exact congrArg UInt8.toNat he
    · exact congrArg UInt8.toNat he
  unfold String.utf8EncodeChar at hb
  dsimp only at hb
  split at hb
  · obtain rfl := List.mem_singleton.mp hb
    rw [UInt8.toNat_ofNat_of_lt' (by simp only [UInt8.size]; omega)]
    exact ⟨hlow', hquote', hback'⟩
  -- The bytes of a character beyond ASCII are all beyond ASCII themselves.
  · suffices h : 0x80 ≤ b.toNat by omega
    split at hb
    on_goal 2 => split at hb
    all_goals
      simp only [List.mem_cons, List.not_mem_nil, or_false, ← UInt8.toNat_inj,
        UInt8.toNat_ofNat'] at hb
      omega

theorem ofText_control : ∀ n < 0x20,
    let c := UInt8.ofNat (0x30 + n / 0x10)
    let d := UInt8.ofNat (n % 0x10).digitChar.toNat
    Bytes.ofText ((if n < 0x10 then "\\u000" else "\\u00") ++ Text.hexadecimal n) =
      [0x5c, 0x75, 0x30, 0x30, c, d] ∧ fourHex? 0x30 0x30 c d = some n := by
  decide +kernel

theorem unescapes_letter (e b : UInt8) {s : String}
    (hs : s.toList.flatMap String.utf8EncodeChar = [0x5c, e])
    (hch : String.utf8EncodeChar ch = [b]) (he : (e, b) ∈ escapes) (h : Unescapes raw out) :
    Unescapes (.ofText s ++ raw) (String.utf8EncodeChar ch ++ out) := by
  rw [Bytes.ofText_eq_flatMap, hs, hch]
  exact .escape he h

theorem unescapes_escape (ch : Char) (h : Unescapes raw out) :
    Unescapes (.ofText (escape ch) ++ raw) (String.utf8EncodeChar ch ++ out) := by
  unfold escape
  split
  · exact unescapes_letter 0x22 0x22 rfl rfl (by decide) h
  · exact unescapes_letter 0x5c 0x5c rfl rfl (by decide) h
  · exact unescapes_letter 0x62 0x08 rfl rfl (by decide) h
  · exact unescapes_letter 0x66 0x0c rfl rfl (by decide) h
  · exact unescapes_letter 0x6e 0x0a rfl rfl (by decide) h
  · exact unescapes_letter 0x72 0x0d rfl rfl (by decide) h
  · exact unescapes_letter 0x74 0x09 rfl rfl (by decide) h
  · rename_i hquote hback _ _ _ _ _
    split
    · rename_i hlow
      obtain ⟨htext, hhex⟩ := ofText_control ch.toNat hlow
      have hutf8 : String.utf8EncodeChar ch = utf8 ch.toNat := by rw [utf8, Char.ofNat_toNat]
      rw [htext, hutf8]
      have hleading : isLeading ch.toNat = false := by
        simp only [isLeading, Bool.and_eq_false_iff, decide_eq_false_iff_not]
        omega
      have htrailing : isTrailing ch.toNat = false := by
        simp only [isTrailing, Bool.and_eq_false_iff, decide_eq_false_iff_not]
        omega
      exact .codePoint hhex hleading htrailing h
    · rename_i hlow
      rw [Bytes.ofText_eq_flatMap, String.toList_singleton, List.flatMap_singleton]
      exact .plains (plain_of_utf8EncodeChar (Nat.not_lt.mp hlow) hquote hback) h

theorem spells_escaped (s : String) : Spells (escaped s) s := by
  rw [Spells, Bytes.ofText_eq_flatMap, escaped]
  induction s.toList with
  | nil => exact .nil
  | cons ch chars ih =>
    rw [List.flatMap_cons, List.flatMap_cons]
    exact unescapes_escape ch ih

theorem Grammar.Ends.scanFraction {w : Bytes} (hrest : Ends rest) :
    scanFraction c w rest = .ok (⟨w, [], none⟩, rest) := by
  cases rest with
  | nil => rfl
  | cons b rest =>
    have hb := hrest b rfl
    simp only [List.mem_cons, List.not_mem_nil, or_false] at hb
    rcases hb with rfl | rfl | rfl | rfl | rfl | rfl | rfl <;> rfl

theorem Grammar.Whole.head {w : Bytes} (hw : Whole w) :
    ∃ b t, w = b :: t ∧ 0x30 ≤ b ∧ b ≤ 0x39 := by
  obtain ⟨b, t, hbt, hb⟩ := (Magnitude.mk hw .absent .absent).head
  rw [List.append_nil, List.append_nil] at hbt
  exact ⟨b, t, hbt, hb⟩

theorem Grammar.Whole.scan {w : Bytes} (hw : Whole w) (hrest : Ends rest) :
    scanDigits c (w ++ rest) = .ok (⟨w, [], none⟩, rest) := by
  cases hw with
  | zero =>
    have hfollow : scanFraction c [0x30] rest = _ := hrest.scanFraction
    rw [← hfollow]
    cases rest with
    | nil => rfl
    | cons b rest => simp [scanDigits, hrest.head_not_digit b rfl]
  | @run b bs hrun hzero =>
    obtain ⟨htake, hdrop⟩ := takeWhile_digits bs rest
      (fun b hb => hrun.digits b (List.mem_cons_of_mem _ hb)) hrest.head_not_digit
    have hb := isDigit_iff.mpr (hrun.digits b (List.mem_cons_self ..))
    simp only [List.cons_append, scanDigits, if_neg hzero, hb, if_true, List.takeWhile_cons, htake,
      hdrop, hrest.scanFraction]

def digitBytes (n : Nat) : Bytes := (Nat.toDigits 10 n).map fun ch => UInt8.ofNat ch.toNat

theorem ofText_repr (n : Nat) : Bytes.ofText n.repr = digitBytes n := by
  have hascii : ∀ ch ∈ n.repr.toList, ch.toNat < 0x80 := by
    rw [Nat.toList_repr]
    intro ch hch
    have hrange := Text.toNat_of_isDigit ((Text.isDecimal_toDigits n).digits ch hch)
    omega
  rw [Bytes.ofText_ascii hascii, Nat.toList_repr, digitBytes]

theorem toNat_byte_of_isDigit (h : ch.isDigit = true) :
    (UInt8.ofNat ch.toNat).toNat = ch.toNat := by
  have hrange := Text.toNat_of_isDigit h
  apply UInt8.toNat_ofNat_of_lt'
  simp only [UInt8.size]
  omega

theorem digits_digitBytes (n : Nat) : ∀ b ∈ digitBytes n, 0x30 ≤ b ∧ b ≤ 0x39 := by
  intro b hb
  obtain ⟨ch, hch, rfl⟩ := List.mem_map.mp hb
  have hdigit := (Text.isDecimal_toDigits n).digits ch hch
  rw [UInt8.le_iff_toNat_le, UInt8.le_iff_toNat_le, toNat_byte_of_isDigit hdigit]
  exact Text.toNat_of_isDigit hdigit

theorem whole_digitBytes (n : Nat) : Whole (digitBytes n) := by
  have hdigits := digits_digitBytes n
  rcases Text.withoutZeros_cases (Nat.toDigits 10 n) with hzero | ⟨ch, chars, hcons, hhead⟩
  · rw [← Text.toDigits_of_isDecimal (Text.isDecimal_toDigits n)] at hzero
    rw [digitBytes, hzero]
    exact .zero
  · rw [← Text.toDigits_of_isDecimal (Text.isDecimal_toDigits n)] at hcons
    have hdigit : ch.isDigit = true :=
      (Text.isDecimal_toDigits n).digits ch (hcons ▸ List.mem_cons_self ..)
    rw [digitBytes, hcons, List.map_cons] at hdigits ⊢
    refine .run ⟨List.cons_ne_nil _ _, hdigits⟩ fun hzero => hhead (Char.toNat_inj.mp ?_)
    rw [← toNat_byte_of_isDigit hdigit, hzero]
    rfl

theorem accumulate_digits {chars : List Char} {bound acc : Nat}
    (hchars : ∀ ch ∈ chars, ch.isDigit = true) (h : Nat.ofDigitChars 10 chars acc ≤ bound) :
    accumulate bound (chars.map fun ch => UInt8.ofNat ch.toNat) acc =
      (Nat.ofDigitChars 10 chars acc, []) := by
  induction chars generalizing acc with
  | nil => rfl
  | cons ch chars ih =>
    obtain ⟨hch, hchars⟩ := List.forall_mem_cons.mp hchars
    have hvalue : acc * 10 + digitValue (UInt8.ofNat ch.toNat) =
        10 * acc + (ch.toNat - '0'.toNat) := by
      rw [digitValue, toNat_byte_of_isDigit hch, Nat.mul_comm]
      rfl
    rw [Nat.ofDigitChars_cons] at h ⊢
    have hnext : 10 * acc + (ch.toNat - '0'.toNat) ≤ bound := by
      refine Nat.le_trans ?_ h
      rw [Nat.ofDigitChars_eq_ofDigitChars_zero]
      exact Nat.le_add_right_of_le (Nat.le_mul_of_pos_left _ (Nat.pow_pos (by decide)))
    rw [← hvalue] at hnext
    simp only [List.map_cons, accumulate, if_pos hnext]
    rw [hvalue]
    exact ih hchars h

theorem accumulate_digitBytes {n : Nat} (h : n ≤ largestWord) :
    accumulate largestWord (digitBytes n) 0 = (n, []) := by
  have hvalue := (Text.isDecimal_toDigits n).value
  rw [digitBytes, accumulate_digits (Text.isDecimal_toDigits n).digits (hvalue.trans_le h), hvalue]

theorem readUnsigned_digitBytes {negative : Bool} {n : Nat} (hrest : Ends rest) :
    readUnsigned negative (digitBytes n ++ rest) =
      (numeralValue negative ⟨digitBytes n, [], none⟩ rest.length).map (·, rest) := by
  rw [readUnsigned, (whole_digitBytes n).scan hrest]

/-- Whether an integer is in the range that is read without rounding. -/
def Fits (n : Int) : Prop := -(Nat.pow 2 63 : Nat) ≤ n ∧ n < UInt64.size

theorem readNumber_text {n : Int} (hn : Fits n) (hrest : Ends rest) :
    readNumber (.ofText (Numeral.integer n).text ++ rest) = .ok (.integer n, rest) := by
  obtain ⟨hlow, hhigh⟩ := hn
  cases n with
  | ofNat n =>
    have htext : (Numeral.integer (.ofNat n)).text = n.repr := rfl
    have hle : n ≤ largestWord := Nat.le_sub_one_of_lt (Int.ofNat_lt.mp hhigh)
    obtain ⟨b, ds, hbs, hb, -⟩ := (whole_digitBytes n).head
    have hminus : b ≠ 0x2d := by
      rintro rfl
      exact absurd hb (by decide)
    have hread : readNumber (digitBytes n ++ rest) = readUnsigned false (digitBytes n ++ rest) := by
      simp [hbs, readNumber, hminus]
    rw [htext, ofText_repr, hread, readUnsigned_digitBytes hrest]
    simp [numeralValue, accumulate_digitBytes hle, Except.map]
  | negSucc n =>
    have htext : (Numeral.integer (.negSucc n)).text = "-" ++ (n + 1).repr := rfl
    have hle : n + 1 ≤ Nat.pow 2 63 := by omega
    have hword : n + 1 ≤ largestWord := Nat.le_trans hle (by decide)
    rw [htext, Bytes.ofText_append, ofText_minus, ofText_repr]
    have hread : readNumber ([0x2d] ++ digitBytes (n + 1) ++ rest) =
      readUnsigned true (digitBytes (n + 1) ++ rest) := rfl
    rw [hread, readUnsigned_digitBytes hrest]
    simp [numeralValue, accumulate_digitBytes hword, Except.map, hle, Int.negSucc_eq]

/-- Whether a value is one that its text gives back but for the order of members, with at most
`depth` brackets open at once. -/
inductive Regular : Nat → Value → Prop where
  | null {depth : Nat} : Regular depth .null
  | bool {depth : Nat} (b : Bool) : Regular depth (.bool b)
  | integer {depth : Nat} {n : Int} : Fits n → Regular depth (.number (.integer n))
  | string {depth : Nat} (s : String) : Regular depth (.string s)
  | array {depth : Nat} {items : List Value} : (∀ v ∈ items, Regular depth v) →
      Regular (depth + 1) (.array items)
  | object {depth : Nat} {members : List (String × Value)} : (∀ m ∈ members, Regular depth m.2) →
      Regular (depth + 1) (.object members)

mutual

/-- A value as its text is read again: the members of each object are put in order. -/
def Value.ordered : Value → Value
  | .null => .null
  | .bool b => .bool b
  | .number n => .number n
  | .string s => .string s
  | .array items => .array (orderedItems items)
  | .object members => .ofMembers (orderedMembers members)

def orderedItems : List Value → List Value
  | [] => []
  | v :: rest => v.ordered :: orderedItems rest

def orderedMembers : List (String × Value) → List (String × Value)
  | [] => []
  | (key, v) :: rest => (key, v.ordered) :: orderedMembers rest

end

theorem orderedItems_eq_map (items : List Value) :
    orderedItems items = items.map Value.ordered := by
  induction items with
  | nil => rfl
  | cons v rest ih => rw [orderedItems, ih, List.map_cons]

theorem ordered_map {α : Type} (write : α → Value) (l : List α) :
    (Value.array (l.map write)).ordered = .array (l.map fun a => (write a).ordered) := by
  rw [Value.ordered, orderedItems_eq_map, List.map_map]
  rfl

theorem ofMembers_of_pairwise {members : List (String × Value)}
    (h : (members.map Prod.fst).Pairwise (· < ·)) : Value.ofMembers members = .object members := by
  rw [Value.ofMembers, collect_of_pairwise (fun _ _ => String.lt_asymm) (List.pairwise_map.mp h)]

theorem member?_ofMembers (members : List (String × Value)) (key : String) :
    (Value.ofMembers members).member? key = (members.reverse.find? (·.1 == key)).map (·.2) := by
  rw [Value.ofMembers, Value.member?, find?_collect]

variable {limit depth : Nat} {v : Value} {items : List Value} {members : List (String × Value)}
  {outer : List (Frame Value String)} {first : Bool}

/-- Whether a value is read, from its text up to what stands behind it, wherever brackets leave
room for the `depth` that it takes. -/
structure Readable (limit depth : Nat) (v : Value) : Prop where
  head : ∃ b bs, Bytes.ofText v.text = b :: bs ∧ Leads b
  walk : ∀ {frames : List (Frame Value String)} {rest : Bytes}, frames.length + depth ≤ limit →
    Ends rest → (decoding limit).walk (.value frames) (.ofText v.text ++ rest) =
      (decoding limit).resume (deliver v.ordered frames) rest

theorem Readable.of_start {b : UInt8} {bs : Bytes} (htext : Bytes.ofText v.text = b :: bs)
    (hb : Leads b) (hstart : ∀ {frames : List (Frame Value String)} {rest : Bytes}, Ends rest →
      (decoding limit).start frames b (bs ++ rest) = .ok (deliver v.ordered frames, rest)) :
    Readable limit depth v where
  head := ⟨b, bs, htext, hb⟩
  walk _ hrest := by
    rw [htext, List.cons_append]
    exact Reading.walk_of_advance (skipBlank_of_not_blank hb.not_blank) (hstart hrest)

theorem Readable.null : Readable limit depth .null := by
  have htext : Bytes.ofText "null" = [0x6e, 0x75, 0x6c, 0x6c] := Bytes.ofText_eq_flatMap "null"
  exact .of_start htext (by decide) fun _ => rfl

theorem Readable.bool (b : Bool) : Readable limit depth (.bool b) := by
  cases b with
  | false =>
    have htext : Bytes.ofText "false" = [0x66, 0x61, 0x6c, 0x73, 0x65] :=
      Bytes.ofText_eq_flatMap "false"
    exact .of_start htext (by decide) fun _ => rfl
  | true =>
    have htext : Bytes.ofText "true" = [0x74, 0x72, 0x75, 0x65] := Bytes.ofText_eq_flatMap "true"
    exact .of_start htext (by decide) fun _ => rfl

theorem head_integer (n : Int) : ∃ b bs, Bytes.ofText (Numeral.integer n).text = b :: bs ∧
    (b = 0x2d ∨ 0x30 ≤ b ∧ b ≤ 0x39) := by
  cases n with
  | ofNat n =>
    obtain ⟨b, bs, hbs, hb⟩ := (whole_digitBytes n).head
    exact ⟨b, bs, (ofText_repr n).trans hbs, .inr hb⟩
  | negSucc n =>
    have hbs : Bytes.ofText ("-" ++ (n + 1).repr) = 0x2d :: digitBytes (n + 1) := by
      rw [Bytes.ofText_append, ofText_minus, ofText_repr]
      rfl
    exact ⟨0x2d, _, hbs, .inl rfl⟩

theorem Readable.integer {n : Int} (hn : Fits n) :
    Readable limit depth (.number (.integer n)) := by
  obtain ⟨b, bs, hbs, hb⟩ := head_integer n
  have hleads : Leads b := by
    rcases hb with rfl | hb
    · decide
    · exact .inr hb
  refine .of_start hbs hleads fun {frames rest} hrest => ?_
  have hread := readNumber_text hn hrest
  rw [hbs, List.cons_append] at hread
  have hother : b ≠ 0x6e ∧ b ≠ 0x74 ∧ b ≠ 0x66 := by
    refine ⟨?_, ?_, ?_⟩ <;> rintro rfl <;> revert hb <;> decide
  have hnumber : b = 0x2d ∨ isDigit b = true := hb.imp_right isDigit_iff.mpr
  simp only [Reading.start, hother, if_false, if_pos hnumber, decoding, hread, Except.map,
    Value.ordered]

theorem Readable.string (s : String) : Readable limit depth (.string s) := by
  refine .of_start (ofText_quote s) (by decide) fun {frames rest} _ => ?_
  rw [List.append_assoc]
  have hread := (spells_escaped s).read rest
  simp [Reading.start, isDigit, decoding, hread, Except.map, Value.ordered]

theorem walk_of_open {α κ : Type} {R : Reading α κ} {items : List α} {outer : List (Frame α κ)}
    {b : UInt8} (hb : Leads b) : R.walk (.element first items outer) (b :: bs) =
      R.walk (.value (.array items :: outer)) (b :: bs) := by
  have hclose : b ≠ 0x5d := by
    rintro rfl
    exact absurd hb (by decide)
  simp only [Reading.walk_eq, skipBlank_of_not_blank hb.not_blank, Reading.advance, if_neg hclose]

theorem Readable.element {done : List Value} (hv : Readable limit depth v)
    (hdepth : outer.length + 1 + depth ≤ limit) (hrest : Ends rest) :
    (decoding limit).walk (.element first done outer) (.ofText v.text ++ rest) =
      (decoding limit).walk (.behindElement (v.ordered :: done) outer) rest := by
  obtain ⟨b, bs, htext, hb⟩ := hv.head
  have hwalk : (decoding limit).walk (.value (.array done :: outer)) _ = _ :=
    hv.walk hdepth hrest
  rw [htext, List.cons_append] at hwalk ⊢
  rw [walk_of_open hb, hwalk]
  rfl

/-- Elements are read one after the other, up to the bracket. -/
theorem walk_itemsText {done : List Value} (hitems : ∀ w ∈ v :: items, Readable limit depth w)
    (hdepth : outer.length + 1 + depth ≤ limit) :
    (decoding limit).walk (.element first done outer)
        (.ofText (itemsText (v :: items)) ++ 0x5d :: rest) =
      (decoding limit).resume (deliver (.array (done.reverse ++ orderedItems (v :: items))) outer)
        rest := by
  obtain ⟨hv, hmore⟩ := List.forall_mem_cons.mp hitems
  -- What has been read goes in front of `done`; the bracket turns it round.
  induction items generalizing v done first with
  | nil =>
    rw [itemsText, hv.element hdepth (.cons (by decide))]
    have hclose : skipBlank (0x5d :: rest) = 0x5d :: rest := rfl
    rw [Reading.walk_of_advance hclose rfl, List.reverse_cons]
    rfl
  | cons w items ih =>
    obtain ⟨hw, hmore'⟩ := List.forall_mem_cons.mp hmore
    rw [itemsText, Bytes.ofText_append, Bytes.ofText_append, ofText_comma]
    simp only [List.append_assoc, List.cons_append, List.nil_append]
    rw [hv.element hdepth (.cons (by decide)), Reading.walk_of_reached rfl rfl,
      ih hmore hw hmore', List.reverse_cons, List.append_assoc]
    rfl

theorem ofText_memberText (key : String) (v : Value) : Bytes.ofText (memberText (key, v)) =
    0x22 :: (escaped key ++ 0x22 :: 0x3a :: Bytes.ofText v.text) := by
  have hcolon : Bytes.ofText ":" = [0x3a] := Bytes.ofText_eq_flatMap ":"
  rw [memberText, Bytes.ofText_append, Bytes.ofText_append, ofText_quote, hcolon,
    List.append_assoc, quoted_append]
  rfl

theorem Readable.member {key : String} {done : List (String × Value)}
    (hv : Readable limit depth v) (hdepth : outer.length + 1 + depth ≤ limit) (hrest : Ends rest) :
    (decoding limit).walk (.member first done outer) (.ofText (memberText (key, v)) ++ rest) =
      (decoding limit).walk (.behindMember ((key, v.ordered) :: done) outer) rest := by
  rw [ofText_memberText]
  simp only [List.cons_append, List.append_assoc]
  have hkey : (decoding limit).key (escaped key ++ 0x22 :: 0x3a :: (Bytes.ofText v.text ++ rest)) =
      .ok (key, 0x3a :: (Bytes.ofText v.text ++ rest)) := (spells_escaped key).read _
  have hstep : (decoding limit).advance 0x22
      (escaped key ++ 0x22 :: 0x3a :: (Bytes.ofText v.text ++ rest)) (.member first done outer) =
      .ok (.reached (.value (.member done key :: outer)), Bytes.ofText v.text ++ rest) := by
    simp only [Reading.advance, if_true, Reading.startMember, hkey]
    rfl
  have hwalk : (decoding limit).walk (.value (.member done key :: outer)) _ = _ :=
    hv.walk hdepth hrest
  rw [Reading.walk_of_reached rfl hstep, hwalk]
  rfl

theorem walk_membersText {m : String × Value} {done : List (String × Value)}
    (hmembers : ∀ n ∈ m :: members, Readable limit depth n.2)
    (hdepth : outer.length + 1 + depth ≤ limit) :
    (decoding limit).walk (.member first done outer)
        (.ofText (membersText (m :: members)) ++ 0x7d :: rest) =
      (decoding limit).resume
        (deliver (.ofMembers (done.reverse ++ orderedMembers (m :: members))) outer) rest := by
  obtain ⟨hm, hmore⟩ := List.forall_mem_cons.mp hmembers
  induction members generalizing m done first with
  | nil =>
    have hclose : skipBlank (0x7d :: rest) = 0x7d :: rest := rfl
    rw [membersText, hm.member hdepth (.cons (by decide)), Reading.walk_of_advance hclose rfl,
      List.reverse_cons]
    rfl
  | cons n members ih =>
    obtain ⟨hn, hmore'⟩ := List.forall_mem_cons.mp hmore
    rw [membersText, Bytes.ofText_append, Bytes.ofText_append, ofText_comma]
    simp only [List.append_assoc, List.cons_append, List.nil_append]
    rw [hm.member hdepth (.cons (by decide)), Reading.walk_of_reached rfl rfl,
      ih hmore hn hmore', List.reverse_cons, List.append_assoc]
    rfl

theorem mayOpen_decoding {frames : List (Frame Value String)}
    (h : frames.length + (depth + 1) ≤ limit) : (decoding limit).mayOpen frames = true := by
  simp only [Reading.mayOpen, decoding, decide_eq_true_eq]
  omega

theorem Readable.array (hitems : ∀ w ∈ items, Readable limit depth w) :
    Readable limit (depth + 1) (.array items) := by
  have htext : Bytes.ofText (Value.array items).text =
      0x5b :: (Bytes.ofText (itemsText items) ++ [0x5d]) := by
    have hopen : Bytes.ofText "[" = [0x5b] := Bytes.ofText_eq_flatMap "["
    have hclose : Bytes.ofText "]" = [0x5d] := Bytes.ofText_eq_flatMap "]"
    rw [Value.text, Bytes.ofText_append, Bytes.ofText_append, hopen, hclose]
    rfl
  refine ⟨⟨_, _, htext, by decide⟩, fun {frames rest} hdepth hrest => ?_⟩
  have hstep : (decoding limit).advance 0x5b (Bytes.ofText (itemsText items) ++ 0x5d :: rest)
      (.value frames) = .ok (.reached (.element true [] frames), _) :=
    if_pos (mayOpen_decoding hdepth)
  rw [htext, List.cons_append, List.append_assoc, List.singleton_append,
    Reading.walk_of_reached rfl hstep]
  cases items with
  | nil =>
    rw [itemsText, ofText_empty, List.nil_append]
    exact Reading.walk_of_advance rfl rfl
  | cons v items => exact walk_itemsText hitems (by omega)

theorem Readable.object (hmembers : ∀ m ∈ members, Readable limit depth m.2) :
    Readable limit (depth + 1) (.object members) := by
  have htext : Bytes.ofText (Value.object members).text =
      0x7b :: (Bytes.ofText (membersText members) ++ [0x7d]) := by
    have hopen : Bytes.ofText "\x7b" = [0x7b] := Bytes.ofText_eq_flatMap "\x7b"
    have hclose : Bytes.ofText "\x7d" = [0x7d] := Bytes.ofText_eq_flatMap "\x7d"
    rw [Value.text, Bytes.ofText_append, Bytes.ofText_append, hopen, hclose]
    rfl
  refine ⟨⟨_, _, htext, by decide⟩, fun {frames rest} hdepth hrest => ?_⟩
  have hstep : (decoding limit).advance 0x7b (Bytes.ofText (membersText members) ++ 0x7d :: rest)
      (.value frames) = .ok (.reached (.member true [] frames), _) :=
    if_pos (mayOpen_decoding hdepth)
  rw [htext, List.cons_append, List.append_assoc, List.singleton_append,
    Reading.walk_of_reached rfl hstep]
  cases members with
  | nil =>
    rw [membersText, ofText_empty, List.nil_append]
    exact Reading.walk_of_advance rfl rfl
  | cons m members =>
    exact walk_membersText hmembers (by omega)

theorem Regular.readable (h : Regular depth v) : Readable limit depth v := by
  induction h with
  | null => exact .null
  | bool b => exact .bool b
  | integer hn => exact .integer hn
  | string s => exact .string s
  | array _ ih => exact .array ih
  | object _ ih => exact .object ih

theorem decodeValue_text (h : Regular depth v) (hdepth : depth ≤ limit) :
    decodeValue limit (.ofText v.text) = .ok (v.ordered, []) := by
  have hends : Ends [] := by
    intro b hb
    cases hb
  have hwalk : (decoding limit).walk (.value []) (Bytes.ofText v.text ++ []) = _ :=
    h.readable.walk ((Nat.zero_add depth).trans_le hdepth) hends
  rwa [List.append_nil] at hwalk

/-- What is written is read again. -/
theorem decode_text (h : Regular depth v) (hdepth : depth ≤ maxDepth) :
    decode (.ofText v.text) = .ok v.ordered := by
  rw [decode, decodeValue_text h hdepth]
  rfl

theorem check_text (h : Regular depth v) : check (.ofText v.text) = .ok () := by
  rw [check, skipValue_of_decodeValue (decodeValue_text h (Nat.le_refl depth))]
  rfl

end Json

end RankedRelay
