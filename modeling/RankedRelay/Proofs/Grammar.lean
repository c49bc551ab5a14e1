import Mathlib.Data.List.DropRight
import RankedRelay.Json.Reading

namespace RankedRelay.Json.Grammar

def Blanks (bs : Bytes) : Prop := ∀ b ∈ bs, b = 0x20 ∨ b = 0x09 ∨ b = 0x0a ∨ b = 0x0d

structure DigitRun (bs : Bytes) : Prop where
  ne_nil : bs ≠ []
  digits : ∀ b ∈ bs, 0x30 ≤ b ∧ b ≤ 0x39

inductive Whole : Bytes → Prop where
  | zero : Whole [0x30]
  | run {b : UInt8} {bs : Bytes} : DigitRun (b :: bs) → b ≠ 0x30 → Whole (b :: bs)

inductive Fraction : Bytes → Prop where
  | absent : Fraction []
  | present {ds : Bytes} : DigitRun ds → Fraction (0x2e :: ds)

inductive Exponent : Bytes → Prop where
  | absent : Exponent []
  | plain {e : UInt8} {ds : Bytes} : e = 0x65 ∨ e = 0x45 → DigitRun ds → Exponent (e :: ds)
  | signed {e s : UInt8} {ds : Bytes} : e = 0x65 ∨ e = 0x45 → s = 0x2b ∨ s = 0x2d → DigitRun ds →
      Exponent (e :: s :: ds)

inductive Magnitude : Bytes → Prop where
  | mk {w f e : Bytes} : Whole w → Fraction f → Exponent e → Magnitude (w ++ (f ++ e))

inductive Number : Bytes → Prop where
  | positive {m : Bytes} : Magnitude m → Number m
  | negative {m : Bytes} : Magnitude m → Number (0x2d :: m)

def IsHex (b : UInt8) : Prop :=
  0x30 ≤ b ∧ b ≤ 0x39 ∨ 0x41 ≤ b ∧ b ≤ 0x46 ∨ 0x61 ≤ b ∧ b ≤ 0x66

def escapeLetters : Bytes := [0x22, 0x5c, 0x2f, 0x62, 0x66, 0x6e, 0x72, 0x74]

/-- What may stand between the quotes of a string. -/
inductive Chars : Bytes → Prop where
  | nil : Chars []
  | plain {b : UInt8} {bs : Bytes} : 0x20 ≤ b → b ≠ 0x22 → b ≠ 0x5c → Chars bs → Chars (b :: bs)
  | escape {e : UInt8} {bs : Bytes} : e ∈ escapeLetters → Chars bs → Chars (0x5c :: e :: bs)
  | codePoint {a b c d : UInt8} {bs : Bytes} : IsHex a → IsHex b → IsHex c → IsHex d → Chars bs →
      Chars (0x5c :: 0x75 :: a :: b :: c :: d :: bs)

def quoted (cs : Bytes) : Bytes := 0x22 :: (cs ++ [0x22])

def null : Bytes := [0x6e, 0x75, 0x6c, 0x6c]

def literals : List Bytes := [null, [0x74, 0x72, 0x75, 0x65], [0x66, 0x61, 0x6c, 0x73, 0x65]]

structure Item where
  before : Bytes
  value : Bytes
  behind : Bytes

structure Member where
  before : Bytes
  key : Bytes
  between : Bytes
  item : Item

namespace Item

def bytes (i : Item) : Bytes := i.before ++ (i.value ++ i.behind)

structure Spaced (i : Item) : Prop where
  before : Blanks i.before
  behind : Blanks i.behind

end Item

namespace Member

def bytes (m : Member) : Bytes :=
  m.before ++ 0x22 :: (m.key ++ 0x22 :: (m.between ++ 0x3a :: m.item.bytes))

structure Spaced (m : Member) : Prop where
  before : Blanks m.before
  key : Chars m.key
  between : Blanks m.between
  item : m.item.Spaced

end Member

/-- Pieces with commas between them, or only blanks. -/
def listed (w : Bytes) : List Bytes → Bytes
  | [] => w
  | piece :: pieces => piece ++ pieces.flatMap (0x2c :: ·)

def arrayText (w : Bytes) (items : List Item) : Bytes :=
  0x5b :: (listed w (items.map Item.bytes) ++ [0x5d])

def objectText (w : Bytes) (members : List Member) : Bytes :=
  0x7b :: (listed w (members.map Member.bytes) ++ [0x7d])

inductive Value : Bytes → Prop where
  | literal {v : Bytes} : v ∈ literals → Value v
  | number {v : Bytes} : Number v → Value v
  | string {cs : Bytes} : Chars cs → Value (quoted cs)
  | array {w : Bytes} {items : List Item} : Blanks w → (∀ i ∈ items, i.Spaced) →
      (∀ i ∈ items, Value i.value) → Value (arrayText w items)
  | object {w : Bytes} {members : List Member} : Blanks w → (∀ m ∈ members, m.Spaced) →
      (∀ m ∈ members, Value m.item.value) → Value (objectText w members)

structure Item.Grammatical (i : Item) : Prop extends i.Spaced where
  value : Value i.value

structure Member.Grammatical (m : Member) : Prop extends m.Spaced where
  value : Value m.item.value

/-- Exactly one value between blanks. -/
def Text (bs : Bytes) : Prop := ∃ i : Item, i.Grammatical ∧ bs = i.bytes

variable {b : UInt8} {w v bs rest : Bytes}

theorem quoted_append {cs : Bytes} : quoted cs ++ rest = 0x22 :: (cs ++ 0x22 :: rest) := by
  simp only [quoted, List.cons_append, List.append_assoc, List.nil_append]

theorem arrayText_append {items : List Item} :
    arrayText w items ++ rest = 0x5b :: (listed w (items.map Item.bytes) ++ 0x5d :: rest) := by
  simp only [arrayText, List.cons_append, List.append_assoc, List.nil_append]

theorem objectText_append {members : List Member} :
    objectText w members ++ rest =
      0x7b :: (listed w (members.map Member.bytes) ++ 0x7d :: rest) := by
  simp only [objectText, List.cons_append, List.append_assoc, List.nil_append]

theorem Item.bytes_append {i : Item} :
    i.bytes ++ rest = i.before ++ (i.value ++ (i.behind ++ rest)) := by
  simp only [Item.bytes, List.append_assoc]

theorem Member.bytes_append {m : Member} :
    m.bytes ++ rest =
      m.before ++ 0x22 :: (m.key ++ 0x22 :: (m.between ++ 0x3a :: (m.item.bytes ++ rest))) := by
  simp only [Member.bytes, List.cons_append, List.append_assoc]

theorem listed_cons_cons {p q : Bytes} {ps : List Bytes} :
    listed w (p :: q :: ps) = p ++ 0x2c :: listed w (q :: ps) := rfl

theorem isBlank_iff : isBlank b = true ↔ b = 0x20 ∨ b = 0x09 ∨ b = 0x0a ∨ b = 0x0d := by
  simp only [isBlank, Bool.or_eq_true, beq_iff_eq]
  tauto

theorem skipBlank_append (hw : Blanks w) : skipBlank (w ++ bs) = skipBlank bs :=
  List.dropWhile_append_of_pos fun b hb => isBlank_iff.mpr (hw b hb)

theorem skipBlank_of_not_blank (hb : isBlank b = false) : skipBlank (b :: bs) = b :: bs :=
  List.dropWhile_cons_of_neg (by simp [hb])

theorem exists_blanks (bs : Bytes) : ∃ w, Blanks w ∧ bs = w ++ skipBlank bs :=
  ⟨bs.takeWhile isBlank, fun _ hb => isBlank_iff.mp (List.mem_takeWhile_imp hb),
    List.takeWhile_append_dropWhile.symm⟩

theorem blanks_of_skipBlank (h : skipBlank bs = []) : Blanks bs := fun _ hb =>
  isBlank_iff.mp (List.dropWhile_eq_nil_iff.mp h _ hb)

/-- Whether the text behind a value cannot belong to it. -/
def Ends (rest : Bytes) : Prop :=
  ∀ b ∈ rest.head?, b ∈ [0x20, 0x09, 0x0a, 0x0d, 0x2c, 0x5d, 0x7d]

theorem Ends.cons (hb : b ∈ [0x20, 0x09, 0x0a, 0x0d, 0x2c, 0x5d, 0x7d]) : Ends (b :: bs) := by
  intro c hc
  cases hc
  exact hb

theorem Ends.behind (hw : Blanks w) (hrest : Ends rest) : Ends (w ++ rest) := by
  cases w with
  | nil => exact hrest
  | cons b w =>
    have hb := hw b (List.mem_cons_self ..)
    apply Ends.cons
    simp only [List.mem_cons]
    tauto

def Leads (b : UInt8) : Prop :=
  b ∈ [0x6e, 0x74, 0x66, 0x2d, 0x22, 0x5b, 0x7b] ∨ 0x30 ≤ b ∧ b ≤ 0x39

instance : DecidablePred Leads := fun _ => inferInstanceAs (Decidable (_ ∨ _))

theorem Leads.not_blank (h : Leads b) : isBlank b = false := by
  have hall : ∀ n < 256, Leads (UInt8.ofNat n) → isBlank (UInt8.ofNat n) = false := by
    decide +kernel
  simpa only [UInt8.ofNat_toNat] using hall b.toNat b.toNat_lt (by rwa [UInt8.ofNat_toNat])

theorem DigitRun.head (h : DigitRun bs) : ∃ b t, bs = b :: t ∧ 0x30 ≤ b ∧ b ≤ 0x39 := by
  obtain ⟨b, t, rfl⟩ := List.exists_cons_of_ne_nil h.ne_nil
  exact ⟨b, t, rfl, h.digits b (List.mem_cons_self ..)⟩

theorem Magnitude.head (h : Magnitude bs) : ∃ b t, bs = b :: t ∧ 0x30 ≤ b ∧ b ≤ 0x39 := by
  obtain ⟨hw, -, -⟩ := h
  cases hw with
  | zero => exact ⟨0x30, _, rfl, by decide, by decide⟩
  | run hrun _ =>
    have hb := hrun.digits _ (List.mem_cons_self ..)
    exact ⟨_, _, rfl, hb⟩

theorem Value.head (h : Value v) : ∃ b t, v = b :: t ∧ Leads b := by
  cases h with
  | literal h =>
    simp only [literals, null, List.mem_cons, List.not_mem_nil, or_false] at h
    rcases h with rfl | rfl | rfl <;> exact ⟨_, _, rfl, .inl (by decide)⟩
  | number h =>
    cases h with
    | positive h =>
      obtain ⟨b, t, rfl, hb⟩ := h.head
      exact ⟨b, t, rfl, .inr hb⟩
    | negative h => exact ⟨0x2d, _, rfl, .inl (by decide)⟩
  | string h => exact ⟨0x22, _, rfl, .inl (by decide)⟩
  | array => exact ⟨0x5b, _, rfl, .inl (by decide)⟩
  | object => exact ⟨0x7b, _, rfl, .inl (by decide)⟩

end RankedRelay.Json.Grammar
