import RankedRelay.Json.Decode

namespace RankedRelay.Json

/-- A scalar where something else is wanted is read and named; a bracket is not entered. -/
def unexpected {α : Type} (expected : String) (b : UInt8) (rest : Bytes) : Except Fault α :=
  let fault (found : Found) (behind : Bytes) : Except Fault α :=
    .error ⟨.mismatch (.invalidType found expected), behind.length⟩
  if b = 0x6e then (skipLetters [0x75, 0x6c, 0x6c] rest).bind (fault (.other "null"))
  else if b = 0x74 then (skipLetters [0x72, 0x75, 0x65] rest).bind (fault (.boolean true))
  else if b = 0x66 then (skipLetters [0x61, 0x6c, 0x73, 0x65] rest).bind (fault (.boolean false))
  else if b = 0x2d ∨ isDigit b then
    (readNumber (b :: rest)).bind fun
      | (.integer n, behind) => fault (.integer n) behind
      | (x, behind) => fault (.float x.text) behind
  else if b = 0x22 then (readString rest).bind fun r => fault (.string r.1) r.2
  else if b = 0x5b then fault .sequence (b :: rest)
  else if b = 0x7b then fault .mapping (b :: rest)
  else .error ⟨.expectedValue, rest.length⟩

theorem unexpected_ne_ok {α : Type} (expected : String) (b : UInt8) (rest : Bytes) (r : α) :
    unexpected expected b rest ≠ .ok r := by
  intro h
  have bind_error : ∀ {β : Type} (x : Except Fault β) (k : β → Except Fault α),
      (∀ b a, k b ≠ .ok a) → ∀ a, x.bind k ≠ .ok a := by
    intro β x k hk a hb
    cases x with
    | error e => simp [Except.bind] at hb
    | ok b => exact hk b a hb
  unfold unexpected at h
  simp only at h
  split at h
  · exact bind_error _ _ (by simp) _ h
  split at h
  · exact bind_error _ _ (by simp) _ h
  split at h
  · exact bind_error _ _ (by simp) _ h
  split at h
  · exact bind_error _ _ (by intro b a; split <;> simp) _ h
  split at h
  · exact bind_error _ _ (by simp) _ h
  split at h
  · simp at h
  split at h <;> simp at h

def readText (bs : Bytes) : Except Fault (String × Bytes) :=
  match skipBlank bs with
  | [] => .error ⟨.endOfValue, 0⟩
  | b :: rest => if b = 0x22 then readString rest else unexpected "a string" b rest

def readInt64 (bs : Bytes) : Except Fault (Int × Bytes) :=
  match skipBlank bs with
  | [] => .error ⟨.endOfValue, 0⟩
  | b :: rest =>
    if b = 0x2d ∨ isDigit b then
      match readNumber (b :: rest) with
      | .error f => .error f
      | .ok (.integer n, behind) =>
        if n < Nat.pow 2 63 then .ok (n, behind)
        else .error ⟨.mismatch (.invalidValue (.integer n) "i64"), behind.length⟩
      | .ok (x, behind) => .error ⟨.mismatch (.invalidType (.float x.text) "i64"), behind.length⟩
    else unexpected "i64" b rest

def readOptional {α : Type} (read : Bytes → Except Fault (α × Bytes)) (bs : Bytes) :
    Except Fault (Option α × Bytes) :=
  match skipBlank bs with
  | 0x6e :: rest => (skipLetters [0x75, 0x6c, 0x6c] rest).map (none, ·)
  | _ => (read bs).map fun r => (some r.1, r.2)

theorem readText_shorter {bs : Bytes} {r : String × Bytes} (h : readText bs = .ok r) :
    r.2.length < bs.length := by
  have h0 := skipBlank_le bs
  unfold readText at h
  split at h
  · simp at h
  · rename_i b rest hb
    rw [hb, List.length_cons] at h0
    split at h
    · have := readString_shorter h; omega
    · exact absurd h (unexpected_ne_ok _ _ _ _)

theorem readInt64_shorter {bs : Bytes} {r : Int × Bytes} (h : readInt64 bs = .ok r) :
    r.2.length < bs.length := by
  have h0 := skipBlank_le bs
  unfold readInt64 at h
  split at h
  · simp at h
  · rename_i b rest hb
    rw [hb] at h0
    split at h
    · split at h
      · simp at h
      · rename_i n behind hn
        have h1 : behind.length < _ := readNumber_shorter hn
        split at h
        · cases h; show behind.length < bs.length; omega
        · simp at h
      · simp at h
    · exact absurd h (unexpected_ne_ok _ _ _ _)

theorem readOptional_shorter {α : Type} {read : Bytes → Except Fault (α × Bytes)}
    (hread : ∀ bs r, read bs = .ok r → r.2.length < bs.length) {bs : Bytes}
    {r : Option α × Bytes} (h : readOptional read bs = .ok r) : r.2.length < bs.length := by
  have h0 := skipBlank_le bs
  unfold readOptional at h
  split at h
  · rename_i rest hb
    rw [hb, List.length_cons] at h0
    obtain ⟨behind, hs, rfl⟩ := map_ok h
    have h1 := skipLetters_le hs
    show behind.length < bs.length
    omega
  · obtain ⟨q, hq, rfl⟩ := map_ok h
    exact hread _ _ hq

structure Field (σ : Type) where
  name : String
  optional : Bool
  isSet : σ → Bool
  read : σ → Bytes → Except Fault (σ × Bytes)
  shorter : ∀ g bs r, read g bs = .ok r → r.2.length < bs.length

structure Schema (σ : Type) where
  title : String
  empty : σ
  fields : List (Field σ)

/-- A fault with its place, or a mismatch of the record and the text left when it was found. -/
inductive Stop where
  | fault (f : Fault)
  | mismatch (m : Mismatch) (bs : Bytes)

def fail {α : Type} (c : Cause) (unread : Nat) : Except Stop α := .error (.fault ⟨c, unread⟩)

def lift {α : Type} : Except Fault α → Except Stop α
  | .ok a => .ok a
  | .error f => .error (.fault f)

theorem lift_ok {α : Type} {x : Except Fault α} {a : α} (h : lift x = .ok a) : x = .ok a := by
  cases x <;> simp_all [lift]

def nextKey (first : Bool) (bs : Bytes) : Except Stop (Option Bytes) :=
  match skipBlank bs with
  | [] => fail .endOfObject 0
  | b :: rest =>
    if b = 0x7d then .ok none
    else if first then
      if b = 0x22 then .ok (some rest) else fail .keyMustBeString rest.length
    else if b = 0x2c then
      match skipBlank rest with
      | [] => fail .endOfValue 0
      | c :: more =>
        if c = 0x22 then .ok (some more)
        else if c = 0x7d then fail .trailingComma more.length
        else fail .keyMustBeString more.length
    else fail .expectedObjectCommaOrEnd rest.length

def nextElement (first : Bool) (bs : Bytes) : Except Stop (Option Bytes) :=
  match skipBlank bs with
  | [] => fail .endOfList 0
  | b :: rest =>
    if b = 0x5d then .ok none
    else if first then .ok (some (b :: rest))
    else if b = 0x2c then
      match skipBlank rest with
      | [] => fail .endOfValue 0
      | c :: more => if c = 0x5d then fail .trailingComma more.length else .ok (some (c :: more))
    else fail .expectedListCommaOrEnd rest.length

def passColon (bs : Bytes) : Except Stop Bytes :=
  match skipBlank bs with
  | [] => fail .endOfObject 0
  | b :: rest => if b = 0x3a then .ok rest else fail .expectedColon rest.length

def closeObject (bs : Bytes) : Except Fault Bytes :=
  match skipBlank bs with
  | [] => .error ⟨.endOfObject, 0⟩
  | b :: rest =>
    if b = 0x7d then .ok rest
    else .error ⟨if b = 0x2c then .trailingComma else .trailingCharacters, rest.length⟩

def closeArray (bs : Bytes) : Except Fault Bytes :=
  match skipBlank bs with
  | [] => .error ⟨.endOfList, 0⟩
  | b :: rest =>
    if b = 0x5d then .ok rest
    else if b = 0x2c then
      match skipBlank rest with
      | [] => .error ⟨.trailingCharacters, 0⟩
      | c :: more =>
        .error ⟨if c = 0x5d then .trailingComma else .trailingCharacters, more.length⟩
    else .error ⟨.trailingCharacters, rest.length⟩

/-- How much is left once the end of a broken object has been looked for. -/
def leftAfterObject (bs : Bytes) : Nat :=
  match skipBlank bs with
  | 0x7d :: rest => rest.length
  | rest => rest.length

def leftAfterArray (bs : Bytes) : Nat :=
  match skipBlank bs with
  | 0x5d :: rest => rest.length
  | 0x2c :: rest => (skipBlank rest).length
  | rest => rest.length

theorem nextKey_shorter {first : Bool} {bs rest : Bytes} (h : nextKey first bs = .ok (some rest)) :
    rest.length < bs.length := by
  have h0 := skipBlank_le bs
  unfold nextKey at h
  split at h
  · simp [fail] at h
  · rename_i b tail hb
    rw [hb, List.length_cons] at h0
    split at h
    · simp at h
    split at h
    · split at h
      · cases h; omega
      · simp [fail] at h
    split at h
    · have h1 := skipBlank_le tail
      split at h
      · simp [fail] at h
      · rename_i c more hc
        rw [hc, List.length_cons] at h1
        split at h
        · cases h; omega
        · split at h <;> simp [fail] at h
    · simp [fail] at h

theorem passColon_shorter {bs rest : Bytes} (h : passColon bs = .ok rest) :
    rest.length < bs.length := by
  have h0 := skipBlank_le bs
  unfold passColon at h
  split at h
  · simp [fail] at h
  · rename_i b tail hb
    rw [hb, List.length_cons] at h0
    split at h
    · cases h; omega
    · simp [fail] at h

theorem nextElement_le {first : Bool} {bs rest : Bytes}
    (h : nextElement first bs = .ok (some rest)) : rest.length ≤ bs.length := by
  have h0 := skipBlank_le bs
  unfold nextElement at h
  split at h
  · simp [fail] at h
  · rename_i b tail hb
    rw [hb] at h0
    split at h
    · simp at h
    split at h
    · cases h; exact h0
    split at h
    · have h1 := skipBlank_le tail
      split at h
      · simp [fail] at h
      · rename_i c more hc
        rw [hc] at h1
        split at h
        · simp [fail] at h
        · cases h
          rw [List.length_cons] at h0
          omega
    · simp [fail] at h

namespace Schema

variable {σ : Type} (S : Schema σ)

/-- The value of a member whose key has been read: kept if the key is known, else skipped. -/
def readMember (g : σ) (key : String) (bs : Bytes) : Except Stop (σ × Bytes) :=
  match S.fields.find? (·.name == key) with
  | some f =>
    if f.isSet g then .error (.mismatch (.duplicateField f.name) bs)
    else
      match passColon bs with
      | .error e => .error e
      | .ok rest => lift (f.read g rest)
  | none =>
    match passColon bs with
    | .error e => .error e
    | .ok rest => (lift (skipValue rest)).map (g, ·)

variable {S} in
theorem readMember_shorter {g : σ} {key : String} {bs : Bytes} {r : σ × Bytes}
    (h : S.readMember g key bs = .ok r) : r.2.length < bs.length := by
  unfold readMember at h
  split at h
  · rename_i f hf
    split at h
    · simp at h
    split at h
    · simp at h
    · rename_i rest hc
      have h1 := passColon_shorter hc
      have h2 := f.shorter _ _ _ (lift_ok h)
      omega
  · split at h
    · simp at h
    · rename_i rest hc
      have h1 := passColon_shorter hc
      obtain ⟨behind, hs, rfl⟩ := map_ok h
      have h2 := skipValue_shorter (lift_ok hs)
      show behind.length < bs.length
      omega

def readMembers (first : Bool) (g : σ) (bs : Bytes) : Except Stop (σ × Bytes) :=
  match _hk : nextKey first bs with
  | .error e => .error e
  | .ok none => .ok (g, bs)
  | .ok (some quoted) =>
    match _hs : readString quoted with
    | .error f => .error (.fault f)
    | .ok (key, behind) =>
      match _hm : S.readMember g key behind with
      | .error e => .error e
      | .ok (g', rest) => readMembers false g' rest
termination_by bs.length
decreasing_by
  have h1 := nextKey_shorter _hk
  have h2 : behind.length < quoted.length := readString_shorter _hs
  have h3 : rest.length < behind.length := readMember_shorter _hm
  omega

/-- The elements of an array, one for each field as far as they go. -/
def readElements (first : Bool) (index : Nat) (g : σ) : List (Field σ) → Bytes →
    Except Stop (σ × Bytes)
  | [], bs => .ok (g, bs)
  | f :: fields, bs =>
    match nextElement first bs with
    | .error e => .error e
    | .ok none =>
      if f.optional then readElements first (index + 1) g fields bs
      else
        let noun := if S.fields.length = 1 then "element" else "elements"
        .error (.mismatch
          (.invalidLength index s!"{S.title} with {S.fields.length} {noun}") bs)
    | .ok (some rest) =>
      match lift (f.read g rest) with
      | .error e => .error e
      | .ok (g', behind) => readElements false (index + 1) g' fields behind

def missing? (g : σ) : Option String :=
  (S.fields.find? fun f => !f.optional && !f.isSet g).map (·.name)

def readObject (bs : Bytes) : Except Fault (σ × Bytes) :=
  match S.readMembers true S.empty bs with
  | .error (.fault f) => .error f
  | .error (.mismatch m rest) => .error ⟨.mismatch m, leftAfterObject rest⟩
  | .ok (g, rest) =>
    match S.missing? g with
    | some name => .error ⟨.mismatch (.missingField name), leftAfterObject rest⟩
    | none => (closeObject rest).map (g, ·)

def readArray (bs : Bytes) : Except Fault (σ × Bytes) :=
  match S.readElements true 0 S.empty S.fields bs with
  | .error (.fault f) => .error f
  | .error (.mismatch m rest) => .error ⟨.mismatch m, leftAfterArray rest⟩
  | .ok (g, rest) => (closeArray rest).map (g, ·)

variable {S} in
theorem readMembers_le {first : Bool} {g : σ} {bs : Bytes} {r : σ × Bytes}
    (h : S.readMembers first g bs = .ok r) : r.2.length ≤ bs.length := by
  fun_induction readMembers S first g bs with
  | case1 => simp at h
  | case2 => cases h; exact Nat.le_refl _
  | case3 => simp at h
  | case4 => simp at h
  | case5 first g bs quoted hk key behind hs g' rest hm ih =>
    have h1 := nextKey_shorter hk
    have h2 : behind.length < quoted.length := readString_shorter hs
    have h3 : rest.length < behind.length := readMember_shorter hm
    have h4 := ih h
    omega

variable {S} in
theorem readElements_le {first : Bool} {index : Nat} {g : σ} {fields : List (Field σ)}
    {bs : Bytes} {r : σ × Bytes} (h : S.readElements first index g fields bs = .ok r) :
    r.2.length ≤ bs.length := by
  fun_induction readElements S first index g fields bs with
  | case1 => cases h; exact Nat.le_refl _
  | case2 => simp at h
  | case3 _ _ _ _ _ _ _ _ ih => exact ih h
  | case4 => simp at h
  | case5 => simp at h
  | case6 _ _ _ f _ bs rest hn g' behind hr ih =>
    have h1 := nextElement_le hn
    have h2 : behind.length < rest.length := f.shorter _ _ _ (lift_ok hr)
    have h3 := ih h
    omega

variable {S} in
theorem readObject_le {bs : Bytes} {r : σ × Bytes} (h : S.readObject bs = .ok r) :
    r.2.length ≤ bs.length := by
  unfold readObject at h
  split at h
  · simp at h
  · simp at h
  · rename_i g rest hm
    split at h
    · simp at h
    · obtain ⟨behind, hc, rfl⟩ := map_ok h
      have h1 : rest.length ≤ bs.length := readMembers_le hm
      have h2 := skipBlank_le rest
      unfold closeObject at hc
      split at hc
      · simp at hc
      · rename_i b tail hb
        rw [hb, List.length_cons] at h2
        split at hc
        · cases hc; show behind.length ≤ bs.length; omega
        · simp at hc

variable {S} in
theorem readArray_le {bs : Bytes} {r : σ × Bytes} (h : S.readArray bs = .ok r) :
    r.2.length ≤ bs.length := by
  unfold readArray at h
  split at h
  · simp at h
  · simp at h
  · rename_i g rest hm
    obtain ⟨behind, hc, rfl⟩ := map_ok h
    have h1 : rest.length ≤ bs.length := readElements_le hm
    have h2 := skipBlank_le rest
    unfold closeArray at hc
    split at hc
    · simp at hc
    · rename_i b tail hb
      rw [hb, List.length_cons] at h2
      split at hc
      · cases hc; show behind.length ≤ bs.length; omega
      · split at hc
        · split at hc <;> simp at hc
        · simp at hc

/-- A record, as an object or as an array. -/
def read (bs : Bytes) : Except Fault (σ × Bytes) :=
  match skipBlank bs with
  | [] => .error ⟨.endOfValue, 0⟩
  | b :: rest =>
    if b = 0x5b then S.readArray rest
    else if b = 0x7b then S.readObject rest
    else unexpected S.title b rest

variable {S} in
theorem read_shorter {bs : Bytes} {r : σ × Bytes} (h : S.read bs = .ok r) :
    r.2.length < bs.length := by
  have h0 := skipBlank_le bs
  unfold read at h
  split at h
  · simp at h
  · rename_i b rest hb
    rw [hb, List.length_cons] at h0
    split at h
    · have := readArray_le h; omega
    split at h
    · have := readObject_le h; omega
    · exact absurd h (unexpected_ne_ok _ _ _ _)

end Schema

end RankedRelay.Json
