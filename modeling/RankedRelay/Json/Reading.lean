import RankedRelay.Json.Shorter

namespace RankedRelay.Json

structure Reading (α κ : Type) where
  null : α
  bool : Bool → α
  array : List α → α
  object : List (κ × α) → α
  number : Bytes → Except Fault (α × Bytes)
  string : Bytes → Except Fault (α × Bytes)
  key : Bytes → Except Fault (κ × Bytes)
  /-- How many brackets may be open at once, if that is bounded. -/
  depth : Option Nat
  bracketAfterComma : Cause
  braceAfterComma : Cause
  endAfterComma : Cause
  number_shorter : ∀ bs r, number bs = .ok r → r.2.length < bs.length
  string_shorter : ∀ bs r, string bs = .ok r → r.2.length < bs.length
  key_shorter : ∀ bs r, key bs = .ok r → r.2.length < bs.length

/-- A bracket around a value that is being read, with what stands before it, last first. -/
inductive Frame (α κ : Type) where
  | array (items : List α)
  | member (members : List (κ × α)) (key : κ)

/-- Where a text has been read up to. -/
inductive Place (α κ : Type) where
  | value (frames : List (Frame α κ))
  | element (first : Bool) (items : List α) (outer : List (Frame α κ))
  | behindElement (items : List α) (outer : List (Frame α κ))
  | member (first : Bool) (members : List (κ × α)) (outer : List (Frame α κ))
  | behindMember (members : List (κ × α)) (outer : List (Frame α κ))

/-- A complete value, or a place inside one. -/
inductive Progress (α κ : Type) where
  | finished (v : α)
  | reached (p : Place α κ)

def isBlank (b : UInt8) : Bool := b == 0x20 || b == 0x0a || b == 0x09 || b == 0x0d

def skipBlank (bs : Bytes) : Bytes := bs.dropWhile isBlank

def skipLetters : Bytes → Bytes → Except Fault Bytes
  | [], bs => .ok bs
  | _ :: _, [] => .error ⟨.endOfValue, 0⟩
  | l :: letters, b :: rest =>
    if l = b then skipLetters letters rest else .error ⟨.expectedIdent, rest.length⟩

variable {α κ : Type}

def deliver (v : α) : List (Frame α κ) → Progress α κ
  | [] => .finished v
  | .array items :: outer => .reached (.behindElement (v :: items) outer)
  | .member members key :: outer => .reached (.behindMember ((key, v) :: members) outer)

namespace Reading

variable (R : Reading α κ)

def mayOpen (frames : List (Frame α κ)) : Bool :=
  match R.depth with
  | none => true
  | some n => frames.length < n

def start (frames : List (Frame α κ)) (b : UInt8) (rest : Bytes) :
    Except Fault (Progress α κ × Bytes) :=
  if b = 0x6e then (skipLetters [0x75, 0x6c, 0x6c] rest).map (deliver R.null frames, ·)
  else if b = 0x74 then (skipLetters [0x72, 0x75, 0x65] rest).map (deliver (R.bool true) frames, ·)
  else if b = 0x66 then
    (skipLetters [0x61, 0x6c, 0x73, 0x65] rest).map (deliver (R.bool false) frames, ·)
  else if b = 0x2d ∨ isDigit b then
    (R.number (b :: rest)).map fun r => (deliver r.1 frames, r.2)
  else if b = 0x22 then (R.string rest).map fun r => (deliver r.1 frames, r.2)
  else if b = 0x5b then
    if R.mayOpen frames then .ok (.reached (.element true [] frames), rest)
    else .error ⟨.nestedTooDeep, rest.length⟩
  else if b = 0x7b then
    if R.mayOpen frames then .ok (.reached (.member true [] frames), rest)
    else .error ⟨.nestedTooDeep, rest.length⟩
  else .error ⟨.expectedValue, rest.length⟩

def colon (members : List (κ × α)) (key : κ) (outer : List (Frame α κ)) (bs : Bytes) :
    Except Fault (Progress α κ × Bytes) :=
  match skipBlank bs with
  | [] => .error ⟨.endOfObject, 0⟩
  | b :: rest =>
    if b = 0x3a then .ok (.reached (.value (.member members key :: outer)), rest)
    else .error ⟨.expectedColon, rest.length⟩

def startMember (members : List (κ × α)) (outer : List (Frame α κ)) (bs : Bytes) :
    Except Fault (Progress α κ × Bytes) :=
  match R.key bs with
  | .error f => .error f
  | .ok (key, rest) => colon members key outer rest

def advance (b : UInt8) (rest : Bytes) : Place α κ → Except Fault (Progress α κ × Bytes)
  | .value frames => R.start frames b rest
  | .element first items outer =>
    if b = 0x5d then
      if first then .ok (deliver (R.array items) outer, rest)
      else .error ⟨R.bracketAfterComma, rest.length⟩
    else R.start (.array items :: outer) b rest
  | .behindElement items outer =>
    if b = 0x2c then .ok (.reached (.element false items outer), rest)
    else if b = 0x5d then .ok (deliver (R.array items.reverse) outer, rest)
    else .error ⟨.expectedListCommaOrEnd, rest.length⟩
  | .member first members outer =>
    if b = 0x22 then R.startMember members outer rest
    else if b = 0x7d then
      if first then .ok (deliver (R.object members) outer, rest)
      else .error ⟨R.braceAfterComma, rest.length⟩
    else .error ⟨.keyMustBeString, rest.length⟩
  | .behindMember members outer =>
    if b = 0x2c then .ok (.reached (.member false members outer), rest)
    else if b = 0x7d then .ok (deliver (R.object members.reverse) outer, rest)
    else .error ⟨.expectedObjectCommaOrEnd, rest.length⟩

def endedAt : Place α κ → Cause
  | .value _ => .endOfValue
  | .element first _ _ => if first then .endOfList else .endOfValue
  | .behindElement _ _ => .endOfList
  | .member first _ _ => if first then .endOfObject else R.endAfterComma
  | .behindMember _ _ => .endOfObject

end Reading

theorem skipBlank_le (bs : Bytes) : (skipBlank bs).length ≤ bs.length := length_dropWhile_le ..

theorem skipLetters_le {letters bs rest : Bytes} (h : skipLetters letters bs = .ok rest) :
    rest.length ≤ bs.length := by
  induction letters generalizing bs with
  | nil =>
    cases h
    exact Nat.le_refl _
  | cons l letters ih =>
    cases bs with
    | nil => simp [skipLetters] at h
    | cons b bs =>
      simp only [skipLetters] at h
      split at h
      · exact Nat.le_succ_of_le (ih h)
      · simp at h

theorem map_ok {ε β γ : Type} {x : Except ε β} {f : β → γ} {c : γ} (h : x.map f = .ok c) :
    ∃ b, x = .ok b ∧ f b = c := by
  cases x with
  | error e => simp [Except.map] at h
  | ok b => exact ⟨b, rfl, by simpa [Except.map] using h⟩

namespace Reading

variable {R : Reading α κ}

theorem start_shorter {frames : List (Frame α κ)} {b : UInt8} {rest : Bytes}
    {r : Progress α κ × Bytes} (h : R.start frames b rest = .ok r) :
    r.2.length ≤ rest.length := by
  unfold start at h
  split at h
  · obtain ⟨bs, hbs, rfl⟩ := map_ok h; exact skipLetters_le hbs
  split at h
  · obtain ⟨bs, hbs, rfl⟩ := map_ok h; exact skipLetters_le hbs
  split at h
  · obtain ⟨bs, hbs, rfl⟩ := map_ok h; exact skipLetters_le hbs
  split at h
  · obtain ⟨n, hn, rfl⟩ := map_ok h; exact Nat.le_of_lt_succ (R.number_shorter _ _ hn)
  split at h
  · obtain ⟨s, hs, rfl⟩ := map_ok h; exact Nat.le_of_lt (R.string_shorter _ _ hs)
  split at h
  · split at h <;> cases h; exact Nat.le_refl _
  split at h
  · split at h <;> cases h; exact Nat.le_refl _
  · simp at h

theorem startMember_shorter {members : List (κ × α)} {outer : List (Frame α κ)} {bs : Bytes}
    {r : Progress α κ × Bytes} (h : R.startMember members outer bs = .ok r) :
    r.2.length ≤ bs.length := by
  unfold startMember at h
  split at h
  · simp at h
  · rename_i key rest hk
    have h1 : rest.length < bs.length := R.key_shorter _ _ hk
    have h2 := skipBlank_le rest
    unfold colon at h
    split at h
    · simp at h
    · rename_i b tail hb
      split at h
      · cases h
        rw [hb] at h2
        simp only [List.length_cons] at h2 ⊢
        omega
      · simp at h

theorem advance_shorter {b : UInt8} {rest : Bytes} {p : Place α κ} {r : Progress α κ × Bytes}
    (h : R.advance b rest p = .ok r) : r.2.length ≤ rest.length := by
  cases p with
  | value frames => exact start_shorter h
  | element first items outer =>
    simp only [advance] at h
    split at h
    · split at h <;> cases h; exact Nat.le_refl _
    · exact start_shorter h
  | behindElement items outer =>
    simp only [advance] at h
    split at h
    · cases h; exact Nat.le_refl _
    · split at h <;> cases h; exact Nat.le_refl _
  | member first members outer =>
    simp only [advance] at h
    split at h
    · exact startMember_shorter h
    · split at h
      · split at h <;> cases h; exact Nat.le_refl _
      · simp at h
  | behindMember members outer =>
    simp only [advance] at h
    split at h
    · cases h; exact Nat.le_refl _
    · split at h <;> cases h; exact Nat.le_refl _

variable (R)

def walk (p : Place α κ) (bs : Bytes) : Except Fault (α × Bytes) :=
  match _hb : skipBlank bs with
  | [] => .error ⟨R.endedAt p, 0⟩
  | b :: rest =>
    match _ha : R.advance b rest p with
    | .error f => .error f
    | .ok (.finished v, rest') => .ok (v, rest')
    | .ok (.reached q, rest') => walk q rest'
termination_by bs.length
decreasing_by
  have h1 := skipBlank_le bs
  have h2 := advance_shorter _ha
  rw [_hb] at h1
  simp only [List.length_cons] at h1 h2
  omega

def read (bs : Bytes) : Except Fault (α × Bytes) := R.walk (.value []) bs

variable {R}

theorem walk_shorter {p : Place α κ} {bs : Bytes} {r : α × Bytes} (h : R.walk p bs = .ok r) :
    r.2.length < bs.length := by
  fun_induction walk R p bs with
  | case1 => simp at h
  | case2 => simp at h
  | case3 p bs b rest hb v rest' ha =>
    cases h
    have h1 := skipBlank_le bs
    have h2 : rest'.length ≤ rest.length := advance_shorter ha
    rw [hb, List.length_cons] at h1
    show rest'.length < bs.length
    omega
  | case4 p bs b rest hb q rest' ha ih =>
    have h1 := skipBlank_le bs
    have h2 : rest'.length ≤ rest.length := advance_shorter ha
    have h3 := ih h
    rw [hb, List.length_cons] at h1
    omega

theorem read_shorter {bs : Bytes} {r : α × Bytes} (h : R.read bs = .ok r) :
    r.2.length < bs.length := walk_shorter h

end Reading

end RankedRelay.Json
