import RankedRelay.Json.Reading

namespace RankedRelay.Json

def skipping : Reading Unit Unit where
  null := ()
  bool _ := ()
  array _ := ()
  object _ := ()
  number bs := (skipNumber bs).map ((), ·)
  string bs := (skipString bs).map ((), ·)
  key bs := (skipString bs).map ((), ·)
  depth := none
  bracketAfterComma := .expectedValue
  braceAfterComma := .keyMustBeString
  endAfterComma := .endOfObject
  number_shorter _ _ h := by obtain ⟨rest, hr, rfl⟩ := map_ok h; exact skipNumber_shorter hr
  string_shorter _ _ h := by obtain ⟨rest, hr, rfl⟩ := map_ok h; exact skipString_shorter hr
  key_shorter _ _ h := by obtain ⟨rest, hr, rfl⟩ := map_ok h; exact skipString_shorter hr

def skipValue (bs : Bytes) : Except Fault Bytes := (skipping.read bs).map (·.2)

theorem skipValue_shorter {bs rest : Bytes} (h : skipValue bs = .ok rest) :
    rest.length < bs.length := by
  obtain ⟨r, hr, rfl⟩ := map_ok h
  exact Reading.read_shorter hr

def finish (rest : Bytes) : Except Fault Unit :=
  match skipBlank rest with
  | [] => .ok ()
  | _ :: more => .error ⟨.trailingCharacters, more.length⟩

/-- Whether a text is one JSON value between blanks. -/
def check (text : Bytes) : Except Fault Unit :=
  match skipValue text with
  | .error f => .error f
  | .ok rest => finish rest

/-- Decoding with at most `depth` brackets open at once. -/
def decoding (depth : Nat) : Reading Value String where
  null := .null
  bool := .bool
  array := .array
  object := Value.ofMembers
  number bs := (readNumber bs).map fun r => (.number r.1, r.2)
  string bs := (readString bs).map fun r => (.string r.1, r.2)
  key := readString
  depth := some depth
  bracketAfterComma := .trailingComma
  braceAfterComma := .trailingComma
  endAfterComma := .endOfValue
  number_shorter _ _ h := by obtain ⟨r, hr, rfl⟩ := map_ok h; exact readNumber_shorter hr
  string_shorter _ _ h := by obtain ⟨r, hr, rfl⟩ := map_ok h; exact readString_shorter hr
  key_shorter _ _ h := readString_shorter h

def decodeValue (depth : Nat) (bs : Bytes) : Except Fault (Value × Bytes) :=
  (decoding depth).read bs

theorem decodeValue_shorter {depth : Nat} {bs : Bytes} {r : Value × Bytes}
    (h : decodeValue depth bs = .ok r) : r.2.length < bs.length := Reading.read_shorter h

def maxDepth : Nat := 127

def decode (text : Bytes) : Except Fault Value :=
  match decodeValue maxDepth text with
  | .error f => .error f
  | .ok (v, rest) => (finish rest).map fun _ => v

end RankedRelay.Json
