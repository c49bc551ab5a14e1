import RankedRelay.Json.Fault

namespace RankedRelay.Json

def simpleEscape? (b : UInt8) : Option UInt8 :=
  if b = 0x22 ∨ b = 0x5c ∨ b = 0x2f then some b
  else if b = 0x62 then some 0x08
  else if b = 0x66 then some 0x0c
  else if b = 0x6e then some 0x0a
  else if b = 0x72 then some 0x0d
  else if b = 0x74 then some 0x09
  else none

def fourHex? (a b c d : UInt8) : Option Nat := do
  return (((← hexValue? a) * 16 + (← hexValue? b)) * 16 + (← hexValue? c)) * 16 + (← hexValue? d)

/-- Passes a string whose escapes are well formed and which has no control character. -/
def skipString : Bytes → Except Fault Bytes
  | [] => .error ⟨.endOfString, 0⟩
  | 0x22 :: rest => .ok rest
  | 0x5c :: 0x75 :: a :: b :: c :: d :: rest =>
    if (fourHex? a b c d).isSome then skipString rest else .error ⟨.invalidEscape, rest.length⟩
  | 0x5c :: 0x75 :: _ => .error ⟨.endOfString, 0⟩
  | 0x5c :: e :: rest =>
    if (simpleEscape? e).isSome then skipString rest else .error ⟨.invalidEscape, rest.length⟩
  | [0x5c] => .error ⟨.endOfString, 0⟩
  | b :: rest =>
    if b < 0x20 then .error ⟨.controlCharacter, rest.length + 1⟩ else skipString rest

def isLeading (n : Nat) : Bool := 0xd800 ≤ n && n ≤ 0xdbff

def isTrailing (n : Nat) : Bool := 0xdc00 ≤ n && n ≤ 0xdfff

def joinSurrogates (n m : Nat) : Nat := (n - 0xd800) * 0x400 + (m - 0xdc00) + 0x10000

def reversedUtf8 (n : Nat) : Bytes := (String.utf8EncodeChar (Char.ofNat n)).reverse

/-- Reads a string onto the bytes read before it, which stand in `acc` last byte first. -/
def readStringOnto (acc : Bytes) : Bytes → Except Fault (String × Bytes)
  | [] => .error ⟨.endOfString, 0⟩
  | 0x22 :: rest =>
    match Bytes.text? acc.reverse with
    | some s => .ok (s, rest)
    | none => .error ⟨.invalidCodePoint, rest.length⟩
  | 0x5c :: 0x75 :: a :: b :: c :: d :: rest =>
    match fourHex? a b c d with
    | none => .error ⟨.invalidEscape, rest.length⟩
    | some n =>
      if isTrailing n then .error ⟨.loneSurrogate, rest.length⟩
      else if isLeading n then
        match rest with
        | 0x5c :: 0x75 :: a' :: b' :: c' :: d' :: more =>
          match fourHex? a' b' c' d' with
          | none => .error ⟨.invalidEscape, more.length⟩
          | some m =>
            if isTrailing m then readStringOnto (reversedUtf8 (joinSurrogates n m) ++ acc) more
            else .error ⟨.loneSurrogate, more.length⟩
        | 0x5c :: 0x75 :: _ => .error ⟨.endOfString, 0⟩
        | 0x5c :: _ :: more => .error ⟨.unexpectedEndOfEscape, more.length⟩
        | [0x5c] => .error ⟨.endOfString, 0⟩
        | _ :: more => .error ⟨.unexpectedEndOfEscape, more.length⟩
        | [] => .error ⟨.endOfString, 0⟩
      else readStringOnto (reversedUtf8 n ++ acc) rest
  | 0x5c :: 0x75 :: _ => .error ⟨.endOfString, 0⟩
  | 0x5c :: e :: rest =>
    match simpleEscape? e with
    | some b => readStringOnto (b :: acc) rest
    | none => .error ⟨.invalidEscape, rest.length⟩
  | [0x5c] => .error ⟨.endOfString, 0⟩
  | b :: rest =>
    if b < 0x20 then .error ⟨.controlCharacter, rest.length⟩ else readStringOnto (b :: acc) rest

/-- Reads a string: UTF-8, with escapes for whole code points only. Bytes that are not UTF-8 are
blamed on the first of them. -/
def readString (bs : Bytes) : Except Fault (String × Bytes) :=
  match readStringOnto [] bs with
  | .ok r => .ok r
  | .error ⟨.invalidCodePoint, _⟩ => .error ⟨.invalidCodePoint, bs.length - (bs.wholeFront + 1)⟩
  | .error f => .error f

end RankedRelay.Json
