namespace RankedRelay

abbrev Bytes := List UInt8

namespace Bytes

def ofText (s : String) : Bytes := s.toUTF8.toList

def text? (b : Bytes) : Option String := String.fromUTF8? ⟨b.toArray⟩

def contains (part : Bytes) : Bytes → Bool
  | [] => part.isEmpty
  | b :: rest => part.isPrefixOf (b :: rest) || contains part rest

def isContinuation (b : UInt8) : Bool := 0x80 ≤ b && b ≤ 0xbf

def startsThree (a b : UInt8) : Bool :=
  0xe0 ≤ a && a ≤ 0xef && isContinuation b && (a != 0xe0 || 0xa0 ≤ b) && (a != 0xed || b ≤ 0x9f)

def startsFour (a b : UInt8) : Bool :=
  0xf0 ≤ a && a ≤ 0xf4 && isContinuation b && (a != 0xf0 || 0x90 ≤ b) && (a != 0xf4 || b ≤ 0x8f)

/-- How many bytes at the front are whole characters in UTF-8. -/
def wholeFront : Bytes → Nat
  | [] => 0
  | a :: s =>
    if a < 0x80 then wholeFront s + 1
    else
      match s with
      | b :: t =>
        if 0xc2 ≤ a ∧ a ≤ 0xdf ∧ isContinuation b then wholeFront t + 2
        else
          match t with
          | c :: u =>
            if startsThree a b ∧ isContinuation c then wholeFront u + 3
            else
              match u with
              | d :: v =>
                if startsFour a b ∧ isContinuation c ∧ isContinuation d then wholeFront v + 4 else 0
              | [] => 0
          | [] => 0
      | [] => 0

end Bytes

def isDigit (b : UInt8) : Bool := 0x30 ≤ b && b ≤ 0x39

def hexValue? (b : UInt8) : Option Nat :=
  if 0x30 ≤ b && b ≤ 0x39 then some (b.toNat - 0x30)
  else if 0x61 ≤ b && b ≤ 0x66 then some (b.toNat - 0x57)
  else if 0x41 ≤ b && b ≤ 0x46 then some (b.toNat - 0x37)
  else none

namespace Percent

def upperDigit (n : UInt8) : UInt8 := if n < 10 then 0x30 + n else 0x37 + n

def escape (b : UInt8) : Bytes := [0x25, upperDigit (b >>> 4), upperDigit (b &&& 15)]

def encode (set : UInt8 → Bool) (bs : Bytes) : Bytes :=
  bs.flatMap fun b => if set b then escape b else [b]

/-- Undoes escapes. A percent sign without two digits stands for itself. -/
def decode : Bytes → Bytes
  | 0x25 :: high :: low :: rest =>
    match hexValue? high, hexValue? low with
    | some h, some l => UInt8.ofNat (16 * h + l) :: decode rest
    | _, _ => 0x25 :: decode (high :: low :: rest)
  | b :: rest => b :: decode rest
  | [] => []

/-- Escapes a character of a text, if one of its bytes is in the set; the sets hold all bytes
beyond ASCII. -/
def encodeChars (set : UInt8 → Bool) (cs : List Char) : String :=
  ((Bytes.text? (encode set (Bytes.ofText (String.ofList cs)))).getD "")

end Percent

namespace Base64

def alphabet : List Char :=
  "ABCDEFGHIJKLMNOPQRSTUVWXYZabcdefghijklmnopqrstuvwxyz0123456789+/".toList

def digit (n : Nat) : Char := alphabet.getD (n % 64) 'A'

def digits : Bytes → List Char
  | a :: b :: c :: rest =>
    let n := a.toNat * 65536 + b.toNat * 256 + c.toNat
    digit (n / 262144) :: digit (n / 4096) :: digit (n / 64) :: digit n :: digits rest
  | [a, b] =>
    let n := a.toNat * 65536 + b.toNat * 256
    [digit (n / 262144), digit (n / 4096), digit (n / 64), '=']
  | [a] => [digit (a.toNat / 4), digit (a.toNat * 16), '=', '=']
  | [] => []

def encode (bs : Bytes) : String := String.ofList (digits bs)

end Base64

end RankedRelay
