namespace RankedRelay.Yaml

def isBreak (c : Char) : Bool :=
  c = '\n' || c = '\r' || c = '\u0085' || c = '\u2028' || c = '\u2029'

def isBlank (c : Char) : Bool := c = ' ' || c = '\t'

def isSpace (c : Char) : Bool := isBlank c || isBreak c

def isWordChar (c : Char) : Bool := c.isAlphanum || c = '_' || c = '-'

def isAllowed (c : Char) : Bool :=
  c = '\t' || c = '\n' || c = '\r' || c = '\u0085' || (' ' ≤ c && c ≤ '~') ||
    (0xa0 ≤ c.toNat && c.toNat ≤ 0xfffd) || 0x10000 ≤ c.toNat

/-- What is left of the text, how many characters have been passed, and line and column, which
count from zero. -/
structure Cursor where
  rest : List Char
  index : Nat
  line : Nat
  column : Nat

namespace Cursor

def ofText (s : List Char) : Cursor := ⟨s, 0, 0, 0⟩

def next? (c : Cursor) : Option Char := c.rest.head?

def at? (c : Cursor) (n : Nat) : Option Char := c.rest[n]?

def skip (c : Cursor) (n : Nat) : Cursor := ⟨c.rest.drop n, c.index + n, c.line, c.column + n⟩

def skipBreak (c : Cursor) : Cursor :=
  match c.rest with
  | '\r' :: '\n' :: rest => ⟨rest, c.index + 2, c.line + 1, 0⟩
  | _ :: rest => ⟨rest, c.index + 1, c.line + 1, 0⟩
  | [] => c

def skipWhile (p : Char → Bool) (c : Cursor) : Cursor := c.skip (c.rest.takeWhile p).length

def skipComment (c : Cursor) : Cursor :=
  if c.next? = some '#' then c.skipWhile (!isBreak ·) else c

def isOpen (c : Cursor) (n : Nat) : Bool := (c.at? n).all isSpace

def atEnd (c : Cursor) : Bool := c.rest.isEmpty

def isMarker (c : Cursor) (mark : Char) : Bool :=
  c.column = 0 && c.rest.take 3 = [mark, mark, mark] && c.isOpen 3

def atMarker (c : Cursor) : Bool := c.isMarker '-' || c.isMarker '.'

end Cursor

/-- How a line break stands in a value: as a line feed, unless it is one of the two separators. -/
def breakValue (c : Char) : Char := if c = '\u2028' ∨ c = '\u2029' then c else '\n'

end RankedRelay.Yaml
