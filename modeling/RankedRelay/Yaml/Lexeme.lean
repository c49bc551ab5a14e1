import RankedRelay.Yaml.Cursor
import RankedRelay.Text.Bytes
import RankedRelay.Text.Decimal

namespace RankedRelay.Yaml

/-- What stands between two words of a scalar. A gap with a line break is folded; its blanks do not
count. The texts are held backwards. -/
structure Gap where
  blanks : List Char
  broken : Bool
  firstBreak : List Char
  otherBreaks : List Char

namespace Gap

def none : Gap := ⟨[], false, [], []⟩

def addBlank (g : Gap) (c : Char) : Gap :=
  if g.broken then g else { g with blanks := c :: g.blanks }

def addBreak (g : Gap) (c : Char) : Gap :=
  if g.broken then { g with otherBreaks := breakValue c :: g.otherBreaks }
  else ⟨[], true, [breakValue c], []⟩

/-- What the gap stands for, backwards. One line feed becomes a space, and more become one less. -/
def folded (g : Gap) : List Char :=
  if !g.broken then g.blanks
  else if g.firstBreak = ['\n'] then if g.otherBreaks.isEmpty then [' '] else g.otherBreaks
  else g.otherBreaks ++ g.firstBreak

end Gap

/-- Reads blanks and breaks. A tab in front of the column `margin` of a later line is refused. -/
def readGap (margin : Nat) : Nat → Gap → Cursor → Option (Gap × Cursor)
  | 0, g, c => some (g, c)
  | fuel + 1, g, c =>
    match c.next? with
    | none => some (g, c)
    | some x =>
      if isBlank x then
        if g.broken ∧ c.column < margin ∧ x = '\t' then none
        else readGap margin fuel (g.addBlank x) (c.skip 1)
      else if isBreak x then readGap margin fuel (g.addBreak x) c.skipBreak
      else some (g, c)

def isFlowMark (c : Char) : Bool := c = ',' || c = '[' || c = ']' || c = '\x7b' || c = '\x7d'

def plainWord (inFlow : Bool) : List Char → Option (List Char)
  | [] => some []
  | c :: rest =>
    if isSpace c then some []
    else if inFlow ∧ c = ':' ∧ rest.head?.any (fun d => isFlowMark d || d = '?') then none
    else if c = ':' ∧ rest.head?.all isSpace then some []
    else if inFlow ∧ isFlowMark c then some []
    else (plainWord inFlow rest).map (c :: ·)

/-- A plain scalar's text, backwards, whether it went over a line break, and where it ends. -/
def readPlain (inFlow : Bool) (margin : Nat) :
    Nat → List Char → Gap → Cursor → Option (List Char × Bool × Cursor)
  | 0, done, g, c => some (done, g.broken, c)
  | fuel + 1, done, g, c =>
    if c.atMarker ∨ c.next? = some '#' then some (done, g.broken, c)
    else do
      let word ← plainWord inFlow c.rest
      let (done, g) :=
        if word.isEmpty then (done, g) else (word.reverse ++ g.folded ++ done, Gap.none)
      let c := c.skip word.length
      if !c.next?.any isSpace then some (done, g.broken, c)
      else
        let (g, c) ← readGap margin fuel g c
        if !inFlow ∧ c.column < margin then some (done, g.broken, c)
        else readPlain inFlow margin fuel done g c

def simpleEscape? (c : Char) : Option Char :=
  match c with
  | '0' => some '\x00'
  | 'a' => some '\x07'
  | 'b' => some '\x08'
  | 't' => some '\t'
  | '\t' => some '\t'
  | 'n' => some '\n'
  | 'v' => some '\x0b'
  | 'f' => some '\x0c'
  | 'r' => some '\r'
  | 'e' => some '\x1b'
  | ' ' => some ' '
  | '"' => some '"'
  | '/' => some '/'
  | '\\' => some '\\'
  | 'N' => some '\u0085'
  | '_' => some '\u00a0'
  | 'L' => some '\u2028'
  | 'P' => some '\u2029'
  | _ => none

def escapeLength? (c : Char) : Option Nat :=
  match c with
  | 'x' => some 2
  | 'u' => some 4
  | 'U' => some 8
  | _ => none

def readEscape : List Char → Option (Char × Nat)
  | [] => none
  | c :: rest =>
    match simpleEscape? c, escapeLength? c with
    | some x, _ => some (x, 1)
    | none, some n => do
      let digits := rest.take n
      if digits.length < n then none
      else
        let value ← Text.hexadecimal? digits
        if value.isValidChar then some (.ofNat value, n + 1) else none
    | none, none => none

inductive PieceEnd where
  | quote
  | gap
  | escapedBreak

def doubleWord : Nat → List Char → Cursor → Option (List Char × PieceEnd × Cursor)
  | 0, _, _ => none
  | fuel + 1, done, c =>
    match c.rest with
    | [] => some (done, .gap, c)
    | '"' :: _ => some (done, .quote, c)
    | '\\' :: rest =>
      if rest.head?.any isBreak then some (done, .escapedBreak, (c.skip 1).skipBreak)
      else
        match readEscape rest with
        | none => none
        | some (x, n) => doubleWord fuel (x :: done) (c.skip (n + 1))
    | x :: _ => if isSpace x then some (done, .gap, c) else doubleWord fuel (x :: done) (c.skip 1)

def singleWord : Nat → List Char → Cursor → Option (List Char × PieceEnd × Cursor)
  | 0, _, _ => none
  | fuel + 1, done, c =>
    match c.rest with
    | [] => some (done, .gap, c)
    | '\'' :: '\'' :: _ => singleWord fuel ('\'' :: done) (c.skip 2)
    | '\'' :: _ => some (done, .quote, c)
    | x :: _ => if isSpace x then some (done, .gap, c) else singleWord fuel (x :: done) (c.skip 1)

/-- A quoted scalar from behind its first quote: its text, backwards, and where it ends. A line of
it must not be a document marker. -/
def readQuoted (word : Nat → List Char → Cursor → Option (List Char × PieceEnd × Cursor)) :
    Nat → List Char → Cursor → Option (List Char × Cursor)
  | 0, _, _ => none
  | fuel + 1, done, c =>
    if c.atMarker ∨ c.atEnd then none
    else do
      let (done, pieceEnd, c) ← word (fuel + 1) done c
      match pieceEnd, c.next? with
      | .quote, _ => some (done, c.skip 1)
      | .gap, _ =>
        let (g, c) ← readGap 0 (fuel + 1) Gap.none c
        readQuoted word fuel (g.folded ++ done) c
      | .escapedBreak, q =>
        -- the quote may follow at once
        if q = some '"' then some (done, c.skip 1)
        else
          let (g, c) ← readGap 0 (fuel + 1) ⟨[], true, [], []⟩ c
          readQuoted word fuel (g.folded ++ done) c

inductive Chomping where
  | strip
  | clip
  | keep
deriving DecidableEq

def chomping? (c : Char) : Option Chomping :=
  if c = '+' then some .keep else if c = '-' then some .strip else none

/-- The header behind the indicator: chomping and indentation in either order. A digit zero is
refused. -/
def readHeader (c : Cursor) : Option (Chomping × Nat × Cursor) :=
  let digit (c : Cursor) : Option (Nat × Cursor) :=
    match c.next? with
    | some d =>
      if d = '0' then none
      else if d.isDigit then some (d.toNat - '0'.toNat, c.skip 1)
      else some (0, c)
    | none => some (0, c)
  match c.next?.bind chomping? with
  | some k => (digit (c.skip 1)).map fun r => (k, r.1, r.2)
  | none =>
    match digit c with
    | none => none
    | some (0, c) => some (.clip, 0, c)
    | some (n, c) =>
      match c.next?.bind chomping? with
      | some k => some (k, n, c.skip 1)
      | none => some (.clip, n, c)

structure Margin where
  breaks : List Char
  widest : Nat
  cursor : Cursor

/-- Passes indentation and empty lines. Without a margin all spaces are indentation. A tab in the
indentation is refused. -/
def passMargin (margin : Option Nat) : Nat → Margin → Option Margin
  | 0, m => some m
  | fuel + 1, m =>
    let spaces := (m.cursor.rest.takeWhile (· = ' ')).length
    let room := match margin with
      | some n => min spaces (n - m.cursor.column)
      | none => spaces
    let c := m.cursor.skip room
    let widest := max m.widest c.column
    if c.next? = some '\t' ∧ margin.all (c.column < ·) then none
    else
      match c.next? with
      | some x =>
        if isBreak x then passMargin margin fuel ⟨breakValue x :: m.breaks, widest, c.skipBreak⟩
        else some ⟨m.breaks, widest, c⟩
      | none => some ⟨m.breaks, widest, c⟩

structure BlockText where
  done : List Char
  lastBreak : List Char
  emptyLines : List Char
  afterBlank : Bool

/-- Reads the lines at the margin. Folding joins lines that do not start with a blank. -/
def readLines (isLiteral : Bool) (margin : Nat) :
    Nat → BlockText → Cursor → Option (BlockText × Cursor)
  | 0, t, c => some (t, c)
  | fuel + 1, t, c =>
    if c.column ≠ margin ∨ c.atEnd then some (t, c)
    else
      let startsBlank := c.next?.any isBlank
      let joint :=
        if !isLiteral ∧ t.lastBreak = ['\n'] ∧ !t.afterBlank ∧ !startsBlank then
          if t.emptyLines.isEmpty then [' '] else t.emptyLines
        else t.emptyLines ++ t.lastBreak
      let line := c.rest.takeWhile (!isBreak ·)
      let c := c.skip line.length
      let lastBreak := (c.next?.map breakValue).toList
      match passMargin (some margin) c.rest.length ⟨[], 0, c.skipBreak⟩ with
      | none => none
      | some m =>
        readLines isLiteral margin fuel
          ⟨line.reverse ++ joint ++ t.done, lastBreak, m.breaks, startsBlank⟩ m.cursor

/-- A block scalar from behind its indicator. `parent` is the column of the block around it, if
there is one. -/
def readBlock (isLiteral : Bool) (parent : Option Nat) (start : Cursor) :
    Option (String × Cursor) := do
  let (chomping, increment, c) ← readHeader start
  let c := (c.skipWhile isBlank).skipComment
  if !c.next?.all isBreak then none
  else
    let c := c.skipBreak
    let fuel := c.rest.length
    let given := if increment = 0 then none else some (parent.getD 0 + increment)
    let m ← passMargin given fuel ⟨[], 0, c⟩
    let least := match parent with
      | some n => n + 1
      | none => 1
    let margin := given.getD (max m.widest (max least 1))
    let (t, c) ← readLines isLiteral margin fuel ⟨[], [], m.breaks, false⟩ m.cursor
    let text := match chomping with
      | .strip => t.done
      | .clip => t.lastBreak ++ t.done
      | .keep => t.emptyLines ++ t.lastBreak ++ t.done
    some (String.ofList text.reverse, c)

def readName (c : Cursor) : Option (String × Cursor) :=
  let name := c.rest.takeWhile isWordChar
  let c := c.skip name.length
  if name.isEmpty then none
  else if c.next?.all fun x => isSpace x || "?:,]\x7d%@\x60".toList.contains x then
    some (String.ofList name, c)
  else none

def isUriChar (verbatim : Bool) (c : Char) : Bool :=
  isWordChar c || ";/?:@&=+$.%!~*'()".toList.contains c || (verbatim && ",[]".toList.contains c)

def utf8Length? (b : UInt8) : Option Nat :=
  if b < 0x80 then some 1
  else if b &&& 0xe0 = 0xc0 then some 2
  else if b &&& 0xf0 = 0xe0 then some 3
  else if b &&& 0xf8 = 0xf0 then some 4
  else none

def escapedBytes : Nat → List Char → Option Bytes
  | 0, _ => some []
  | n + 1, '%' :: a :: b :: rest => do
    let byte := UInt8.ofNat ((← Text.hexDigit? a) * 16 + (← Text.hexDigit? b))
    return byte :: (← escapedBytes n rest)
  | _ + 1, _ => none

def readUriEscape (s : List Char) : Option (Bytes × Nat) := do
  let first ← escapedBytes 1 s
  let n ← first.head?.bind utf8Length?
  let all ← escapedBytes n s
  if (all.drop 1).all fun b => b &&& 0xc0 = 0x80 then some (all, 3 * n) else none

def readUri (verbatim : Bool) : Nat → Bytes → Cursor → Option (Bytes × Cursor)
  | 0, done, c => some (done, c)
  | fuel + 1, done, c =>
    match c.next? with
    | none => some (done, c)
    | some x =>
      if x = '%' then do
        let (bytes, n) ← readUriEscape c.rest
        readUri verbatim fuel (done ++ bytes) (c.skip n)
      else if isUriChar verbatim x then
        readUri verbatim fuel (done ++ .ofText (String.singleton x)) (c.skip 1)
      else some (done, c)

def uriText (bs : Bytes) : String := (Bytes.text? bs).getD "\ufffd"

def readHandle (c : Cursor) : Option (List Char × Cursor) :=
  match c.rest with
  | '!' :: rest =>
    let name := rest.takeWhile isWordChar
    let behind := rest.drop name.length
    let handle := '!' :: name ++ (if behind.head? = some '!' then ['!'] else [])
    some (handle, c.skip handle.length)
  | _ => none

def isFullHandle (handle : List Char) : Bool := 1 < handle.length && handle.getLast? = some '!'

structure Tag where
  handle : String
  suffix : String

def readTag (inFlow : Bool) (c : Cursor) : Option (Tag × Cursor) := do
  let fuel := c.rest.length
  let (tag, c) ←
    if c.at? 1 = some '<' then do
      let (uri, c) ← readUri true fuel [] (c.skip 2)
      if uri.isEmpty ∨ c.next? ≠ some '>' then none
      else some ((⟨"", uriText uri⟩ : Tag), c.skip 1)
    else do
      let (handle, c) ← readHandle c
      if isFullHandle handle then do
        let (uri, c) ← readUri false fuel [] c
        if uri.isEmpty then none else some (⟨String.ofList handle, uriText uri⟩, c)
      else do
        let (uri, c) ← readUri false fuel (.ofText (String.ofList (handle.drop 1))) c
        if uri.isEmpty then some (⟨"", "!"⟩, c) else some (⟨"!", uriText uri⟩, c)
  if (inFlow ∧ c.next? = some ',') ∨ c.isOpen 0 then some (tag, c) else none

inductive Directive where
  | version (major minor : Nat)
  | tag (handle expansion : String)

def readVersionNumber (c : Cursor) : Option (Nat × Cursor) :=
  let digits := c.rest.takeWhile Char.isDigit
  if 9 < digits.length then none
  else (Text.decimal? digits).map fun n => (n, c.skip digits.length)

def readVersion (c : Cursor) : Option (Directive × Cursor) := do
  let (major, c) ← readVersionNumber (c.skipWhile isBlank)
  if c.next? ≠ some '.' then none
  else
    let (minor, c) ← readVersionNumber (c.skip 1)
    some (.version major minor, c)

def readTagDirective (c : Cursor) : Option (Directive × Cursor) := do
  let (handle, c) ← readHandle (c.skipWhile isBlank)
  if (handle.length ≠ 1 ∧ !isFullHandle handle) ∨ !c.next?.any isBlank then none
  else
    let c := c.skipWhile isBlank
    let (uri, c) ← readUri true c.rest.length [] c
    if uri.isEmpty ∨ !c.isOpen 0 then none
    else some (.tag (String.ofList handle) (uriText uri), c)

def readDirective (c : Cursor) : Option (Directive × Cursor) := do
  let c := c.skip 1
  let name := c.rest.takeWhile isWordChar
  let c := c.skip name.length
  if name.isEmpty ∨ !c.isOpen 0 then none
  else
    let (directive, c) ←
      if name = "YAML".toList then readVersion c
      else if name = "TAG".toList then readTagDirective c
      else none
    let c := (c.skipWhile isBlank).skipComment
    match c.next? with
    | none => some (directive, c)
    | some x => if isBreak x then some (directive, c.skipBreak) else none

end RankedRelay.Yaml
