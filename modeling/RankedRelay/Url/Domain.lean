import RankedRelay.Unicode.Direction
import RankedRelay.Unicode.Joining
import RankedRelay.Unicode.Mark
import RankedRelay.Url.Mapping
import RankedRelay.Url.Punycode
import RankedRelay.Text.Bytes

namespace RankedRelay.Url

open Unicode

def isForbidden (c : Char) : Bool :=
  c.toNat ≤ 0x20 || c.toNat = 0x7f || "%#/:<>?@[\\]^|".toList.contains c

def labels (s : List Char) : List (List Char) :=
  match s with
  | [] => [[]]
  | c :: rest =>
    match c, labels rest with
    | '.', parts => [] :: parts
    | _, [] => [[c]]
    | _, part :: parts => (c :: part) :: parts

def isVirama (c : Char) : Bool := combining c = 9

def joins (side : Joining) (s : List Char) : Bool :=
  match s.dropWhile (joining · = .transparent) with
  | c :: _ => joining c = .dual || joining c = side
  | [] => false

/-- An invisible joiner stands behind a virama; one that parts letters may also stand between
letters that would join. `before` is the text in front, backwards. -/
def joinersFit (before : List Char) : List Char → Bool
  | [] => true
  | c :: rest =>
    let behindVirama := before.head?.any isVirama
    (if c.toNat = 0x200d then behindVirama
      else if c.toNat = 0x200c then behindVirama || (joins .left before && joins .right rest)
      else true) && joinersFit (c :: before) rest

def isNeutral (d : Direction) : Bool :=
  [.europeanNumber, .europeanSeparator, .commonSeparator, .europeanTerminator, .otherNeutral,
    .boundaryNeutral, .nonspacingMark].contains d

def isRightward (d : Direction) : Bool := [.rightToLeft, .arabicLetter].contains d

/-- Whether a label can be told from its neighbours where text runs in both directions. -/
def directionsFit (label : List Char) : Bool :=
  let ds := label.map direction
  let last := ds.reverse.find? (· ≠ .nonspacingMark)
  match ds with
  | [] => true
  | d :: _ =>
    if d = .leftToRight then
      ds.all (fun d => d = .leftToRight || isNeutral d) &&
        last.any fun d => d = .leftToRight || d = .europeanNumber
    else if isRightward d then
      ds.all (fun d => isRightward d || d = .arabicNumber || isNeutral d) &&
        last.any (fun d => isRightward d || d = .europeanNumber || d = .arabicNumber) &&
        !(ds.contains .europeanNumber && ds.contains .arabicNumber)
    else false

/-- The characters of a label, which `xn--` in front announces in Punycode. A label so written
has other than basic characters, and is in its normal form. -/
def readLabel (label : List Char) : Option (List Char) :=
  match label with
  | 'x' :: 'n' :: '-' :: '-' :: code =>
    if 2000 < code.length then none
    else
      match Punycode.decode? code with
      | none => none
      | some text =>
        if text.all Punycode.isBasic then none
        else if (text.mapM mapChar).map (fun parts => composedForm parts.flatten) = some text then
          some text
        else none
  | _ => some label

def labelFits (label : List Char) : Bool :=
  !label.head?.any isMark && joinersFit [] label && !label.any isForbidden

def writeLabel (label : List Char) : Option (List Char) :=
  if label.all Punycode.isBasic then some label
  else if 1000 < label.length then none
  else some ("xn--".toList ++ Punycode.encode label)

def runsBothWays (label : List Char) : Bool :=
  label.any fun c => isRightward (direction c) || direction c = .arabicNumber

/-- The name in ASCII; nothing if it is no domain name. -/
def domainToAscii (bs : Bytes) : Option String := do
  let text ← Bytes.text? bs
  let mapped ← text.toList.mapM mapChar
  let read ← (labels (composedForm mapped.flatten)).mapM readLabel
  if read.all labelFits && (!read.any runsBothWays || read.all directionsFit) then
    let written ← read.mapM writeLabel
    some (String.ofList (['.'].intercalate written))
  else none

end RankedRelay.Url
