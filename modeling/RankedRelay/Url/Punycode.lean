namespace RankedRelay.Url.Punycode

def digit (n : Nat) : Char := if n < 26 then .ofNat (0x61 + n) else .ofNat (0x30 + (n - 26))

def digitValue? (c : Char) : Option Nat :=
  if 'a' ≤ c ∧ c ≤ 'z' then some (c.toNat - 'a'.toNat)
  else if 'A' ≤ c ∧ c ≤ 'Z' then some (c.toNat - 'A'.toNat)
  else if '0' ≤ c ∧ c ≤ '9' then some (c.toNat - '0'.toNat + 26)
  else none

def threshold (k bias : Nat) : Nat := min 26 (max 1 (k - bias))

theorem threshold_bounds (k bias : Nat) : 1 ≤ threshold k bias ∧ threshold k bias ≤ 26 := by
  unfold threshold; omega

def scaleDown (delta k : Nat) : Nat × Nat :=
  if 455 < delta then scaleDown (delta / 35) (k + 36) else (delta, k)
termination_by delta
decreasing_by omega

/-- The bias for the next difference, after `count` characters. -/
def adapt (delta count : Nat) (first : Bool) : Nat :=
  let halved := if first then delta / 700 else delta / 2
  let (d, k) := scaleDown (halved + halved / count) 0
  k + 36 * d / (d + 38)

def digits (bias k q : Nat) : List Char :=
  let t := threshold k bias
  if q < t then [digit q]
  else digit (t + (q - t) % (36 - t)) :: digits bias (k + 36) ((q - t) / (36 - t))
termination_by q
decreasing_by
  have h := threshold_bounds k bias
  exact Nat.lt_of_le_of_lt (Nat.div_le_self _ _) (by omega)

structure Encoding where
  written : List Char
  delta : Nat
  bias : Nat
  count : Nat

def Encoding.pass (basic n : Nat) (e : Encoding) (c : Char) : Encoding :=
  if c.toNat < n then { e with delta := e.delta + 1 }
  else if c.toNat = n then
    ⟨e.written ++ digits e.bias 36 e.delta, 0, adapt e.delta (e.count + 1) (e.count = basic),
      e.count + 1⟩
  else e

/-- Inserts the characters of each code point in turn, which ascend from `n`. -/
def encodeFrom (text : List Char) (basic : Nat) : List Nat → Nat → Encoding → Encoding
  | [], _, e => e
  | m :: rest, n, e =>
    let e := { e with delta := e.delta + (m - n) * (e.count + 1) }
    let e := text.foldl (Encoding.pass basic m) e
    encodeFrom text basic rest (m + 1) { e with delta := e.delta + 1 }

def isBasic (c : Char) : Bool := c.toNat < 0x80

def encode (text : List Char) : List Char :=
  let basic := text.filter isBasic
  let others := ((text.filter (!isBasic ·)).map (·.toNat)).mergeSort.eraseDups
  basic ++ (if basic.isEmpty then [] else ['-']) ++
    (encodeFrom text basic.length others 0x80 ⟨[], 0, 72, basic.length⟩).written

/-- A difference from place `k` on, of the weight that its next digit has, and what follows it. -/
def readDifference (bias : Nat) : List Char → Nat → Nat → Nat → Option (Nat × List Char)
  | [], _, _, _ => none
  | c :: rest, k, weight, acc => do
    let d ← digitValue? c
    let acc := acc + d * weight
    let t := threshold k bias
    if UInt32.size ≤ acc then none
    else if d < t then some (acc, rest)
    else readDifference bias rest (k + 36) (weight * (36 - t)) acc

theorem readDifference_shorter {bias : Nat} {s : List Char} {k w acc : Nat} {r : Nat × List Char}
    (h : readDifference bias s k w acc = some r) : r.2.length < s.length := by
  induction s generalizing k w acc with
  | nil => simp [readDifference] at h
  | cons c rest ih =>
    simp only [readDifference, Option.bind_eq_bind, Option.bind_eq_some_iff] at h
    obtain ⟨d, _, h⟩ := h
    split at h
    · simp at h
    · split at h
      · cases h; simp
      · have := ih h; simp only [List.length_cons]; omega

def insertAll (s : List Char) (n i bias : Nat) (text : List Char) : Option (List Char) :=
  if s.isEmpty then some text
  else
    match h : readDifference bias s 36 1 0 with
    | none => none
    | some (delta, rest) =>
      let length := text.length + 1
      let n := n + (i + delta) / length
      let place := (i + delta) % length
      if n.isValidChar then
        insertAll rest n (place + 1) (adapt delta length (text.all isBasic))
          (text.insertIdx place (.ofNat n))
      else none
termination_by s.length
decreasing_by exact readDifference_shorter h

/-- What stands before the last hyphen, and behind it. A hyphen with nothing before it parts nothing
and stays. -/
def splitAtHyphen (s : List Char) : List Char × List Char :=
  match s.reverse.span (· != '-') with
  | (_, []) => ([], s)
  | (_, [_]) => ([], s)
  | (behind, _ :: before) => (before.reverse, behind.reverse)

def decode? (s : List Char) : Option (List Char) :=
  let (basic, differences) := splitAtHyphen s
  if basic.all isBasic then insertAll differences 0x80 0 72 basic else none

end RankedRelay.Url.Punycode
