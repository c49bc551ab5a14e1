import Mathlib.Data.List.DropRight
import RankedRelay.Json.Decode

namespace RankedRelay.Json

section Scanners

variable {atEnd : Cause} {bs rest : Bytes} {d : Digits} {r : Digits × Bytes}

theorem scanExponentDigits_ok (c : Cause) {negative : Bool}
    (h : scanExponentDigits atEnd negative d bs = .ok r) :
    scanExponentDigits c negative d bs = .ok r := by
  cases bs with
  | nil => cases h
  | cons b rest => exact h

theorem scanExponent_ok (c : Cause) (h : scanExponent atEnd d bs = .ok r) :
    scanExponent c d bs = .ok r := by
  unfold scanExponent at h ⊢
  split at h <;> first | exact scanExponentDigits_ok c h | exact h

theorem scanFraction_ok (c : Cause) {whole : Bytes} (h : scanFraction atEnd whole bs = .ok r) :
    scanFraction c whole bs = .ok r := by
  unfold scanFraction at h ⊢
  split at h
  · cases h
  · split at h
    · rename_i hdigit
      simp only [hdigit, if_true]
      exact scanExponent_ok c h
    · cases h
  · exact scanExponent_ok c h

theorem scanDigits_ok (c : Cause) (h : scanDigits atEnd bs = .ok r) : scanDigits c bs = .ok r := by
  cases bs with
  | nil => cases h
  | cons b rest =>
    simp only [scanDigits] at h ⊢
    split at h
    · rename_i hzero
      rw [if_pos hzero]
      cases rest with
      | nil => exact scanFraction_ok c h
      | cons d more =>
        dsimp only at h ⊢
        split at h
        · cases h
        · rename_i hdigit
          simp only [hdigit]
          exact scanFraction_ok c h
    · rename_i hzero
      rw [if_neg hzero]
      split at h
      · rename_i hdigit
        simp only [hdigit, if_true]
        exact scanFraction_ok c h
      · cases h

theorem scanDigits_of_readUnsigned {negative : Bool} {q : Numeral × Bytes}
    (h : readUnsigned negative bs = .ok q) :
    ∃ digits, scanDigits .endOfValue bs = .ok (digits, q.2) := by
  unfold readUnsigned at h
  split at h
  · cases h
  · rename_i digits behind hscan
    obtain ⟨n, -, rfl⟩ := map_ok h
    exact ⟨digits, hscan⟩

theorem skipNumber_of_readNumber {q : Numeral × Bytes} (h : readNumber bs = .ok q) :
    skipNumber bs = .ok q.2 := by
  unfold readNumber at h
  unfold skipNumber
  split at h
  · obtain ⟨digits, hscan⟩ := scanDigits_of_readUnsigned h
    simp only [scanDigits_ok .invalidNumber hscan, Except.map]
  · obtain ⟨digits, hscan⟩ := scanDigits_of_readUnsigned h
    simp only [scanDigits_ok .invalidNumber hscan, Except.map]

theorem skipString_of_readStringOnto {acc : Bytes} {q : String × Bytes}
    (h : readStringOnto acc bs = .ok q) : skipString bs = .ok q.2 := by
  fun_induction readStringOnto acc bs with
  | case2 acc rest s hs =>
    cases h
    simp only [skipString]
  | _ => first | cases h | simp_all [skipString]

theorem skipString_of_readString {q : String × Bytes} (h : readString bs = .ok q) :
    skipString bs = .ok q.2 := by
  unfold readString at h
  split at h
  · rename_i hread
    cases h
    exact skipString_of_readStringOnto hread
  · cases h
  · cases h

end Scanners

variable {α κ : Type}

def Frame.erase : Frame α κ → Frame Unit Unit
  | .array items => .array (items.map fun _ => ())
  | .member members _ => .member (members.map fun _ => ((), ())) ()

def Place.erase : Place α κ → Place Unit Unit
  | .value frames => .value (frames.map Frame.erase)
  | .element first items outer => .element first (items.map fun _ => ()) (outer.map Frame.erase)
  | .behindElement items outer => .behindElement (items.map fun _ => ()) (outer.map Frame.erase)
  | .member first members outer =>
    .member first (members.map fun _ => ((), ())) (outer.map Frame.erase)
  | .behindMember members outer =>
    .behindMember (members.map fun _ => ((), ())) (outer.map Frame.erase)

def Progress.erase : Progress α κ → Progress Unit Unit
  | .finished _ => .finished ()
  | .reached p => .reached p.erase

theorem deliver_erase (v : α) (frames : List (Frame α κ)) :
    (deliver v frames).erase = deliver () (frames.map Frame.erase) := by
  cases frames with
  | nil => rfl
  | cons frame outer => cases frame <;> rfl

namespace Reading

/-- Whether each scanner of a reading stops where the one that skips does. -/
structure Skippable (R : Reading α κ) : Prop where
  number : ∀ {bs r}, R.number bs = .ok r → skipNumber bs = .ok r.2
  string : ∀ {bs r}, R.string bs = .ok r → skipString bs = .ok r.2
  key : ∀ {bs r}, R.key bs = .ok r → skipString bs = .ok r.2

theorem skippable_decoding (depth : Nat) : (decoding depth).Skippable where
  number h := by
    obtain ⟨q, hq, rfl⟩ := map_ok h
    exact skipNumber_of_readNumber hq
  string h := by
    obtain ⟨q, hq, rfl⟩ := map_ok h
    exact skipString_of_readString hq
  key h := skipString_of_readString h

variable {R : Reading α κ} {b : UInt8} {bs rest : Bytes} {r : Progress α κ × Bytes}

theorem letters_erase {letters : Bytes} {v : α} {frames : List (Frame α κ)}
    (h : (skipLetters letters rest).map (deliver v frames, ·) = .ok r) :
    (skipLetters letters rest).map (deliver () (frames.map Frame.erase), ·) =
      .ok (r.1.erase, r.2) := by
  obtain ⟨behind, hletters, rfl⟩ := map_ok h
  rw [hletters, deliver_erase]
  rfl

theorem scanned_erase {scan : Except Fault (α × Bytes)} {skip : Except Fault Bytes}
    {frames : List (Frame α κ)} (hskip : ∀ {q}, scan = .ok q → skip = .ok q.2)
    (h : (scan.map fun q => (deliver q.1 frames, q.2)) = .ok r) :
    ((skip.map ((), ·)).map fun q => (deliver q.1 (frames.map Frame.erase), q.2)) =
      .ok (r.1.erase, r.2) := by
  obtain ⟨q, hscan, rfl⟩ := map_ok h
  rw [hskip hscan, deliver_erase]
  rfl

theorem start_erase (hR : R.Skippable) {frames : List (Frame α κ)}
    (h : R.start frames b rest = .ok r) :
    skipping.start (frames.map Frame.erase) b rest = .ok (r.1.erase, r.2) := by
  unfold start at h ⊢
  split at h
  · rename_i hnull
    rw [if_pos hnull]
    exact letters_erase h
  rename_i hnull
  rw [if_neg hnull]
  split at h
  · rename_i htrue
    rw [if_pos htrue]
    exact letters_erase h
  rename_i htrue
  rw [if_neg htrue]
  split at h
  · rename_i hfalse
    rw [if_pos hfalse]
    exact letters_erase h
  rename_i hfalse
  rw [if_neg hfalse]
  split at h
  · rename_i hdigit
    rw [if_pos hdigit]
    exact scanned_erase hR.number h
  rename_i hdigit
  rw [if_neg hdigit]
  split at h
  · rename_i hquote
    rw [if_pos hquote]
    exact scanned_erase hR.string h
  rename_i hquote
  rw [if_neg hquote]
  split at h
  · rename_i hbracket
    split at h
    · cases h
      rw [if_pos hbracket]
      rfl
    · cases h
  rename_i hbracket
  rw [if_neg hbracket]
  split at h
  · rename_i hbrace
    split at h
    · cases h
      rw [if_pos hbrace]
      rfl
    · cases h
  · cases h

theorem colon_erase {members : List (κ × α)} {key : κ} {outer : List (Frame α κ)}
    (h : colon members key outer bs = .ok r) :
    colon (members.map fun _ => ((), ())) () (outer.map Frame.erase) bs =
      .ok (r.1.erase, r.2) := by
  unfold colon at h ⊢
  split at h
  · cases h
  · split at h
    · rename_i hcolon
      cases h
      simp only [hcolon, if_true]
      rfl
    · cases h

theorem startMember_erase (hR : R.Skippable) {members : List (κ × α)} {outer : List (Frame α κ)}
    (h : R.startMember members outer bs = .ok r) :
    skipping.startMember (members.map fun _ => ((), ())) (outer.map Frame.erase) bs =
      .ok (r.1.erase, r.2) := by
  unfold startMember at h
  split at h
  · cases h
  · rename_i key behind hkey
    have hskip : skipping.key bs = .ok ((), behind) := by
      simp only [skipping, hR.key hkey, Except.map]
    simp only [startMember, hskip]
    exact colon_erase h

theorem advance_erase (hR : R.Skippable) {p : Place α κ} (h : R.advance b rest p = .ok r) :
    skipping.advance b rest p.erase = .ok (r.1.erase, r.2) := by
  cases p with
  | value frames => exact start_erase hR h
  | element first items outer =>
    simp only [advance, Place.erase] at h ⊢
    split at h
    · rename_i hclose
      split at h
      · rename_i hfirst
        cases h
        rw [if_pos hclose, if_pos hfirst, deliver_erase]
      · cases h
    · rename_i hopen
      rw [if_neg hopen]
      exact start_erase hR h
  | behindElement items outer =>
    simp only [advance, Place.erase] at h ⊢
    split at h
    · rename_i hcomma
      cases h
      rw [if_pos hcomma]
      rfl
    · rename_i hcomma
      rw [if_neg hcomma]
      split at h
      · rename_i hclose
        cases h
        rw [if_pos hclose, deliver_erase]
      · cases h
  | member first members outer =>
    simp only [advance, Place.erase] at h ⊢
    split at h
    · rename_i hquote
      rw [if_pos hquote]
      exact startMember_erase hR h
    · rename_i hquote
      rw [if_neg hquote]
      split at h
      · rename_i hclose
        split at h
        · rename_i hfirst
          cases h
          rw [if_pos hclose, if_pos hfirst, deliver_erase]
        · cases h
      · cases h
  | behindMember members outer =>
    simp only [advance, Place.erase] at h ⊢
    split at h
    · rename_i hcomma
      cases h
      rw [if_pos hcomma]
      rfl
    · rename_i hcomma
      rw [if_neg hcomma]
      split at h
      · rename_i hclose
        cases h
        rw [if_pos hclose, deliver_erase]
      · cases h

variable {v : α} {p q : Place α κ} {rest' : Bytes}

def resume (R : Reading α κ) : Progress α κ → Bytes → Except Fault (α × Bytes)
  | .finished v, rest => .ok (v, rest)
  | .reached p, rest => R.walk p rest

theorem walk_eq (p : Place α κ) (bs : Bytes) :
    R.walk p bs =
      match skipBlank bs with
      | [] => .error ⟨R.endedAt p, 0⟩
      | b :: rest =>
        match R.advance b rest p with
        | .error f => .error f
        | .ok r => R.resume r.1 r.2 := by
  rw [walk]
  split
  · rename_i hbs
    rw [hbs]
  · rename_i b rest hbs
    simp only [hbs]
    split <;> rename_i ha <;> simp only [ha] <;> rfl

theorem walk_of_advance {made : Progress α κ} (hbs : skipBlank bs = b :: rest)
    (h : R.advance b rest p = .ok (made, rest')) : R.walk p bs = R.resume made rest' := by
  simp only [walk_eq, hbs, h]

theorem walk_of_reached (hbs : skipBlank bs = b :: rest)
    (h : R.advance b rest p = .ok (.reached q, rest')) : R.walk p bs = R.walk q rest' :=
  walk_of_advance hbs h

theorem walk_of_finished (hbs : skipBlank bs = b :: rest)
    (h : R.advance b rest p = .ok (.finished v, rest')) : R.walk p bs = .ok (v, rest') :=
  walk_of_advance hbs h

theorem walk_erase (hR : R.Skippable) (h : R.walk p bs = .ok (v, rest)) :
    skipping.walk p.erase bs = .ok ((), rest) := by
  fun_induction walk R p bs with
  | case1 => cases h
  | case2 => cases h
  | case3 p bs b tail hbs w rest' ha =>
    cases h
    exact walk_of_finished hbs (advance_erase hR ha)
  | case4 p bs b tail hbs q rest' ha ih =>
    rw [walk_of_reached hbs (advance_erase hR ha)]
    exact ih h

end Reading

def Place.under (outer : List (Frame α κ)) : Place α κ → Place α κ
  | .value frames => .value (frames ++ outer)
  | .element first items inner => .element first items (inner ++ outer)
  | .behindElement items inner => .behindElement items (inner ++ outer)
  | .member first members inner => .member first members (inner ++ outer)
  | .behindMember members inner => .behindMember members (inner ++ outer)

def Progress.under (outer : List (Frame α κ)) : Progress α κ → Progress α κ
  | .finished v => deliver v outer
  | .reached p => .reached (p.under outer)

theorem deliver_append (v : α) (frames outer : List (Frame α κ)) :
    deliver v (frames ++ outer) = (deliver v frames).under outer := by
  cases frames with
  | nil => rfl
  | cons frame inner => cases frame <;> rfl

namespace Reading

variable {R : Reading α κ} {b : UInt8} {bs rest : Bytes} {v : α} {p : Place α κ}
  {frames outer : List (Frame α κ)}

theorem start_under (hdepth : R.depth = none) :
    R.start (frames ++ outer) b rest =
      (R.start frames b rest).map fun r => (r.1.under outer, r.2) := by
  have hmay : ∀ fs : List (Frame α κ), R.mayOpen fs = true := by
    intro fs
    simp only [mayOpen, hdepth]
  have hmap : ∀ {β : Type} (x : Except Fault β) (f : β → α) (g : β → Bytes),
      (x.map fun y => (deliver (f y) (frames ++ outer), g y)) =
        (x.map fun y => (deliver (f y) frames, g y)).map fun r => (r.1.under outer, r.2) := by
    intro β x f g
    cases x with
    | error fault => rfl
    | ok y => simp only [Except.map, deliver_append]
  unfold start
  split
  · exact hmap _ _ _
  split
  · exact hmap _ _ _
  split
  · exact hmap _ _ _
  split
  · exact hmap _ _ _
  split
  · exact hmap _ _ _
  split
  · simp only [hmay, if_true]
    rfl
  split
  · simp only [hmay, if_true]
    rfl
  · rfl

theorem colon_under {members : List (κ × α)} {key : κ} :
    colon members key (frames ++ outer) bs =
      (colon members key frames bs).map fun r => (r.1.under outer, r.2) := by
  unfold colon
  split
  · rfl
  · split <;> rfl

theorem advance_under (hdepth : R.depth = none) :
    R.advance b rest (p.under outer) =
      (R.advance b rest p).map fun r => (r.1.under outer, r.2) := by
  cases p with
  | value frames => exact start_under hdepth
  | element first items inner =>
    simp only [advance, Place.under]
    split
    · rw [deliver_append]
      split <;> rfl
    · have hunder : R.start ((.array items :: inner) ++ outer) b rest = _ := start_under hdepth
      exact hunder
  | behindElement items inner =>
    simp only [advance, Place.under, deliver_append]
    split
    · rfl
    · split <;> rfl
  | member first members inner =>
    simp only [advance, Place.under, deliver_append]
    split
    · unfold startMember
      cases R.key rest with
      | error fault => rfl
      | ok q => exact colon_under
    · split
      · split <;> rfl
      · rfl
  | behindMember members inner =>
    simp only [advance, Place.under, deliver_append]
    split
    · rfl
    · split <;> rfl

/-- A walk that has further brackets around it comes to the end of its value, and goes on behind
it. -/
theorem walk_under (hdepth : R.depth = none) : R.walk (p.under outer) bs =
    (R.walk p bs).bind fun r => R.resume (deliver r.1 outer) r.2 := by
  fun_induction walk R p bs with
  | case1 p bs hbs =>
    have hended : R.endedAt (p.under outer) = R.endedAt p := by cases p <;> rfl
    rw [walk_eq, hbs, ← hended]
    rfl
  | case2 p bs b tail hbs fault ha =>
    have hstep : R.advance b tail (p.under outer) = _ := advance_under hdepth
    rw [ha] at hstep
    simp only [walk_eq, hbs, hstep]
    rfl
  | case3 p bs b tail hbs w rest' ha =>
    have hstep : R.advance b tail (p.under outer) = _ := advance_under hdepth
    rw [ha] at hstep
    rw [walk_of_advance hbs hstep]
    rfl
  | case4 p bs b tail hbs q rest' ha ih =>
    have hstep : R.advance b tail (p.under outer) = _ := advance_under hdepth
    rw [ha] at hstep
    rw [walk_of_advance hbs hstep]
    exact ih

theorem skipBlank_skipBlank (bs : Bytes) : skipBlank (skipBlank bs) = skipBlank bs :=
  List.dropWhile_idempotent _ _

theorem walk_skipBlank (p : Place α κ) (bs : Bytes) : R.walk p (skipBlank bs) = R.walk p bs := by
  rw [walk_eq, skipBlank_skipBlank, ← walk_eq]

end Reading

/-- A value that is decoded can be skipped, and both stop at the same byte. -/
theorem skipValue_of_decodeValue {depth : Nat} {bs : Bytes} {r : Value × Bytes}
    (h : decodeValue depth bs = .ok r) : skipValue bs = .ok r.2 := by
  have hwalk : skipping.walk (.value []) bs = .ok ((), r.2) :=
    Reading.walk_erase (Reading.skippable_decoding depth) h
  simp only [skipValue, Reading.read, hwalk, Except.map]

theorem walk_value (outer : List (Frame Unit Unit)) (bs : Bytes) : skipping.walk (.value outer) bs =
    (skipValue bs).bind fun rest => skipping.resume (deliver () outer) rest := by
  have hwalk : skipping.walk ((Place.value []).under outer) bs = _ := Reading.walk_under rfl
  refine hwalk.trans ?_
  rw [skipValue, Reading.read]
  cases skipping.walk (.value []) bs with
  | error fault => rfl
  | ok r => rfl

theorem walk_of_skipValue {bs rest : Bytes} {outer : List (Frame Unit Unit)}
    (h : skipValue bs = .ok rest) :
    skipping.walk (.value outer) bs = skipping.resume (deliver () outer) rest := by
  rw [walk_value, h]
  rfl

end RankedRelay.Json
