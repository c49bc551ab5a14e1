import RankedRelay.Proofs.Checking
import RankedRelay.Proofs.Spelling

namespace RankedRelay.Json

open Grammar

section Values

variable {α : Type} {read : Bytes → Except Fault (α × Bytes)} {w v rest : Bytes} {s t : String}

theorem skip_behind_blanks (hw : Blanks w) (hv : Grammar.Value v) (hrest : Ends rest) :
    skipValue (w ++ (v ++ rest)) = .ok rest := by
  rw [skipValue_blanks hw, skip_of_value hv hrest]

theorem skipBlank_value (rest : Bytes) (hw : Blanks w) (hv : Grammar.Value v) :
    skipBlank (w ++ (v ++ rest)) = v ++ rest := by
  rw [skipBlank_append hw, hv.skipBlank]

theorem Skips.leaves (hread : Skips read) (hw : Blanks w) (hv : Grammar.Value v) (hrest : Ends rest)
    {r : α × Bytes} (h : read (w ++ (v ++ rest)) = .ok r) : r.2 = rest := by
  have hskip := hread _ _ h
  rw [skip_behind_blanks hw hv hrest] at hskip
  cases hskip
  rfl

theorem says_of_readString {tail : Bytes} (hv : v ++ rest = 0x22 :: tail)
    (h : readString tail = .ok (s, rest)) : Says v s := by
  obtain ⟨raw, hraw, rfl⟩ := readString_eq_ok.mp h
  exact ⟨raw, hraw, List.append_cancel_right (hv.trans quoted_append.symm)⟩

theorem Says.readText (h : Says v s) (hw : Blanks w) :
    readText (w ++ (v ++ rest)) = .ok (s, rest) := by
  obtain ⟨raw, hraw, rfl⟩ := h
  rw [readText, skipBlank_value _ hw (.string hraw.chars), quoted_append]
  exact hraw.read rest

theorem says_of_readText (hw : Blanks w) (hv : Grammar.Value v) (hrest : Ends rest)
    {r : String × Bytes} (h : readText (w ++ (v ++ rest)) = .ok r) : Says v r.1 := by
  have hbehind := skips_readText.leaves hw hv hrest h
  rw [readText, skipBlank_value _ hw hv] at h
  split at h
  · cases h
  · rename_i b tail hb
    split at h
    · rename_i hquote
      subst hquote
      exact says_of_readString hb (hbehind ▸ h)
    · exact absurd h (unexpected_ne_ok _ _ _ _)

theorem Grammar.Value.eq_null (hv : Grammar.Value v) (hb : v.head? = some 0x6e) : v = null := by
  cases hv with
  | literal hv =>
    simp only [literals, List.mem_cons, List.not_mem_nil, or_false] at hv
    rcases hv with rfl | rfl | rfl <;> first | rfl | cases hb
  | number hv =>
    cases hv with
    | positive hm =>
      obtain ⟨b, t, rfl, hlow, hhigh⟩ := hm.head
      cases hb
      exact absurd hhigh (by decide)
    | negative => cases hb
  | string | array | object => cases hb

theorem readOptional_eq (hw : Blanks w) (hv : Grammar.Value v) :
    readOptional read (w ++ (v ++ rest)) =
      if v = null then .ok (none, rest)
      else (read (w ++ (v ++ rest))).map fun r => (some r.1, r.2) := by
  have hbs := skipBlank_value rest hw hv
  split
  · rename_i hnull
    subst hnull
    rw [readOptional, hbs]
    rfl
  · rename_i hnull
    unfold readOptional
    split
    · rename_i tail htail
      obtain ⟨b, t, rfl, -⟩ := hv.head
      rw [hbs, List.cons_append] at htail
      obtain ⟨rfl, -⟩ := List.cons.inj htail
      exact absurd (hv.eq_null rfl) hnull
    · rfl

end Values

section Brackets

variable {α κ : Type} {R : Reading α κ} {b : UInt8} {bs rest : Bytes} {v : α}
  {r : Progress α κ × Bytes}

/-- Whether a value is what a reading makes of an array or an object. -/
def Reading.Compound (R : Reading α κ) (v : α) : Prop :=
  (∃ items, v = R.array items) ∨ ∃ members, v = R.object members

def Place.Bracketed : Place α κ → Prop
  | .value frames => frames ≠ []
  | _ => True

def Progress.Bracketed (R : Reading α κ) : Progress α κ → Prop
  | .finished v => R.Compound v
  | .reached p => p.Bracketed

theorem deliver_bracketed {outer : List (Frame α κ)} (h : outer ≠ [] ∨ R.Compound v) :
    (deliver v outer).Bracketed R := by
  rcases outer with _ | ⟨items | ⟨members, key⟩, outer⟩
  · exact h.resolve_left (absurd rfl)
  · trivial
  · trivial

theorem start_bracketed {frames : List (Frame α κ)} (hframes : frames ≠ [])
    (h : R.start frames b rest = .ok r) : r.1.Bracketed R := by
  have hmap : ∀ {β : Type} {x : Except Fault β} {f : β → α} {g : β → Bytes},
      (x.map fun y => (deliver (f y) frames, g y)) = .ok r → r.1.Bracketed R := by
    intro β x f g hx
    obtain ⟨y, -, rfl⟩ := map_ok hx
    exact deliver_bracketed (.inl hframes)
  unfold Reading.start at h
  split at h
  · exact hmap h
  split at h
  · exact hmap h
  split at h
  · exact hmap h
  split at h
  · exact hmap h
  split at h
  · exact hmap h
  split at h
  · split at h <;> cases h
    trivial
  split at h
  · split at h <;> cases h
    trivial
  · cases h

theorem advance_bracketed {p : Place α κ} (hp : p.Bracketed) (h : R.advance b rest p = .ok r) :
    r.1.Bracketed R := by
  cases p with
  | value frames => exact start_bracketed hp h
  | element first items outer =>
    simp only [Reading.advance] at h
    split at h
    · split at h <;> cases h
      exact deliver_bracketed (.inr (.inl ⟨_, rfl⟩))
    · exact start_bracketed (List.cons_ne_nil _ _) h
  | behindElement items outer =>
    simp only [Reading.advance] at h
    split at h
    · cases h
      trivial
    · split at h <;> cases h
      exact deliver_bracketed (.inr (.inl ⟨_, rfl⟩))
  | member first members outer =>
    simp only [Reading.advance] at h
    split at h
    · unfold Reading.startMember Reading.colon at h
      split at h
      · cases h
      split at h
      · cases h
      split at h <;> cases h
      exact List.cons_ne_nil _ _
    · split at h
      · split at h <;> cases h
        exact deliver_bracketed (.inr (.inr ⟨_, rfl⟩))
      · cases h
  | behindMember members outer =>
    simp only [Reading.advance] at h
    split at h
    · cases h
      trivial
    · split at h <;> cases h
      exact deliver_bracketed (.inr (.inr ⟨_, rfl⟩))

theorem walk_bracketed {p : Place α κ} (hp : p.Bracketed) (h : R.walk p bs = .ok (v, rest)) :
    R.Compound v := by
  fun_induction Reading.walk R p bs with
  | case1 => cases h
  | case2 => cases h
  | case3 p bs b tail hbs w rest' ha =>
    cases h
    exact advance_bracketed hp ha
  | case4 p bs b tail hbs q rest' ha ih => exact ih (advance_bracketed hp ha) h

end Brackets

section Decoding

variable {depth : Nat} {w v rest behind : Bytes} {s : String}

theorem Says.decodeValue (h : Says v s) (hw : Blanks w) :
    decodeValue depth (w ++ (v ++ rest)) = .ok (.string s, rest) := by
  obtain ⟨raw, hraw, rfl⟩ := h
  have hbs := (skipBlank_value rest hw (.string hraw.chars)).trans quoted_append
  refine Reading.walk_of_finished hbs ?_
  have hadvance : (decoding depth).advance 0x22 (raw ++ 0x22 :: rest) (.value []) =
      ((readString (raw ++ 0x22 :: rest)).map fun r => (Value.string r.1, r.2)).map
        fun r => (deliver r.1 [], r.2) := rfl
  rw [hadvance, hraw.read rest]
  rfl

theorem not_compound_string : ¬(decoding depth).Compound (.string s) := by
  rintro (⟨items, h⟩ | ⟨members, h⟩) <;> cases h

theorem says_of_decodeValue (hw : Blanks w) (hv : Grammar.Value v) (hrest : Ends rest)
    (h : decodeValue depth (w ++ (v ++ rest)) = .ok (.string s, behind)) : Says v s := by
  have hbehind : behind = rest := (skips_decodeValue depth).leaves hw hv hrest h
  have hbs := skipBlank_value rest hw hv
  obtain ⟨b, t, rfl, -⟩ := hv.head
  rw [decodeValue, Reading.read, Reading.walk_eq, hbs] at h
  dsimp only [List.cons_append, Reading.advance] at h
  split at h
  · cases h
  rename_i made hstart
  unfold Reading.start at hstart
  split at hstart
  · obtain ⟨_, -, rfl⟩ := map_ok hstart
    cases h
  split at hstart
  · obtain ⟨_, -, rfl⟩ := map_ok hstart
    cases h
  split at hstart
  · obtain ⟨_, -, rfl⟩ := map_ok hstart
    cases h
  split at hstart
  · obtain ⟨q, hnumber, rfl⟩ := map_ok hstart
    obtain ⟨n, -, rfl⟩ := map_ok hnumber
    cases h
  split at hstart
  · rename_i hquote
    obtain ⟨q, hstring, rfl⟩ := map_ok hstart
    obtain ⟨text, hread, rfl⟩ := map_ok hstring
    cases h
    subst hbehind hquote
    exact says_of_readString rfl hread
  split at hstart
  · split at hstart <;> cases hstart
    exact absurd (walk_bracketed (p := .element true [] []) trivial h) not_compound_string
  split at hstart
  · split at hstart <;> cases hstart
    exact absurd (walk_bracketed (p := .member true [] []) trivial h) not_compound_string
  · cases hstart

end Decoding

section Rows

variable {first : Bool} {w rest t : Bytes} {pieces : List Bytes} {m : Member} {i : Item}

def trail (pieces : List Bytes) (t : Bytes) : Bytes := pieces.flatMap (0x2c :: ·) ++ t

def ahead (first : Bool) (w : Bytes) (pieces : List Bytes) (t : Bytes) : Bytes :=
  if first then listed w pieces ++ t else w ++ trail pieces t

theorem Grammar.Ends.trail {close : UInt8} (h : close = 0x5d ∨ close = 0x7d) :
    Ends (trail pieces (close :: rest)) := by
  cases pieces with
  | nil => exact .cons (by rcases h with rfl | rfl <;> decide)
  | cons piece pieces => exact .cons (by decide)

theorem ahead_nil : ahead first w [] t = w ++ t := by
  cases first <;> rfl

theorem ahead_cons {p : Bytes} : ahead first w (p :: pieces) t =
    if first then p ++ trail pieces t else w ++ 0x2c :: (p ++ trail pieces t) := by
  cases first <;> simp [ahead, trail, listed]

theorem skipBlank_member (hm : m.Spaced) : skipBlank (m.bytes ++ t) =
    0x22 :: (m.key ++ 0x22 :: (m.between ++ 0x3a :: (m.item.bytes ++ t))) :=
  (skipBlank_eq_cons (by decide)).mpr ⟨m.before, hm.before, Member.bytes_append⟩

theorem nextKey_close (hw : Blanks w) :
    nextKey first (ahead first w [] (0x7d :: rest)) = .ok none := by
  rw [ahead_nil, nextKey, skipBlank_append hw]
  rfl

theorem nextKey_member (hw : Blanks w) (hm : m.Spaced) :
    nextKey first (ahead first w (m.bytes :: pieces) t) =
      .ok (some (m.key ++ 0x22 :: (m.between ++ 0x3a :: (m.item.bytes ++ trail pieces t)))) := by
  rw [ahead_cons, nextKey]
  cases first with
  | true =>
    rw [if_pos rfl, skipBlank_member hm]
    rfl
  | false =>
    rw [if_neg Bool.false_ne_true, skipBlank_append hw, skipBlank_of_not_blank rfl]
    dsimp only
    rw [if_neg (by decide), if_neg Bool.false_ne_true, if_pos rfl, skipBlank_member hm]
    rfl

theorem closeObject_brace (hw : Blanks w) : closeObject (w ++ 0x7d :: rest) = .ok rest := by
  rw [closeObject, skipBlank_append hw]
  rfl

theorem passColon_between (hw : Blanks w) : passColon (w ++ 0x3a :: t) = .ok t := by
  rw [passColon, skipBlank_append hw]
  rfl

theorem nextElement_close (hw : Blanks w) :
    nextElement first (ahead first w [] (0x5d :: rest)) = .ok none := by
  rw [ahead_nil, nextElement, skipBlank_append hw]
  rfl

theorem skipBlank_item (hi : i.Grammatical) : ∃ b tail, i.value ++ (i.behind ++ t) = b :: tail ∧
    skipBlank (i.bytes ++ t) = b :: tail ∧ b ≠ 0x5d ∧ b ≠ 0x2c := by
  have hbs := skipBlank_value (i.behind ++ t) hi.before hi.value
  rw [← Item.bytes_append] at hbs
  obtain ⟨b, v, hv, hb⟩ := hi.value.head
  rw [hv, List.cons_append] at hbs ⊢
  refine ⟨b, _, rfl, hbs, ?_, ?_⟩
  · rintro rfl
    exact absurd hb (by decide)
  · rintro rfl
    exact absurd hb (by decide)

theorem nextElement_item (hw : Blanks w) (hi : i.Grammatical) :
    nextElement first (ahead first w (i.bytes :: pieces) t) =
      .ok (some (i.value ++ (i.behind ++ trail pieces t))) := by
  obtain ⟨b, tail, hvalue, hbs, hclose, -⟩ := skipBlank_item (t := trail pieces t) hi
  rw [ahead_cons, nextElement, hvalue]
  cases first with
  | true =>
    rw [if_pos rfl, hbs]
    dsimp only
    rw [if_neg hclose, if_pos rfl]
  | false =>
    rw [if_neg Bool.false_ne_true, skipBlank_append hw, skipBlank_of_not_blank rfl]
    dsimp only
    rw [if_neg (by decide), if_neg Bool.false_ne_true, if_pos rfl, hbs]
    dsimp only
    rw [if_neg hclose]

theorem closeArray_item (hw : Blanks w) (hi : i.Grammatical) {r : Bytes} :
    closeArray (ahead first w (i.bytes :: pieces) t) ≠ .ok r := by
  obtain ⟨b, tail, -, hbs, hclose, hcomma⟩ := skipBlank_item (t := trail pieces t) hi
  rw [ahead_cons, closeArray]
  cases first with
  | true =>
    rw [if_pos rfl, hbs]
    dsimp only
    rw [if_neg hclose, if_neg hcomma]
    exact nofun
  | false =>
    rw [if_neg Bool.false_ne_true, skipBlank_append hw, skipBlank_of_not_blank rfl]
    dsimp only
    rw [if_neg (by decide), if_pos rfl, hbs]
    exact nofun

end Rows

namespace Schema

variable {σ : Type} {S : Schema σ} {g : σ} {first : Bool} {w bs t quoted : Bytes}
  {pieces : List Bytes} {m : Member} {i : Item} {name : String} {r : σ × Bytes}

theorem readMembers_of_close (h : nextKey first bs = .ok none) :
    S.readMembers first g bs = .ok (g, bs) := by
  rw [readMembers]
  split <;> rename_i hnext <;> rw [h] at hnext <;> cases hnext

theorem readMembers_eq_ok (h : nextKey first bs = .ok (some quoted)) :
    S.readMembers first g bs = .ok r ↔ ∃ key behind g' rest,
      readString quoted = .ok (key, behind) ∧ S.readMember g key behind = .ok (g', rest) ∧
        S.readMembers false g' rest = .ok r := by
  rw [readMembers]
  split <;> rename_i hnext <;> rw [h] at hnext <;> cases hnext
  constructor
  · intro hread
    split at hread
    · cases hread
    rename_i key behind hkey
    split at hread
    · cases hread
    rename_i g' rest hmember
    exact ⟨key, behind, g', rest, hkey, hmember, hread⟩
  · rintro ⟨key, behind, g', rest, hkey, hmember, hread⟩
    split <;> rename_i hkey' <;> rw [hkey] at hkey' <;> cases hkey'
    split <;> rename_i hmember' <;> rw [hmember] at hmember' <;> cases hmember'
    exact hread

theorem readMember_leaves (hS : S.Skips) (hm : m.Grammatical) (ht : Ends t)
    (h : S.readMember g name (m.between ++ 0x3a :: (m.item.bytes ++ t)) = .ok r) :
    r.2 = m.item.behind ++ t := by
  obtain ⟨rest, hcolon, hskip⟩ := skips_readMember hS h
  rw [passColon_between hm.between, Item.bytes_append] at hcolon
  cases hcolon
  rw [skip_behind_blanks hm.item.before hm.value (.behind hm.item.behind ht)] at hskip
  exact (Except.ok.inj hskip).symm

theorem readMembers_member (hS : S.Skips) (hw : Blanks w) (hm : m.Grammatical)
    (ht : Ends (trail pieces t)) :
    S.readMembers first g (ahead first w (m.bytes :: pieces) t) = .ok r ↔ ∃ name g',
      Spells m.key name ∧
      S.readMember g name (m.between ++ 0x3a :: (m.item.bytes ++ trail pieces t)) =
        .ok (g', m.item.behind ++ trail pieces t) ∧
      S.readMembers false g' (ahead false m.item.behind pieces t) = .ok r := by
  rw [readMembers_eq_ok (nextKey_member hw hm.toSpaced)]
  constructor
  · rintro ⟨name, behind, g', rest, hkey, hmember, hread⟩
    obtain ⟨raw, hraw, heq⟩ := readString_eq_ok.mp hkey
    obtain ⟨rfl, rfl⟩ := hm.key.quote_unique hraw.chars heq
    obtain rfl : rest = m.item.behind ++ trail pieces t := readMember_leaves hS hm ht hmember
    exact ⟨name, g', hraw, hmember, hread⟩
  · rintro ⟨name, g', hname, hmember, hread⟩
    exact ⟨name, _, g', _, hname.read _, hmember, hread⟩

theorem readMember_of_field {f : Field σ} (hw : Blanks w)
    (hf : S.fields.find? (·.name == name) = some f) (hset : f.isSet g = false) :
    S.readMember g name (w ++ 0x3a :: t) = lift (f.read g t) := by
  simp only [readMember, hf, hset, Bool.false_eq_true, if_false, passColon_between hw]

theorem readMember_of_none (hw : Blanks w) (hf : S.fields.find? (·.name == name) = none) :
    S.readMember g name (w ++ 0x3a :: t) = (lift (skipValue t)).map (g, ·) := by
  simp only [readMember, hf, passColon_between hw]

theorem readElements_item {index : Nat} {f : Field σ} {fields : List (Field σ)} (hw : Blanks w)
    (hi : i.Grammatical)
    (h : S.readElements first index g (f :: fields) (ahead first w (i.bytes :: pieces) t) = .ok r) :
    ∃ g' behind, f.read g (i.value ++ (i.behind ++ trail pieces t)) = .ok (g', behind) ∧
      S.readElements false (index + 1) g' fields behind = .ok r := by
  simp only [readElements, nextElement_item hw hi] at h
  split at h
  · cases h
  · rename_i g' behind hread
    exact ⟨g', behind, lift_ok hread, h⟩

theorem readElements_of_close {index : Nat} {f : Field σ} {fields : List (Field σ)}
    (hclose : nextElement first bs = .ok none)
    (h : S.readElements first index g (f :: fields) bs = .ok r) :
    f.optional = true ∧ S.readElements first (index + 1) g fields bs = .ok r := by
  simp only [readElements, hclose] at h
  split at h
  · exact ⟨‹_›, h⟩
  · cases h

end Schema

end RankedRelay.Json
