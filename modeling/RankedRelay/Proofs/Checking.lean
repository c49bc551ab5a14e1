import RankedRelay.Proofs.Acceptance
import RankedRelay.Proofs.Scanning

namespace RankedRelay

namespace Json

open Grammar

variable {b : UInt8} {bs rest v w : Bytes} {first : Bool}

theorem skipBlank_eq_cons (hb : isBlank b = false) :
    skipBlank bs = b :: rest ↔ ∃ w, Blanks w ∧ bs = w ++ b :: rest := by
  constructor
  · intro h
    obtain ⟨w, hw, hbs⟩ := exists_blanks bs
    exact ⟨w, hw, h ▸ hbs⟩
  · rintro ⟨w, hw, rfl⟩
    rw [skipBlank_append hw, skipBlank_of_not_blank hb]

theorem skipValue_eq (bs : Bytes) : skipValue bs =
    match skipBlank bs with
    | [] => .error ⟨.endOfValue, 0⟩
    | b :: rest =>
      (skipping.start [] b rest).bind fun r => (skipping.resume r.1 r.2).map (·.2) := by
  rw [skipValue, Reading.read, Reading.walk_eq]
  cases skipBlank bs with
  | nil => rfl
  | cons b rest =>
    have hadvance : skipping.advance b rest (.value []) = skipping.start [] b rest := rfl
    simp only [hadvance]
    cases skipping.start [] b rest <;> rfl

def SkipsItem (bs mid : Bytes) : Prop := skipValue bs = .ok mid

def SkipsMember (bs mid : Bytes) : Prop :=
  ∃ quoted behind text, skipBlank bs = 0x22 :: quoted ∧ skipString quoted = .ok behind ∧
    skipBlank behind = 0x3a :: text ∧ skipValue text = .ok mid

theorem SkipsMember.shorter {mid : Bytes} (h : SkipsMember bs mid) : mid.length < bs.length := by
  obtain ⟨quoted, behind, text, hquote, hstring, hcolon, hvalue⟩ := h
  have h1 := skipBlank_le bs
  have h2 := skipString_shorter hstring
  have h3 := skipBlank_le behind
  have h4 := skipValue_shorter hvalue
  rw [hquote, List.length_cons] at h1
  rw [hcolon, List.length_cons] at h3
  omega

theorem walk_element {us : List Unit} : skipping.walk (.element first us []) bs = .ok ((), rest) ↔
    (first = true ∧ skipBlank bs = 0x5d :: rest) ∨
    ∃ mid, SkipsItem bs mid ∧
      skipping.walk (.behindElement (() :: us) []) mid = .ok ((), rest) := by
  unfold SkipsItem
  cases hbs : skipBlank bs with
  | nil => simp [Reading.walk_eq, skipValue_eq, hbs]
  | cons b tail =>
    by_cases hclose : b = 0x5d
    · subst hclose
      have hvalue : skipValue bs = .error ⟨.expectedValue, tail.length⟩ := by
        rw [skipValue_eq, hbs]
        rfl
      cases first with
      | false =>
        have hwalk : skipping.walk (.element false us []) bs =
            .error ⟨.expectedValue, tail.length⟩ := by
          rw [Reading.walk_eq, hbs]
          rfl
        simp [hwalk, hvalue]
      | true =>
        have hwalk : skipping.walk (.element true us []) bs = .ok ((), tail) :=
          Reading.walk_of_finished hbs rfl
        simp [hwalk, hvalue]
    · rw [walk_frontElement hbs hclose, ← hbs, Reading.walk_skipBlank, walk_value, hbs]
      cases skipValue bs with
      | error fault => simp [Except.bind, hclose]
      | ok mid => simp [Except.bind, deliver, Reading.resume, hclose]

theorem walk_behind {p next : Place Unit Unit} {close : UInt8} {fault : Cause}
    (hclose : close ≠ 0x2c) (hadvance : ∀ b rest, skipping.advance b rest p =
      if b = 0x2c then .ok (.reached next, rest) else if b = close then .ok (.finished (), rest)
      else .error ⟨fault, rest.length⟩) :
    skipping.walk p bs = .ok ((), rest) ↔ skipBlank bs = close :: rest ∨
      ∃ more, skipBlank bs = 0x2c :: more ∧ skipping.walk next more = .ok ((), rest) := by
  cases hbs : skipBlank bs with
  | nil => simp [Reading.walk_eq, hbs]
  | cons b tail =>
    have hstep := hadvance b tail
    split at hstep
    · rename_i hcomma
      subst hcomma
      rw [Reading.walk_of_reached hbs hstep]
      simp [hclose.symm]
    rename_i hcomma
    split at hstep
    · rename_i hb
      subst hb
      rw [Reading.walk_of_finished hbs hstep]
      simp [hcomma]
    · rename_i hb
      simp [Reading.walk_eq, hbs, hstep, hcomma, hb]

theorem walk_behindElement {us : List Unit} :
    skipping.walk (.behindElement us []) bs = .ok ((), rest) ↔ skipBlank bs = 0x5d :: rest ∨
      ∃ more, skipBlank bs = 0x2c :: more ∧
        skipping.walk (.element false us []) more = .ok ((), rest) :=
  walk_behind (by decide) fun _ _ => rfl

theorem walk_member {us : List (Unit × Unit)} :
    skipping.walk (.member first us []) bs = .ok ((), rest) ↔
    (first = true ∧ skipBlank bs = 0x7d :: rest) ∨
    ∃ mid, SkipsMember bs mid ∧
      skipping.walk (.behindMember (((), ()) :: us) []) mid = .ok ((), rest) := by
  unfold SkipsMember
  cases hbs : skipBlank bs with
  | nil => simp [Reading.walk_eq, hbs]
  | cons b tail =>
    by_cases hquote : b = 0x22
    · subst hquote
      have hadvance : skipping.advance 0x22 tail (.member first us []) =
          skipping.startMember us [] tail := rfl
      have hkey : skipping.key tail = (skipString tail).map ((), ·) := rfl
      rw [Reading.walk_eq, hbs]
      simp only [hadvance, Reading.startMember, hkey]
      cases hstring : skipString tail with
      | error fault => simp [Except.map, hstring]
      | ok behind =>
        cases hcolon : skipBlank behind with
        | nil => simp [Except.map, Reading.colon, hcolon, hstring]
        | cons c text =>
          by_cases hc : c = 0x3a
          · subst hc
            simp only [Except.map, Reading.colon, hcolon, if_true, Reading.resume, walk_value]
            cases hvalue : skipValue text with
            | error fault => simp [Except.bind, hstring, hcolon, hvalue]
            | ok mid => simp [Except.bind, deliver, hstring, hcolon, hvalue]
          · simp [Except.map, Reading.colon, hcolon, hc, hstring]
    by_cases hclose : b = 0x7d
    · subst hclose
      cases first with
      | false =>
        have hwalk : skipping.walk (.member false us []) bs =
            .error ⟨.keyMustBeString, tail.length⟩ := by
          rw [Reading.walk_eq, hbs]
          rfl
        simp [hwalk]
      | true =>
        have hwalk : skipping.walk (.member true us []) bs = .ok ((), tail) :=
          Reading.walk_of_finished hbs rfl
        simp [hwalk]
    · have hstep : skipping.advance b tail (.member first us []) =
          .error ⟨.keyMustBeString, tail.length⟩ := by
        rw [Reading.advance, if_neg hquote, if_neg hclose]
      simp [Reading.walk_eq, hbs, hstep, hquote, hclose]

theorem walk_behindMember {us : List (Unit × Unit)} :
    skipping.walk (.behindMember us []) bs = .ok ((), rest) ↔ skipBlank bs = 0x7d :: rest ∨
      ∃ more, skipBlank bs = 0x2c :: more ∧
        skipping.walk (.member false us []) more = .ok ((), rest) :=
  walk_behind (by decide) fun _ _ => rfl

/-- Pieces with commas between them, up to a closing bracket with `rest` behind it. -/
inductive Row (piece : Bytes → Bytes → Prop) (close : UInt8) (rest : Bytes) : Bytes → Prop where
  | last {bs mid : Bytes} : piece bs mid → skipBlank mid = close :: rest → Row piece close rest bs
  | more {bs mid next : Bytes} : piece bs mid → skipBlank mid = 0x2c :: next →
      Row piece close rest next → Row piece close rest bs

def Inside (piece : Bytes → Bytes → Prop) (close : UInt8) (rest bs : Bytes) : Prop :=
  skipBlank bs = close :: rest ∨ Row piece close rest bs

variable {piece : Bytes → Bytes → Prop} {close : UInt8}

theorem walk_row {τ : Type} (front : Bool → List τ → Place Unit Unit)
    (behind : List τ → Place Unit Unit) {u : τ}
    (hpiece : ∀ {bs mid}, piece bs mid → mid.length < bs.length)
    (hfront : ∀ {first us bs}, skipping.walk (front first us) bs = .ok ((), rest) ↔
      (first = true ∧ skipBlank bs = close :: rest) ∨
      ∃ mid, piece bs mid ∧ skipping.walk (behind (u :: us)) mid = .ok ((), rest))
    (hbehind : ∀ {us bs}, skipping.walk (behind us) bs = .ok ((), rest) ↔
      skipBlank bs = close :: rest ∨
      ∃ next, skipBlank bs = 0x2c :: next ∧ skipping.walk (front false us) next = .ok ((), rest))
    {us : List τ} : skipping.walk (front true us) bs = .ok ((), rest) ↔
      Inside piece close rest bs := by
  constructor
  · suffices hwalk : ∀ {first us bs}, skipping.walk (front first us) bs = .ok ((), rest) →
        (first = true ∧ skipBlank bs = close :: rest) ∨ Row piece close rest bs by
      intro h
      simpa only [Inside, true_and] using hwalk h
    intro first us bs h
    induction hlength : bs.length using Nat.strong_induction_on generalizing first us bs with
    | _ n ih =>
      obtain hempty | ⟨mid, hp, hmid⟩ := hfront.mp h
      · exact .inl hempty
      obtain hclose | ⟨next, hcomma, hnext⟩ := hbehind.mp hmid
      · exact .inr (.last hp hclose)
      have hshort : next.length < n := by
        have h1 := hpiece hp
        have h2 := skipBlank_le mid
        rw [hcomma, List.length_cons] at h2
        omega
      obtain ⟨hfirst, -⟩ | hrow := ih _ hshort hnext rfl
      · cases hfirst
      · exact .inr (.more hp hcomma hrow)
  · rintro (hempty | hrow)
    · exact hfront.mpr (.inl ⟨rfl, hempty⟩)
    generalize true = first
    induction hrow generalizing first us with
    | last hp hclose => exact hfront.mpr (.inr ⟨_, hp, hbehind.mpr (.inl hclose)⟩)
    | more hp hcomma _ ih =>
      exact hfront.mpr (.inr ⟨_, hp, hbehind.mpr (.inr ⟨_, hcomma, ih false⟩)⟩)

section Listed

variable {ι : Type} {text : ι → Bytes} {Good : ι → Prop}

theorem Inside.listed {n : Nat} (hblank : isBlank close = false)
    (hshorter : ∀ {bs mid}, piece bs mid → mid.length < bs.length)
    (hpiece : ∀ {bs mid}, bs.length ≤ n → piece bs mid → ∀ {w t}, Blanks w → mid = w ++ t →
      ∃ i, Good i ∧ bs = text i ++ t)
    (h : Inside piece close rest bs) (hbs : bs.length ≤ n) :
    ∃ (w : Bytes) (items : List ι), Blanks w ∧ (∀ i ∈ items, Good i) ∧
      bs = Grammar.listed w (items.map text) ++ close :: rest := by
  obtain hempty | hrow := h
  · obtain ⟨w, hw, rfl⟩ := (skipBlank_eq_cons hblank).mp hempty
    exact ⟨w, [], hw, nofun, rfl⟩
  suffices hlisted : ∃ i items, (∀ j ∈ i :: items, Good j) ∧
      bs = Grammar.listed [] ((i :: items).map text) ++ close :: rest by
    obtain ⟨i, items, hitems, hbs⟩ := hlisted
    exact ⟨[], i :: items, nofun, hitems, hbs⟩
  induction hrow with
  | last hp hclose =>
    obtain ⟨w, hw, hmid⟩ := (skipBlank_eq_cons hblank).mp hclose
    obtain ⟨i, hi, rfl⟩ := hpiece hbs hp hw hmid
    exact ⟨i, [], by simpa using hi, by simp [Grammar.listed]⟩
  | @more bs mid next hp hcomma _ ih =>
    have hshort : next.length ≤ n := by
      have h1 := hshorter hp
      have h2 := skipBlank_le mid
      rw [hcomma, List.length_cons] at h2
      omega
    obtain ⟨w, hw, hmid⟩ := (skipBlank_eq_cons (by decide)).mp hcomma
    obtain ⟨i, hi, rfl⟩ := hpiece hbs hp hw hmid
    obtain ⟨j, items, hitems, rfl⟩ := ih hshort
    refine ⟨i, j :: items, List.forall_mem_cons.mpr ⟨hi, hitems⟩, ?_⟩
    simp only [List.map_cons, listed_cons_cons, List.append_assoc, List.cons_append]

theorem inside_of_listed (Good : ι → Prop) {items : List ι} (hblank : isBlank close = false)
    (hpiece : ∀ i, Good i → ∀ {c}, c = 0x2c ∨ c = close → ∀ {t},
      ∃ w, Blanks w ∧ piece (text i ++ c :: t) (w ++ c :: t))
    (hw : Blanks w) (hitems : ∀ i ∈ items, Good i) :
    Inside piece close rest (listed w (items.map text) ++ close :: rest) := by
  cases items with
  | nil => exact .inl ((skipBlank_eq_cons hblank).mpr ⟨w, hw, rfl⟩)
  | cons i items =>
    refine .inr ?_
    induction items generalizing i with
    | nil =>
      obtain ⟨w', hw', hp⟩ := hpiece i (hitems i (.head _)) (.inr rfl)
      have htext : listed w ([i].map text) = text i := List.append_nil _
      rw [htext]
      exact .last hp ((skipBlank_eq_cons hblank).mpr ⟨w', hw', rfl⟩)
    | cons j items ih =>
      obtain ⟨hi, hitems⟩ := List.forall_mem_cons.mp hitems
      obtain ⟨w', hw', hp⟩ := hpiece i hi (.inl rfl)
      rw [List.map_cons, List.map_cons, listed_cons_cons, List.append_assoc, List.cons_append]
      exact .more hp ((skipBlank_eq_cons (by decide)).mpr ⟨w', hw', rfl⟩) (ih j hitems)

end Listed

theorem walk_items : skipping.walk (.element true [] []) bs = .ok ((), rest) ↔
    Inside SkipsItem 0x5d rest bs :=
  walk_row (fun first us => .element first us []) (fun us => .behindElement us [])
    skipValue_shorter walk_element walk_behindElement

theorem walk_members : skipping.walk (.member true [] []) bs = .ok ((), rest) ↔
    Inside SkipsMember 0x7d rest bs :=
  walk_row (fun first us => .member first us []) (fun us => .behindMember us [])
    SkipsMember.shorter walk_member walk_behindMember

theorem skipLetters_eq_ok {letters : Bytes} :
    skipLetters letters bs = .ok rest ↔ bs = letters ++ rest := by
  induction letters generalizing bs with
  | nil => simp [skipLetters]
  | cons l letters ih =>
    cases bs with
    | nil => simp [skipLetters]
    | cons b bs =>
      simp only [skipLetters]
      split
      · rename_i hl
        simp [ih, hl]
      · rename_i hl
        simp [Ne.symm hl]

/-- Which value is skipped, by its first byte. -/
inductive Skipped (bs rest : Bytes) : Prop where
  | literal {v : Bytes} : v ∈ literals → skipBlank bs = v ++ rest → Skipped bs rest
  | number {b : UInt8} {tail : Bytes} : skipBlank bs = b :: tail → b = 0x2d ∨ isDigit b = true →
      skipNumber (b :: tail) = .ok rest → Skipped bs rest
  | string {tail : Bytes} : skipBlank bs = 0x22 :: tail → skipString tail = .ok rest →
      Skipped bs rest
  | array {tail : Bytes} : skipBlank bs = 0x5b :: tail → Inside SkipsItem 0x5d rest tail →
      Skipped bs rest
  | object {tail : Bytes} : skipBlank bs = 0x7b :: tail → Inside SkipsMember 0x7d rest tail →
      Skipped bs rest

theorem skipped_of_skipValue (h : skipValue bs = .ok rest) : Skipped bs rest := by
  rw [skipValue_eq] at h
  split at h
  · cases h
  rename_i b tail hbs
  cases hstart : skipping.start [] b tail with
  | error fault =>
    rw [hstart] at h
    cases h
  | ok r =>
    have hrest : (skipping.resume r.1 r.2).map (·.2) = .ok rest := by rwa [hstart] at h
    have hletters : ∀ {letters}, (skipLetters letters tail).map
        (deliver () ([] : List (Frame Unit Unit)), ·) = .ok r → tail = letters ++ rest := by
      intro letters hmap
      obtain ⟨behind, hskip, rfl⟩ := map_ok hmap
      cases hrest
      exact skipLetters_eq_ok.mp hskip
    unfold Reading.start at hstart
    split at hstart
    · rename_i hb
      exact .literal (.head _) (by rw [hbs, hb, hletters hstart]; rfl)
    split at hstart
    · rename_i hb
      exact .literal (.tail _ (.head _)) (by rw [hbs, hb, hletters hstart]; rfl)
    split at hstart
    · rename_i hb
      exact .literal (.tail _ (.tail _ (.head _))) (by rw [hbs, hb, hletters hstart]; rfl)
    split at hstart
    · rename_i hb
      obtain ⟨q, hnumber, rfl⟩ := map_ok hstart
      obtain ⟨behind, hskip, rfl⟩ := map_ok hnumber
      cases hrest
      exact .number hbs hb hskip
    split at hstart
    · rename_i hb
      obtain ⟨q, hstring, rfl⟩ := map_ok hstart
      obtain ⟨behind, hskip, rfl⟩ := map_ok hstring
      cases hrest
      exact .string (hb ▸ hbs) hskip
    split at hstart
    · rename_i hb
      cases hstart
      obtain ⟨q, hwalk, rfl⟩ := map_ok hrest
      exact .array (hb ▸ hbs) (walk_items.mp hwalk)
    split at hstart
    · rename_i hb
      cases hstart
      obtain ⟨q, hwalk, rfl⟩ := map_ok hrest
      exact .object (hb ▸ hbs) (walk_members.mp hwalk)
    · cases hstart

theorem skipValue_of_skipped (h : Skipped bs rest) : skipValue bs = .ok rest := by
  have hletters : ∀ letters, skipLetters letters (letters ++ rest) = .ok rest := fun letters =>
    skipLetters_eq_ok.mpr rfl
  have hwalked : ∀ {b tail p}, skipBlank bs = b :: tail →
      skipping.start [] b tail = .ok (.reached p, tail) →
      skipping.walk p tail = .ok ((), rest) → skipValue bs = .ok rest := by
    intro b tail p hbs hstart hwalk
    have hvalue : skipping.walk (.value []) bs = skipping.walk p tail :=
      Reading.walk_of_reached hbs hstart
    simp only [skipValue, Reading.read, hvalue, hwalk, Except.map]
  cases h with
  | literal hv hbs =>
    simp only [literals, null, List.mem_cons, List.not_mem_nil, or_false] at hv
    rcases hv with rfl | rfl | rfl <;> refine skipValue_of_start hbs ?_
    all_goals
      simp only [Reading.start, List.append_eq, hletters, Except.map]
      rfl
  | number hbs hb hskip =>
    refine skipValue_of_start hbs ?_
    rw [start_number hb]
    simp only [skipping, hskip, Except.map]
    rfl
  | @string tail hbs hskip =>
    refine skipValue_of_start hbs ?_
    have hstart : skipping.start [] 0x22 tail =
        ((skipString tail).map ((), ·)).map fun q => (deliver q.1 [], q.2) := rfl
    rw [hstart, hskip]
    rfl
  | array hbs htail => exact hwalked hbs rfl (walk_items.mpr htail)
  | object hbs htail => exact hwalked hbs rfl (walk_members.mpr htail)

theorem skipValue_blanks (hw : Blanks w) : skipValue (w ++ bs) = skipValue bs := by
  rw [skipValue_eq, skipValue_eq, skipBlank_append hw]

theorem value_of_skip (h : skipValue bs = .ok rest) :
    ∃ w v, Blanks w ∧ Grammar.Value v ∧ bs = w ++ (v ++ rest) := by
  induction hlength : bs.length using Nat.strong_induction_on generalizing bs rest with
  | _ n ih =>
    obtain ⟨w, hw, hbs⟩ := exists_blanks bs
    have htail : ∀ {b tail}, skipBlank bs = b :: tail → tail.length < n := by
      intro b tail heq
      have hle := skipBlank_le bs
      rw [heq, List.length_cons] at hle
      omega
    cases skipped_of_skipValue h with
    | literal hv heq => exact ⟨w, _, hw, .literal hv, by rw [← heq, ← hbs]⟩
    | number heq _ hskip =>
      obtain ⟨v, hv, hnumber⟩ := number_of_skip hskip
      exact ⟨w, v, hw, .number hv, by rw [← hnumber, ← heq, ← hbs]⟩
    | string heq hskip =>
      obtain ⟨cs, hcs, rfl⟩ := chars_of_skip hskip
      exact ⟨w, quoted cs, hw, .string hcs, by rw [quoted_append, ← heq, ← hbs]⟩
    | @array tail heq hinside =>
      have hitem : ∀ {bs mid}, bs.length ≤ tail.length → SkipsItem bs mid → ∀ {w t}, Blanks w →
          mid = w ++ t → ∃ i : Item, i.Grammatical ∧ bs = i.bytes ++ t := by
        intro bs mid hle hskip behind t hbehind hmid
        obtain ⟨before, v, hbefore, hv, rfl⟩ := ih _ (Nat.lt_of_le_of_lt hle (htail heq)) hskip rfl
        refine ⟨⟨before, v, behind⟩, ⟨⟨hbefore, hbehind⟩, hv⟩, ?_⟩
        rw [hmid, Item.bytes_append]
      obtain ⟨w', items, hw', hitems, rfl⟩ :=
        hinside.listed (by decide) skipValue_shorter hitem (Nat.le_refl _)
      refine ⟨w, arrayText w' items, hw, .array hw' (fun i hi => (hitems i hi).toSpaced)
        fun i hi => (hitems i hi).value, ?_⟩
      rw [arrayText_append, ← heq, ← hbs]
    | @object tail heq hinside =>
      have hmember : ∀ {bs mid}, bs.length ≤ tail.length → SkipsMember bs mid → ∀ {w t}, Blanks w →
          mid = w ++ t → ∃ m : Member, m.Grammatical ∧ bs = m.bytes ++ t := by
        rintro bs mid hle ⟨quote, colon, text, hquote, hstring, hcolon, hvalue⟩
        intro behind t hbehind hmid
        have hlt := Nat.lt_of_le_of_lt hle (htail heq)
        obtain ⟨before, hbefore, rfl⟩ := (skipBlank_eq_cons (by decide)).mp hquote
        obtain ⟨key, hkey, rfl⟩ := chars_of_skip hstring
        obtain ⟨between, hbetween, rfl⟩ := (skipBlank_eq_cons (by decide)).mp hcolon
        have hshort : text.length < n := by
          simp only [List.length_append, List.length_cons] at hlt
          omega
        obtain ⟨front, v, hfront, hv, rfl⟩ := ih _ hshort hvalue rfl
        refine ⟨⟨before, key, between, front, v, behind⟩,
          ⟨⟨hbefore, hkey, hbetween, hfront, hbehind⟩, hv⟩, ?_⟩
        rw [hmid, Member.bytes_append, Item.bytes_append]
      obtain ⟨w', members, hw', hmembers, rfl⟩ :=
        hinside.listed (by decide) SkipsMember.shorter hmember (Nat.le_refl _)
      refine ⟨w, objectText w' members, hw, .object hw' (fun m hm => (hmembers m hm).toSpaced)
        fun m hm => (hmembers m hm).value, ?_⟩
      rw [objectText_append, ← heq, ← hbs]

theorem Grammar.Value.skipBlank (hv : Grammar.Value v) (rest : Bytes) :
    skipBlank (v ++ rest) = v ++ rest := by
  obtain ⟨b, t, rfl, hb⟩ := hv.head
  exact skipBlank_of_not_blank hb.not_blank

theorem skip_of_value (hv : Grammar.Value v) (hrest : Ends rest) :
    skipValue (v ++ rest) = .ok rest := by
  apply skipValue_of_skipped
  -- Whether a comma or a bracket follows an item, it ends the value there.
  have hends : ∀ {i : Item} {c t}, i.Spaced → c ∈ [0x2c, 0x5d, 0x7d] →
      Ends (i.behind ++ c :: t) := by
    intro i c t hi hc
    exact .behind hi.behind (.cons (by simp only [List.mem_cons] at hc ⊢; tauto))
  induction hv generalizing rest with
  | literal hv => exact .literal hv ((Grammar.Value.literal hv).skipBlank _)
  | number hv =>
    have hbs := (Grammar.Value.number hv).skipBlank rest
    cases hv with
    | positive hm =>
      obtain ⟨b, t, rfl, hb⟩ := hm.head
      exact .number hbs (.inr (isDigit_iff.mpr hb)) (skip_of_number (.positive hm) hrest)
    | negative hm => exact .number hbs (.inl rfl) (skip_of_number (.negative hm) hrest)
  | string hcs =>
    have hbs := (Grammar.Value.string hcs).skipBlank rest
    exact .string (hbs.trans quoted_append) (skip_of_chars hcs)
  | @array w items hw hspaced hvalues ih =>
    have hbs := (Grammar.Value.array hw hspaced hvalues).skipBlank rest
    refine .array (hbs.trans arrayText_append)
      (inside_of_listed (· ∈ items) (by decide) ?_ hw fun _ hi => hi)
    intro i hi c hc t
    have hspace := hspaced i hi
    refine ⟨i.behind, hspace.behind, ?_⟩
    rw [SkipsItem, Item.bytes_append, skipValue_blanks hspace.before]
    exact skipValue_of_skipped (ih i hi (hends hspace (by rcases hc with rfl | rfl <;> decide)))
  | @object w members hw hspaced hvalues ih =>
    have hbs := (Grammar.Value.object hw hspaced hvalues).skipBlank rest
    refine .object (hbs.trans objectText_append)
      (inside_of_listed (· ∈ members) (by decide) ?_ hw fun _ hm => hm)
    intro m hm c hc t
    obtain ⟨hbefore, hkey, hbetween, hitem⟩ := hspaced m hm
    refine ⟨m.item.behind, hitem.behind, _, _, m.item.bytes ++ c :: t, ?_, skip_of_chars hkey,
      (skipBlank_eq_cons (by decide)).mpr ⟨m.between, hbetween, rfl⟩, ?_⟩
    · exact (skipBlank_eq_cons (by decide)).mpr ⟨m.before, hbefore, Member.bytes_append⟩
    · rw [Item.bytes_append, skipValue_blanks hitem.before]
      exact skipValue_of_skipped (ih m hm (hends hitem (by rcases hc with rfl | rfl <;> decide)))

theorem finish_eq_ok : finish rest = .ok () ↔ Blanks rest := by
  unfold finish
  split
  · rename_i hrest
    exact iff_of_true rfl (blanks_of_skipBlank hrest)
  · rename_i b more hrest
    refine iff_of_false nofun fun hblank => ?_
    have hnil : skipBlank (rest ++ []) = [] := skipBlank_append hblank
    rw [List.append_nil, hrest] at hnil
    cases hnil

/-- The check accepts the texts of the grammar and no others. -/
theorem check_eq_ok {text : Bytes} : check text = .ok () ↔ Grammar.Text text := by
  unfold check
  constructor
  · intro h
    split at h
    · cases h
    rename_i rest hskip
    obtain ⟨w, v, hw, hv, rfl⟩ := value_of_skip hskip
    exact ⟨⟨w, v, rest⟩, ⟨⟨hw, finish_eq_ok.mp h⟩, hv⟩, rfl⟩
  · rintro ⟨i, hi, rfl⟩
    have hends : Ends (i.behind ++ []) := .behind hi.behind nofun
    rw [List.append_nil] at hends
    rw [Item.bytes, skipValue_blanks hi.before, skip_of_value hi.value hends]
    exact finish_eq_ok.mpr hi.behind

end Json

theorem Reply.isSuccess_iff {reply : Reply} :
    reply.isSuccess = true ↔ 200 ≤ reply.status ∧ reply.status ≤ 299 := by
  simp only [Reply.isSuccess, Bool.and_eq_true, decide_eq_true_eq]
  omega

/-- A reply that arrives in time is passed on as it came if it is a success and its body is a text
of the grammar. Otherwise the attempt fails, and always in the same way. -/
theorem verdict_of_reply {attempt : Flight (Except CallError Reply)} {reply : Reply} {d : Nat}
    (hcourse : attempt.course = .answers d (.ok reply)) (hd : d ≤ attempt.limit) :
    (∀ received, Walk.verdict? attempt = some (.ok received) ↔
      received = reply ∧ (200 ≤ reply.status ∧ reply.status ≤ 299) ∧
        Json.Grammar.Text reply.body) ∧
    (¬((200 ≤ reply.status ∧ reply.status ≤ 299) ∧ Json.Grammar.Text reply.body) →
      ∃ e, Walk.verdict? attempt = some (.error e) ∧ e.kind = .invalidResponse) := by
  have hverdict : Walk.verdict? attempt = some reply.relayable := by
    simp only [Walk.verdict?, Flight.ending, hcourse, if_pos hd]
  rw [hverdict, ← Reply.isSuccess_iff, ← Json.check_eq_ok]
  unfold Reply.relayable
  cases reply.isSuccess with
  | false => simp [CallError.kind]
  | true =>
    cases Json.check reply.body with
    | error fault => simp [CallError.kind]
    | ok _ => simp [eq_comm]

def lax : Reply := ⟨299, none, Bytes.ofText "\n[-1e999,\x7b\"\\ud800\":[]\x7d] "⟩

theorem verdict_of_reply_lax : Walk.verdict? ⟨0, 10, .answers 10 (.ok lax)⟩ = some (.ok lax) := by
  have htext : Json.Grammar.Text lax.body := Json.check_eq_ok.mp (by decide +kernel)
  exact ((verdict_of_reply rfl (Nat.le_refl 10)).1 lax).mpr ⟨rfl, by decide, htext⟩

end RankedRelay
