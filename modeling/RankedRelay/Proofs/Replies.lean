import RankedRelay.Proofs.Fields

namespace RankedRelay

namespace Json

open Grammar

structure NamedMember extends Member where
  name : String
  grammatical : toMember.Grammatical
  spelled : Spells key name

namespace NamedMember

def entry (m : NamedMember) : String × Bytes := (m.name, m.item.value)

def compact {key v : Bytes} {name : String} (hkey : Spells key name) (hv : Grammar.Value v) :
    NamedMember :=
  ⟨⟨[], key, [], [], v, []⟩, name, ⟨⟨nofun, hkey.chars, nofun, nofun, nofun⟩, hv⟩, hkey⟩

theorem toMember_injective : Function.Injective toMember := by
  rintro ⟨m, name, hm, hname⟩ ⟨m', name', hm', hname'⟩ h
  obtain rfl : m = m' := h
  obtain rfl := hname.unique hname'
  rfl

end NamedMember

structure ObjectText where
  before : Bytes
  inside : Bytes
  members : List NamedMember
  behind : Bytes
  blanks : Blanks before ∧ Blanks inside ∧ Blanks behind

namespace ObjectText

def bytes (o : ObjectText) : Bytes :=
  o.before ++ (objectText o.inside (o.members.map (·.toMember)) ++ o.behind)

def entries (o : ObjectText) : List (String × Bytes) := o.members.map NamedMember.entry

def Distinct (o : ObjectText) : Prop := (o.entries.map Prod.fst).Nodup

theorem grammatical (o : ObjectText) : ∀ m ∈ o.members.map (·.toMember), m.Grammatical := by
  intro m hm
  obtain ⟨m, -, rfl⟩ := List.mem_map.mp hm
  exact m.grammatical

theorem head?_bytes (o : ObjectText) : (skipBlank o.bytes).head? = some 0x7b := by
  rw [bytes, objectText_append, skipBlank_append o.blanks.1]
  rfl

end ObjectText

structure ArrayText where
  before : Bytes
  inside : Bytes
  items : List Item
  behind : Bytes
  blanks : Blanks before ∧ Blanks inside ∧ Blanks behind
  grammatical : ∀ i ∈ items, i.Grammatical

namespace ArrayText

def bytes (a : ArrayText) : Bytes := a.before ++ (arrayText a.inside a.items ++ a.behind)

def entries (a : ArrayText) : List (String × Bytes) :=
  ["jsonrpc", "result", "error"].zip (a.items.map (·.value))

theorem head?_bytes (a : ArrayText) : (skipBlank a.bytes).head? = some 0x5b := by
  rw [bytes, arrayText_append, skipBlank_append a.blanks.1]
  rfl

end ArrayText

end Json

namespace Rpc.Reply

open Json Json.Grammar

section Filled

variable {α : Type} {Fits : Bytes → α → Prop} {name other : String} {v : Bytes}
  {entries : List (String × Bytes)} {held : Option α} {a : α}

/-- Whether a field holds what fits the value that was read under its name. -/
structure Filled (Fits : Bytes → α → Prop) (name : String) (entries : List (String × Bytes))
    (held : Option α) : Prop where
  fits : ∀ v, (name, v) ∈ entries → ∃ a, held = some a ∧ Fits v a
  entry : held.isSome = true → ∃ v, (name, v) ∈ entries

theorem Filled.empty : Filled Fits name [] none := ⟨nofun, nofun⟩

theorem Filled.get (h : Filled Fits name entries (some a)) :
    ∃ v, (name, v) ∈ entries ∧ Fits v a := by
  obtain ⟨v, hv⟩ := h.entry rfl
  obtain ⟨_, ha, hfits⟩ := h.fits v hv
  cases ha
  exact ⟨v, hv, hfits⟩

theorem Filled.isSome_iff (h : Filled Fits name entries held) :
    held.isSome = true ↔ ∃ v, (name, v) ∈ entries := by
  refine ⟨h.entry, fun ⟨v, hv⟩ => ?_⟩
  obtain ⟨a, ha, -⟩ := h.fits v hv
  rw [ha]
  rfl

theorem Filled.pass (h : Filled Fits name entries held) (hname : name ≠ other) :
    Filled Fits name (entries ++ [(other, v)]) held := by
  have hmem : ∀ v', (name, v') ∈ entries ++ [(other, v)] ↔ (name, v') ∈ entries := by
    intro v'
    simp [hname]
  exact ⟨fun v' hv' => h.fits v' ((hmem v').mp hv'),
    fun hsome => (h.entry hsome).imp fun v' => (hmem v').mpr⟩

theorem Filled.fill (hnew : ∀ v', (name, v') ∉ entries) (hfits : Fits v a) :
    Filled Fits name (entries ++ [(name, v)]) (some a) := by
  refine ⟨fun v' hv' => ⟨a, rfl, ?_⟩, fun _ => ⟨v, by simp⟩⟩
  obtain hold | hv' := List.mem_append.mp hv'
  · exact absurd hold (hnew v')
  · cases List.mem_singleton.mp hv'
    exact hfits

end Filled

/-- What a value is decoded to, as far as a probe looks at it. -/
def FitsResult (v : Bytes) (x : Option Value) : Prop :=
  (x = none ↔ v = null) ∧ ∀ s, x = some (.string s) ↔ Says v s

def FitsError (v : Bytes) (x : Option ReplyError) : Prop := x = none ↔ v = null

/-- Whether a reply has been gathered from these names and values. -/
structure Holds (entries : List (String × Bytes)) (g : Gathered) : Prop where
  version : Filled Says "jsonrpc" entries g.jsonrpc
  result : Filled FitsResult "result" entries g.result
  error : Filled FitsError "error" entries g.error

theorem Holds.empty : Holds [] schema.empty := ⟨.empty, .empty, .empty⟩

variable {entries : List (String × Bytes)} {g g' : Gathered} {f : Json.Field Gathered}
  {w v t behind rest : Bytes} {first : Bool} {name : String} {m : Member}

theorem Holds.isSet (h : Holds entries g) (hf : f ∈ schema.fields) :
    f.isSet g = true ↔ ∃ v, (f.name, v) ∈ entries := by
  simp only [schema, List.mem_cons, List.not_mem_nil, or_false] at hf
  obtain rfl | rfl | rfl := hf
  · exact h.version.isSome_iff
  · exact h.result.isSome_iff
  · exact h.error.isSome_iff

theorem Holds.pass (h : Holds entries g) (hname : ∀ f ∈ schema.fields, f.name ≠ name) :
    Holds (entries ++ [(name, v)]) g :=
  ⟨h.version.pass (hname _ (.head _)), h.result.pass (hname _ (.tail _ (.head _))),
    h.error.pass (hname _ (.tail _ (.tail _ (.head _))))⟩

theorem fitsResult_of_read {depth : Nat} {x : Option Value} (hw : Blanks w)
    (hv : Grammar.Value v) (ht : Ends t)
    (h : readOptional (decodeValue depth) (w ++ (v ++ t)) = .ok (x, behind)) : FitsResult v x := by
  rw [readOptional_eq hw hv] at h
  split at h
  · rename_i hnull
    cases h
    exact ⟨iff_of_true rfl hnull, fun s => iff_of_false nofun fun hs => hs.ne_null hnull⟩
  · rename_i hnull
    obtain ⟨⟨y, r⟩, hy, hx⟩ := map_ok h
    cases hx
    refine ⟨iff_of_false nofun hnull, fun s => ⟨?_, ?_⟩⟩
    · intro hs
      cases hs
      exact says_of_decodeValue hw hv ht hy
    · intro hs
      rw [hs.decodeValue hw] at hy
      cases hy
      rfl

theorem fitsError_of_read {x : Option ReplyError} (hw : Blanks w) (hv : Grammar.Value v)
    (h : readOptional ReplyError.read (w ++ (v ++ t)) = .ok (x, behind)) : FitsError v x := by
  rw [readOptional_eq hw hv] at h
  split at h
  · rename_i hnull
    cases h
    exact iff_of_true rfl hnull
  · rename_i hnull
    obtain ⟨y, -, hx⟩ := map_ok h
    cases hx
    exact iff_of_false nofun hnull

theorem Holds.read (h : Holds entries g) (hf : f ∈ schema.fields) (hw : Blanks w)
    (hv : Grammar.Value v) (ht : Ends t) (hnew : ∀ v', (f.name, v') ∉ entries)
    (hread : f.read g (w ++ (v ++ t)) = .ok (g', behind)) :
    Holds (entries ++ [(f.name, v)]) g' := by
  simp only [schema, List.mem_cons, List.not_mem_nil, or_false] at hf
  obtain rfl | rfl | rfl := hf
  · obtain ⟨r, hr, hg⟩ := map_ok hread
    cases hg
    exact ⟨.fill hnew (says_of_readText hw hv ht hr), h.result.pass (by decide),
      h.error.pass (by decide)⟩
  · obtain ⟨r, hr, hg⟩ := map_ok hread
    cases hg
    exact ⟨h.version.pass (by decide), .fill hnew (fitsResult_of_read hw hv ht hr),
      h.error.pass (by decide)⟩
  · obtain ⟨r, hr, hg⟩ := map_ok hread
    cases hg
    exact ⟨h.version.pass (by decide), h.result.pass (by decide),
      .fill hnew (fitsError_of_read hw hv hr)⟩

theorem find_field (name : String) :
    (∃ f ∈ schema.fields, f.name = name ∧ schema.fields.find? (·.name == name) = some f) ∨
      (∀ f ∈ schema.fields, f.name ≠ name) ∧ schema.fields.find? (·.name == name) = none := by
  cases hfind : schema.fields.find? (·.name == name) with
  | none =>
    refine .inr ⟨fun f hf => ?_, rfl⟩
    simpa using List.find?_eq_none.mp hfind f hf
  | some f =>
    exact .inl ⟨f, List.mem_of_find?_eq_some hfind, by simpa using List.find?_some hfind, rfl⟩

theorem Holds.member (h : Holds entries g) (hm : m.Grammatical) (ht : Ends t)
    (hread : schema.readMember g name (m.between ++ 0x3a :: (m.item.bytes ++ t)) =
      .ok (g', behind)) :
    Holds (entries ++ [(name, m.item.value)]) g' := by
  obtain ⟨f, hf, rfl, hfind⟩ | ⟨hname, hfind⟩ := find_field name
  · cases hset : f.isSet g with
    | true =>
      rw [Schema.readMember, hfind] at hread
      simp only [hset, if_true] at hread
      cases hread
    | false =>
      have hnew : ∀ v, (f.name, v) ∉ entries := by
        intro v hv
        rw [(h.isSet hf).mpr ⟨v, hv⟩] at hset
        cases hset
      rw [Schema.readMember_of_field hm.between hfind hset, Item.bytes_append] at hread
      exact h.read hf hm.item.before hm.value (.behind hm.item.behind ht) hnew (lift_ok hread)
  · rw [Schema.readMember_of_none hm.between hfind] at hread
    obtain ⟨_, -, hg⟩ := map_ok hread
    cases hg
    exact h.pass hname

theorem Holds.members {members : List Member} (h : Holds entries g)
    (hmembers : ∀ m ∈ members, m.Grammatical) (hw : Blanks w)
    (hread : schema.readMembers first g (ahead first w (members.map Member.bytes) (0x7d :: rest)) =
      .ok (g', behind)) :
    ∃ named : List NamedMember, named.map (·.toMember) = members ∧
      Holds (entries ++ named.map NamedMember.entry) g' ∧
      ∃ w', Blanks w' ∧ behind = w' ++ 0x7d :: rest := by
  induction members generalizing first g w entries with
  | nil =>
    rw [List.map_nil, Schema.readMembers_of_close (nextKey_close hw)] at hread
    cases hread
    exact ⟨[], rfl, by simpa using h, w, hw, ahead_nil⟩
  | cons m members ih =>
    obtain ⟨hm, hmembers⟩ := List.forall_mem_cons.mp hmembers
    obtain ⟨name, g₁, hname, hmember, hread⟩ :=
      (Schema.readMembers_member skips_schema hw hm (.trail (.inr rfl))).mp hread
    have hheld := h.member hm (.trail (.inr rfl)) hmember
    obtain ⟨named, rfl, hnamed, hrest⟩ := ih hheld hmembers hm.item.behind hread
    refine ⟨⟨m, name, hm, hname⟩ :: named, rfl, ?_, hrest⟩
    simpa [NamedMember.entry] using hnamed

/-- Whether the value of a member can be read into the field of its name, if there is one. -/
structure Readable (name : String) (v : Bytes) : Prop where
  version : name = "jsonrpc" → ∃ s, Says v s
  result : name = "result" → ∃ s, Says v s
  error : name = "error" → v = null

theorem read_of_readable (hf : f ∈ schema.fields) (hw : Blanks w) (hv : Grammar.Value v)
    (h : Readable f.name v) : ∃ g', f.read g (w ++ (v ++ t)) = .ok (g', t) := by
  simp only [schema, List.mem_cons, List.not_mem_nil, or_false] at hf
  obtain rfl | rfl | rfl := hf
  · obtain ⟨s, hs⟩ := h.version rfl
    simp only [hs.readText hw, Except.map]
    exact ⟨_, rfl⟩
  · obtain ⟨s, hs⟩ := h.result rfl
    simp only [readOptional_eq hw hv, if_neg hs.ne_null, hs.decodeValue hw, Except.map]
    exact ⟨_, rfl⟩
  · simp only [readOptional_eq hw hv, if_pos (h.error rfl), Except.map]
    exact ⟨_, rfl⟩

theorem readMember_of_readable (h : Holds entries g) (hm : m.Grammatical) (ht : Ends t)
    (hnew : ∀ v, (name, v) ∉ entries) (hreadable : Readable name m.item.value) :
    ∃ g', schema.readMember g name (m.between ++ 0x3a :: (m.item.bytes ++ t)) =
      .ok (g', m.item.behind ++ t) := by
  obtain ⟨f, hf, rfl, hfind⟩ | ⟨-, hfind⟩ := find_field name
  · have hset : f.isSet g = false := by
      rw [← Bool.not_eq_true, h.isSet hf]
      rintro ⟨v, hv⟩
      exact hnew v hv
    obtain ⟨g', hg'⟩ :=
      read_of_readable (g := g) (t := m.item.behind ++ t) hf hm.item.before hm.value hreadable
    rw [Schema.readMember_of_field hm.between hfind hset, Item.bytes_append, hg']
    exact ⟨g', rfl⟩
  · have hskip : skipValue (m.item.bytes ++ t) = .ok (m.item.behind ++ t) := by
      rw [Item.bytes_append]
      exact skip_behind_blanks hm.item.before hm.value (.behind hm.item.behind ht)
    rw [Schema.readMember_of_none hm.between hfind, hskip]
    exact ⟨g, rfl⟩

theorem readMembers_of_readable {named : List NamedMember} (h : Holds entries g) (hw : Blanks w)
    (hdistinct : ((entries ++ named.map NamedMember.entry).map Prod.fst).Nodup)
    (hreadable : ∀ m ∈ named, Readable m.name m.item.value) :
    ∃ r, schema.readMembers first g
      (ahead first w ((named.map (·.toMember)).map Member.bytes) (0x7d :: rest)) = .ok r := by
  induction named generalizing first g w entries with
  | nil => exact ⟨_, Schema.readMembers_of_close (nextKey_close hw)⟩
  | cons m named ih =>
    obtain ⟨hm, hreadable⟩ := List.forall_mem_cons.mp hreadable
    have ht : Ends (trail ((named.map (·.toMember)).map Member.bytes) (0x7d :: rest)) :=
      .trail (.inr rfl)
    have hnew : ∀ v, (m.name, v) ∉ entries := by
      intro v hv
      rw [List.map_append, List.nodup_append] at hdistinct
      exact hdistinct.2.2 m.name (List.mem_map_of_mem hv) m.name (.head _) rfl
    obtain ⟨g₁, hmember⟩ := readMember_of_readable h m.grammatical ht hnew hm
    have hheld := h.member m.grammatical ht hmember
    obtain ⟨r, hr⟩ : ∃ r, schema.readMembers false g₁ (ahead false m.item.behind
        ((named.map (·.toMember)).map Member.bytes) (0x7d :: rest)) = .ok r :=
      ih hheld m.grammatical.item.behind (by simpa [NamedMember.entry] using hdistinct) hreadable
    exact ⟨r, (Schema.readMembers_member skips_schema hw m.grammatical ht).mpr
      ⟨m.name, g₁, m.spelled, hmember, hr⟩⟩

theorem Holds.elements {items : List Item} {fields : List (Json.Field Gathered)} {index : Nat}
    (h : Holds entries g) (hfields : fields ⊆ schema.fields) (hnames : (fields.map (·.name)).Nodup)
    (hnew : ∀ f ∈ fields, ∀ v, (f.name, v) ∉ entries) (hitems : ∀ i ∈ items, i.Grammatical)
    (hw : Blanks w)
    (hread : schema.readElements first index g fields
      (ahead first w (items.map Item.bytes) (0x5d :: rest)) = .ok (g', behind))
    (hclose : closeArray behind = .ok t) :
    items.length ≤ fields.length ∧
      Holds (entries ++ (fields.map (·.name)).zip (items.map (·.value))) g' := by
  induction fields generalizing items first g w entries index with
  | nil =>
    cases hread
    cases items with
    | nil => exact ⟨Nat.le_refl _, by simpa using h⟩
    | cons i items => exact absurd hclose (closeArray_item hw (hitems i (.head _)))
  | cons f fields ih =>
    obtain ⟨hf, hfields⟩ := List.cons_subset.mp hfields
    obtain ⟨hname, hnames⟩ := List.nodup_cons.mp hnames
    cases items with
    | nil =>
      obtain ⟨-, hread⟩ := Schema.readElements_of_close (nextElement_close hw) hread
      obtain ⟨-, hheld⟩ := ih h hfields hnames
        (fun f hf => hnew f (.tail _ hf)) hitems hw hread
      exact ⟨Nat.zero_le _, by simpa using hheld⟩
    | cons i items =>
      obtain ⟨hi, hitems⟩ := List.forall_mem_cons.mp hitems
      obtain ⟨g₁, behind₁, hvalue, hread⟩ := Schema.readElements_item hw hi hread
      have ht : Ends (i.behind ++ trail (items.map Item.bytes) (0x5d :: rest)) :=
        .behind hi.behind (.trail (.inl rfl))
      have hheld := h.read (w := []) hf nofun hi.value ht (hnew f (.head _)) hvalue
      obtain rfl : behind₁ = i.behind ++ trail (items.map Item.bytes) (0x5d :: rest) :=
        (skips_schema f hf g).leaves (w := []) nofun hi.value ht hvalue
      have hnew' : ∀ f' ∈ fields, ∀ v, (f'.name, v) ∉ entries ++ [(f.name, i.value)] := by
        intro f' hf' v hv
        obtain hold | hv := List.mem_append.mp hv
        · exact hnew f' (.tail _ hf') v hold
        · obtain ⟨heq, -⟩ := Prod.mk.inj (List.mem_singleton.mp hv)
          exact hname (List.mem_map.mpr ⟨f', hf', heq⟩)
      obtain ⟨hlength, hheld⟩ := ih hheld hfields hnames hnew' hitems hi.behind hread
      exact ⟨Nat.succ_le_succ hlength, by simpa using hheld⟩

def ofGathered (g : Gathered) : Reply := ⟨g.jsonrpc.getD "", g.result.join, g.error.join⟩

theorem decode_eq_ok {body : Bytes} {reply : Reply} : decode body = .ok reply ↔
    ∃ g rest, schema.read body = .ok (g, rest) ∧ Blanks rest ∧ reply = ofGathered g := by
  unfold decode
  constructor
  · intro h
    split at h
    · cases h
    · rename_i g rest hread
      obtain ⟨_, hfinish, rfl⟩ := map_ok h
      exact ⟨g, rest, hread, finish_eq_ok.mp hfinish, rfl⟩
  · rintro ⟨g, rest, hread, hrest, rfl⟩
    simp only [hread, finish_eq_ok.mpr hrest]
    rfl

theorem missing?_eq_none : schema.missing? g = none ↔ g.jsonrpc.isSome = true := by
  cases hg : g.jsonrpc <;> simp [Schema.missing?, schema, hg]

theorem read_objectText {members : List Member} (hw : Blanks w) :
    schema.read (w ++ (objectText t members ++ rest)) =
      schema.readObject (listed t (members.map Member.bytes) ++ 0x7d :: rest) := by
  rw [objectText_append, Schema.read, skipBlank_append hw]
  rfl

theorem read_arrayText {items : List Item} (hw : Blanks w) :
    schema.read (w ++ (arrayText t items ++ rest)) =
      schema.readArray (listed t (items.map Item.bytes) ++ 0x5d :: rest) := by
  rw [arrayText_append, Schema.read, skipBlank_append hw]
  rfl

theorem bracket_of_read {b : UInt8} {r : Gathered × Bytes} (h : schema.read v = .ok r)
    (hv : skipBlank v = b :: t) : b = 0x5b ∨ b = 0x7b := by
  simp only [Schema.read, hv] at h
  split at h
  · exact .inl ‹_›
  split at h
  · exact .inr ‹_›
  · exact absurd h (unexpected_ne_ok _ _ _ _)

theorem holds_of_readObject {members : List Member} {r : Gathered × Bytes}
    (hmembers : ∀ m ∈ members, m.Grammatical) (hw : Blanks w)
    (h : schema.readObject (listed w (members.map Member.bytes) ++ 0x7d :: rest) = .ok r) :
    ∃ named : List NamedMember, named.map (·.toMember) = members ∧
      Holds (named.map NamedMember.entry) r.1 := by
  unfold Schema.readObject at h
  split at h
  · cases h
  · cases h
  rename_i g' behind hread
  split at h
  · cases h
  obtain ⟨_, -, rfl⟩ := map_ok h
  obtain ⟨named, hnamed, hheld, -⟩ := Holds.empty.members hmembers hw hread
  exact ⟨named, hnamed, by simpa using hheld⟩

theorem holds_of_readArray {items : List Item} {r : Gathered × Bytes}
    (hitems : ∀ i ∈ items, i.Grammatical) (hw : Blanks w)
    (h : schema.readArray (listed w (items.map Item.bytes) ++ 0x5d :: rest) = .ok r) :
    items.length ≤ 3 ∧ Holds ((schema.fields.map (·.name)).zip (items.map (·.value))) r.1 := by
  unfold Schema.readArray at h
  split at h
  · cases h
  · cases h
  rename_i g' behind hread
  obtain ⟨_, hclose, rfl⟩ := map_ok h
  obtain ⟨hlength, hheld⟩ :=
    Holds.empty.elements (List.Subset.refl _) (by decide) nofun hitems hw hread hclose
  exact ⟨hlength, by simpa using hheld⟩

/-- What a decoded body holds, as an object or as an array. -/
theorem holds_of_decode {body : Bytes} {reply : Reply} (h : decode body = .ok reply) :
    ∃ g, reply = ofGathered g ∧
      ((∃ o : ObjectText, body = o.bytes ∧ Holds o.entries g) ∨
        ∃ a : ArrayText, body = a.bytes ∧ a.items.length ≤ 3 ∧ Holds a.entries g) := by
  obtain ⟨⟨before, v, behind⟩, ⟨⟨hbefore, hbehind⟩, hv⟩, rfl⟩ := check_eq_ok.mp (check_of_decode h)
  obtain ⟨g, rest, hread, -, rfl⟩ := decode_eq_ok.mp h
  refine ⟨g, rfl, ?_⟩
  have hbs : skipBlank (before ++ (v ++ behind)) = v ++ behind := skipBlank_value _ hbefore hv
  have hbracket : ∀ {b t}, v ++ behind = b :: t → b = 0x5b ∨ b = 0x7b := fun heq =>
    bracket_of_read hread (hbs.trans heq)
  simp only [Item.bytes] at hread ⊢
  cases hv with
  | literal hv =>
    simp only [literals, null, List.mem_cons, List.not_mem_nil, or_false] at hv
    rcases hv with rfl | rfl | rfl <;> exact absurd (hbracket rfl) (by decide)
  | number hv =>
    cases hv with
    | positive hm =>
      obtain ⟨b, t, rfl, hb⟩ := hm.head
      obtain rfl | rfl := hbracket rfl
      · exact absurd hb (by decide)
      · exact absurd hb (by decide)
    | negative hm => exact absurd (hbracket rfl) (by decide)
  | string hcs => exact absurd (hbracket rfl) (by decide)
  | @array w items hw hspaced hvalues =>
    have hitems : ∀ i ∈ items, i.Grammatical := fun i hi => ⟨hspaced i hi, hvalues i hi⟩
    obtain ⟨hlength, hheld⟩ :=
      holds_of_readArray hitems hw ((read_arrayText hbefore).symm.trans hread)
    exact .inr ⟨⟨before, w, items, behind, ⟨hbefore, hw, hbehind⟩, hitems⟩, rfl, hlength, hheld⟩
  | @object w members hw hspaced hvalues =>
    have hmembers : ∀ m ∈ members, m.Grammatical := fun m hm => ⟨hspaced m hm, hvalues m hm⟩
    obtain ⟨named, rfl, hheld⟩ :=
      holds_of_readObject hmembers hw ((read_objectText hbefore).symm.trans hread)
    exact .inl ⟨⟨before, w, named, behind, ⟨hbefore, hw, hbehind⟩⟩, rfl, hheld⟩

theorem holds_of_decode_object {o : ObjectText} {reply : Reply} (h : decode o.bytes = .ok reply) :
    ∃ g, reply = ofGathered g ∧ Holds o.entries g := by
  obtain ⟨hbefore, hw, -⟩ := o.blanks
  obtain ⟨g, rest, hread, -, rfl⟩ := decode_eq_ok.mp h
  rw [ObjectText.bytes, read_objectText hbefore] at hread
  obtain ⟨named, hnamed, hheld⟩ := holds_of_readObject o.grammatical hw hread
  obtain rfl : named = o.members := NamedMember.toMember_injective.list_map hnamed
  exact ⟨g, rfl, hheld⟩

theorem decode_of_readable {o : ObjectText} (hdistinct : o.Distinct)
    (hversion : ∃ v, ("jsonrpc", v) ∈ o.entries)
    (hreadable : ∀ m ∈ o.members, Readable m.name m.item.value) :
    ∃ g, decode o.bytes = .ok (ofGathered g) ∧ Holds o.entries g := by
  obtain ⟨hbefore, hw, hbehind⟩ := o.blanks
  obtain ⟨⟨g, left⟩, hread⟩ : ∃ r, schema.readMembers true schema.empty
      (listed o.inside ((o.members.map (·.toMember)).map Member.bytes) ++ 0x7d :: o.behind) =
        .ok r :=
    readMembers_of_readable Holds.empty hw hdistinct hreadable
  obtain ⟨named, hnamed, hheld, w, hw', rfl⟩ := Holds.empty.members o.grammatical hw hread
  obtain rfl : named = o.members := NamedMember.toMember_injective.list_map hnamed
  have hheld : Holds o.entries g := hheld
  have hset : schema.missing? g = none :=
    missing?_eq_none.mpr (hheld.version.isSome_iff.mpr hversion)
  refine ⟨g, decode_eq_ok.mpr ⟨g, o.behind, ?_, hbehind, rfl⟩, hheld⟩
  rw [ObjectText.bytes, read_objectText hbefore]
  simp only [Schema.readObject, hread, hset, closeObject_brace hw']
  rfl

end Rpc.Reply

open Json Json.Grammar

/-- Whether the members of a reply are those of a response whose result is as wanted. -/
structure IsResponse (Wanted : Bytes → Prop) (entries : List (String × Bytes)) : Prop where
  version : ∃ v, ("jsonrpc", v) ∈ entries ∧ Says v "2.0"
  result : ∃ v, ("result", v) ∈ entries ∧ Wanted v
  error : ∀ v, ("error", v) ∈ entries → v = null

def NamesChain (chain : UInt64) (v : Bytes) : Prop := ∃ s, Says v s ∧ Rpc.quantity? s = some chain

/-- The members that a probe looks at. -/
def heeded (entries : List (String × Bytes)) : List (String × Bytes) :=
  entries.filter (·.1 ∈ ["jsonrpc", "result", "error"])

section Responses

variable {Wanted : Bytes → Prop} {entries entries' : List (String × Bytes)}
  {g : Rpc.Reply.Gathered} {result : Value} {chain : UInt64}

theorem IsResponse.of_holds (h : Rpc.Reply.Holds entries g)
    (hg : Rpc.Reply.ofGathered g = ⟨Rpc.version, some result, none⟩)
    (hwanted : ∀ v, Rpc.Reply.FitsResult v (some result) → Wanted v) :
    IsResponse Wanted entries := by
  obtain ⟨version, answer, error⟩ := g
  obtain ⟨hversion, hresult, herror⟩ := Rpc.Reply.mk.inj hg
  have hversion : version = some "2.0" := by
    cases version with
    | none => exact absurd (show "" = "2.0" from hversion) (by decide)
    | some s => exact congrArg some hversion
  have hresult : answer = some (some result) := Option.join_eq_some_iff.mp hresult
  refine ⟨(hversion ▸ h.version).get, ?_, ?_⟩
  · obtain ⟨v, hv, hfits⟩ := (hresult ▸ h.result).get
    exact ⟨v, hv, hwanted v hfits⟩
  · intro v hv
    obtain ⟨x, hx, hfits⟩ := h.error.fits v hv
    obtain rfl : error = some x := hx
    exact hfits.mp herror

theorem namesChain_of_fits (hchain : Reply.chain? result = some chain) (v : Bytes)
    (hfits : Rpc.Reply.FitsResult v (some result)) : NamesChain chain v := by
  unfold Reply.chain? at hchain
  split at hchain
  · exact ⟨_, (hfits.2 _).mp rfl, hchain⟩
  · cases hchain

theorem IsResponse.gathered (h : IsResponse (NamesChain chain) entries)
    (hg : Rpc.Reply.Holds entries g) : ∃ result,
      Rpc.Reply.ofGathered g = ⟨Rpc.version, some result, none⟩ ∧
        Reply.chain? result = some chain := by
  obtain ⟨v, hv, hversion⟩ := h.version
  obtain ⟨version, hversion', hfits⟩ := hg.version.fits v hv
  obtain rfl := hfits.unique hversion
  obtain ⟨v, hv, s, hs, hchain⟩ := h.result
  obtain ⟨x, hx, hfits⟩ := hg.result.fits v hv
  obtain rfl := (hfits.2 s).mpr hs
  have herror : g.error.join = none := by
    cases herror : g.error with
    | none => rfl
    | some x =>
      obtain ⟨v, hv, hfits⟩ := (herror ▸ hg.error).get
      exact hfits.mpr (h.error v hv)
  refine ⟨.string s, ?_, hchain⟩
  rw [Rpc.Reply.ofGathered, hversion', hx, herror]
  rfl

theorem IsResponse.of_perm (h : IsResponse Wanted entries)
    (hperm : (heeded entries).Perm (heeded entries')) : IsResponse Wanted entries' := by
  have hmem : ∀ name ∈ ["jsonrpc", "result", "error"], ∀ v,
      (name, v) ∈ entries ↔ (name, v) ∈ entries' := by
    intro name hname v
    have hiff := hperm.mem_iff (a := (name, v))
    simpa only [heeded, List.mem_filter, hname, decide_true, and_true] using hiff
  refine ⟨?_, ?_, ?_⟩
  · simpa only [hmem "jsonrpc" (by decide)] using h.version
  · simpa only [hmem "result" (by decide)] using h.result
  · simpa only [hmem "error" (by decide)] using h.error

end Responses

namespace Reply

variable {verify : Bool} {n : NetworkId} {body : Bytes} {reply : Reply}

theorem judgeBody_eq_ok : judgeBody verify n body = .ok () ↔
    ∃ result, Rpc.Reply.decode body = .ok ⟨Rpc.version, some result, none⟩ ∧
      (verify = true → chain? result = some n.number) := by
  constructor
  · intro h
    unfold judgeBody at h
    split at h
    · cases h
    rename_i decoded hdecode
    obtain ⟨version, result, error⟩ := decoded
    dsimp only at hdecode h
    split at h
    · cases h
    rename_i hversion
    obtain rfl := not_not.mp hversion
    split at h
    · cases h
    · cases h
    rename_i result
    refine ⟨result, hdecode, ?_⟩
    rintro rfl
    rw [Bool.not_true, if_neg Bool.false_ne_true] at h
    split at h
    · cases h
    rename_i chain hchain
    split at h
    · rename_i hn
      rw [hchain, hn]
    · cases h
  · rintro ⟨result, hdecode, hchain⟩
    simp only [judgeBody, hdecode]
    cases verify with
    | false => rfl
    | true => simp [hchain rfl]

theorem judgeBody_object {o : ObjectText} (hdistinct : o.Distinct) :
    judgeBody true n o.bytes = .ok () ↔ IsResponse (NamesChain n.number) o.entries := by
  rw [judgeBody_eq_ok]
  constructor
  · rintro ⟨result, hdecode, hchain⟩
    obtain ⟨g, hg, hheld⟩ := Rpc.Reply.holds_of_decode_object hdecode
    exact .of_holds hheld hg.symm (namesChain_of_fits (hchain rfl))
  · intro h
    have hunique : ∀ {name v v'}, (name, v) ∈ o.entries → (name, v') ∈ o.entries → v = v' :=
      fun hv hv' => congrArg Prod.snd (List.inj_on_of_nodup_map hdistinct hv hv' rfl)
    obtain ⟨v, hv, hversion⟩ := h.version
    obtain ⟨v', hv', s, hs, -⟩ := h.result
    have hreadable : ∀ m ∈ o.members, Rpc.Reply.Readable m.name m.item.value := by
      intro m hm
      have hentry : (m.name, m.item.value) ∈ o.entries := List.mem_map_of_mem hm
      refine ⟨fun hname => ⟨"2.0", ?_⟩, fun hname => ⟨s, ?_⟩, fun hname => ?_⟩
      · exact hunique (hname ▸ hentry) hv ▸ hversion
      · exact hunique (hname ▸ hentry) hv' ▸ hs
      · exact h.error _ (hname ▸ hentry)
    obtain ⟨g, hdecode, hheld⟩ := Rpc.Reply.decode_of_readable hdistinct ⟨v, hv⟩ hreadable
    obtain ⟨result, hg, hchain⟩ := h.gathered hheld
    exact ⟨result, hg ▸ hdecode, fun _ => hchain⟩

theorem kind_of_judgeBody {e : CallError} (h : judgeBody verify n body = .error e) :
    e.kind = .invalidResponse := by
  unfold judgeBody at h
  repeat' split at h
  all_goals cases h
  all_goals rfl

theorem judge_of_success (h : reply.isSuccess = true) :
    reply.judge verify n = judgeBody verify n reply.body := by
  simp only [judge, h, Bool.not_true, Bool.false_eq_true, if_false]

end Reply

/-- Whether a probe finds an endpoint healthy. -/
def Prober.Accepts (p : Prober) (e : Endpoint) (now : Nat) : Prop :=
  ∃ delay latency, p e now = .answers delay (.ok latency)

section Probes

variable {post : Transport} {verify : Bool} {span : Span} {e : Endpoint} {now delay : Nat}
  {reply : Reply}

theorem Prober.accepts_iff
    (hanswer : post e.url Rpc.probePayload span now = .answers delay (.ok reply)) :
    (Prober.over post verify span).Accepts e now ↔ reply.judge verify e.network = .ok () := by
  simp only [Prober.Accepts, Prober.over, hanswer, Course.map]
  cases hjudge : reply.judge verify e.network with
  | error err => simp [Except.map]
  | ok _ => simp [Except.map]

/-- A success whose body is an object with different names is accepted if it names the chain of the
network, and otherwise refused as an invalid response. So the verdict depends on the three members
that are looked at, and not on their order. -/
theorem probe_of_object {o : ObjectText}
    (hanswer : post e.url Rpc.probePayload span now = .answers delay (.ok reply))
    (hsuccess : 200 ≤ reply.status ∧ reply.status ≤ 299) (hbody : reply.body = o.bytes)
    (hdistinct : o.Distinct) :
    ((Prober.over post true span).Accepts e now ↔
      IsResponse (NamesChain e.network.number) o.entries) ∧
    (¬(Prober.over post true span).Accepts e now →
      ∃ err, Prober.over post true span e now = .answers delay (.error err) ∧
        err.kind = .invalidResponse) ∧
    ∀ (post' : Transport) (delay' : Nat) (reply' : Reply) (o' : ObjectText),
      post' e.url Rpc.probePayload span now = .answers delay' (.ok reply') →
      200 ≤ reply'.status ∧ reply'.status ≤ 299 → reply'.body = o'.bytes → o'.Distinct →
      (heeded o.entries).Perm (heeded o'.entries) →
      ((Prober.over post' true span).Accepts e now ↔
        (Prober.over post true span).Accepts e now) := by
  have hverdict : ∀ {post' : Transport} {delay' : Nat} {reply' : Reply} {o' : ObjectText},
      post' e.url Rpc.probePayload span now = .answers delay' (.ok reply') →
      200 ≤ reply'.status ∧ reply'.status ≤ 299 → reply'.body = o'.bytes → o'.Distinct →
      ((Prober.over post' true span).Accepts e now ↔
        IsResponse (NamesChain e.network.number) o'.entries) := by
    intro post' delay' reply' o' hanswer hsuccess hbody hdistinct
    rw [Prober.accepts_iff hanswer, Reply.judge_of_success (Reply.isSuccess_iff.mpr hsuccess),
      hbody, Reply.judgeBody_object hdistinct]
  refine ⟨hverdict hanswer hsuccess hbody hdistinct, ?_, ?_⟩
  · intro hrefused
    rw [Prober.accepts_iff hanswer] at hrefused
    cases hjudge : reply.judge true e.network with
    | ok _ => exact absurd hjudge hrefused
    | error err =>
      refine ⟨err, by simp only [Prober.over, hanswer, Course.map, hjudge, Except.map], ?_⟩
      rw [Reply.judge_of_success (Reply.isSuccess_iff.mpr hsuccess)] at hjudge
      exact Reply.kind_of_judgeBody hjudge
  · intro post' delay' reply' o' hanswer' hsuccess' hbody' hdistinct' hperm
    rw [hverdict hanswer' hsuccess' hbody' hdistinct', hverdict hanswer hsuccess hbody hdistinct]
    exact ⟨fun h => h.of_perm hperm.symm, fun h => h.of_perm hperm⟩

def Transport.always (reply : Reply) : Transport := fun _ _ _ _ => .answers 3 (.ok reply)

def jumbled : ObjectText where
  before := [0x20]
  inside := []
  members :=
    have hid : Spells (Bytes.ofText "id") "id" := spells_of_read (by decide +kernel)
    have hkey : Spells (Bytes.ofText "r\\u0065sult") "result" := spells_of_read (by decide +kernel)
    have hvalue : Spells (Bytes.ofText "0x1") "0x1" := spells_of_read (by decide +kernel)
    have hjsonrpc : Spells (Bytes.ofText "jsonrpc") "jsonrpc" := spells_of_read (by decide +kernel)
    have hversion : Spells (Bytes.ofText "2.0") "2.0" := spells_of_read (by decide +kernel)
    have hlist : Grammar.Value (arrayText [] []) := .array nofun nofun nofun
    [.compact hid hlist, .compact hkey (.string hvalue.chars),
      .compact hjsonrpc (.string hversion.chars)]
  behind := [0x0a]
  blanks := ⟨by simp [Blanks], nofun, by simp [Blanks]⟩

theorem probe_of_object_jumbled : IsResponse (NamesChain 1) jumbled.entries := by
  have hdistinct : (jumbled.entries.map Prod.fst).Nodup := by decide +kernel
  have haccepts : (Prober.over (.always ⟨200, none, jumbled.bytes⟩) true ⟨0⟩).Accepts
      ⟨"http://[::1]", ⟨1⟩⟩ 0 := by
    rw [Prober.accepts_iff rfl]
    decide +kernel
  exact (probe_of_object rfl ⟨by decide, by decide⟩ rfl hdistinct).1.mp haccepts

/-- Whatever the status and the endpoint, a probe accepts only bodies that are responses: as an
object, or as an array of the three members in their order, the last of which may be left out. -/
theorem response_of_probe (h : (Prober.over post verify span).Accepts e now) :
    ∃ delay reply, post e.url Rpc.probePayload span now = .answers delay (.ok reply) ∧
      ((∃ o : ObjectText, reply.body = o.bytes ∧ IsResponse (· ≠ null) o.entries) ∨
        ∃ a : ArrayText, reply.body = a.bytes ∧ a.items.length ≤ 3 ∧
          IsResponse (· ≠ null) a.entries) := by
  rcases hanswer : post e.url Rpc.probePayload span now with ⟨delay, err | reply⟩ | d | _
  case answers.ok =>
    have hjudge := (Prober.accepts_iff hanswer).mp h
    rw [Reply.judge_of_success (Reply.decode_of_judge hjudge).1] at hjudge
    obtain ⟨result, hdecode, -⟩ := Reply.judgeBody_eq_ok.mp hjudge
    have hpresent : ∀ v, Rpc.Reply.FitsResult v (some result) → v ≠ null := fun v hfits hnull =>
      nomatch hfits.1.mpr hnull
    obtain ⟨g, hg, ⟨o, hbody, hheld⟩ | ⟨a, hbody, hlength, hheld⟩⟩ :=
      Rpc.Reply.holds_of_decode hdecode
    · exact ⟨delay, reply, rfl, .inl ⟨o, hbody, .of_holds hheld hg.symm hpresent⟩⟩
    · exact ⟨delay, reply, rfl, .inr ⟨a, hbody, hlength, .of_holds hheld hg.symm hpresent⟩⟩
  all_goals
    obtain ⟨_, _, hprobe⟩ := h
    simp [Prober.over, hanswer, Course.map] at hprobe

theorem response_of_probe_wordy :
    ∃ o : ObjectText, wordy.body = o.bytes ∧ IsResponse (· ≠ null) o.entries := by
  have haccepts : (Prober.over (.always wordy) true ⟨0⟩).Accepts ⟨"http://[::1]", ⟨1⟩⟩ 0 := by
    rw [Prober.accepts_iff rfl]
    decide +kernel
  obtain ⟨_, _, hanswer, ho | ⟨a, ha, -⟩⟩ := response_of_probe haccepts
  · cases hanswer
    exact ho
  · cases hanswer
    have hhead : (skipBlank wordy.body).head? = some 0x7b := by decide +kernel
    rw [ha, a.head?_bytes] at hhead
    cases hhead

def listedReply : Reply := ⟨200, none, Bytes.ofText "[\"2.0\",\"0x1\"]"⟩

theorem accepts_listed : (Prober.over (.always listedReply) true ⟨0⟩).Accepts
    ⟨"http://[::1]", ⟨1⟩⟩ 0 ∧ ¬∃ o : ObjectText, listedReply.body = o.bytes := by
  constructor
  · rw [Prober.accepts_iff rfl]
    decide +kernel
  · rintro ⟨o, ho⟩
    have hhead : (skipBlank listedReply.body).head? = some 0x5b := by decide +kernel
    rw [ho, o.head?_bytes] at hhead
    cases hhead

end Probes

end RankedRelay
