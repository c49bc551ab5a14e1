import RankedRelay.Config.Reading
import RankedRelay.Json.Reading
import RankedRelay.Proofs.Registration

namespace RankedRelay

open Yaml (Node Document)

namespace Yaml.Document

variable (d : Document)

def text? (n : Node) : Option String :=
  match d.follow n with
  | .scalar s => some s.text
  | _ => none

def number? (n : Node) : Option Nat :=
  match d.follow n with
  | .scalar s => if s.isBare intTag then natural? UInt64.size s.text else none
  | _ => none

def items? (n : Node) : Option (List Node) :=
  match d.follow n with
  | .sequence ns => some ns
  | .scalar s => if s.isEmpty then some [] else none
  | _ => none

def entries? (n : Node) : Option (List (Node × Node)) :=
  match d.follow n with
  | .mapping es => some es
  | .scalar s => if s.isEmpty then some [] else none
  | _ => none

def named (name : String) (es : List (Node × Node)) : List (Node × Node) :=
  es.filter fun e => d.text? e.1 == some name

def member? (name : String) (n : Node) : Option Node :=
  match (d.entries? n).map (d.named name) with
  | some [e] => some e.2
  | _ => none

def urls? (n : Node) : Option (List String) := do
  (← d.items? (← d.member? "endpoints" n)).mapM d.text?

def network? (e : Node × Node) : Option (NetworkId × List String) := do
  return (⟨.ofNat (← d.number? e.1)⟩, ← d.urls? e.2)

def listed? (n : Node) : Option (List (NetworkId × List String)) := do
  (← d.entries? n).mapM d.network?

/-- The networks that are listed, in the order of the text, each entry by itself. -/
def networks? : Option (List (NetworkId × List String)) := do
  d.listed? (← d.member? "networks" d.root)

end Yaml.Document

namespace Config

theorem bind_eq_ok {ε α β : Type} {x : Except ε α} {f : α → Except ε β} {b : β}
    (h : x >>= f = .ok b) : ∃ a, x = .ok a ∧ f a = .ok b := by
  cases x with
  | error e => cases h
  | ok a => exact ⟨a, rfl, h⟩

theorem misfit_ne_ok {α : Type} {path : Path} {n : Node} {expected : String} {a : α} :
    misfit path n expected ≠ .ok a := by
  unfold misfit
  split <;> exact nofun

variable {d : Document} {path : Path} {n : Node}

theorem text?_of_readTextAs {expected s : String} (h : readTextAs d expected path n = .ok s) :
    d.text? n = some s := by
  unfold readTextAs at h
  split at h
  · rename_i hscalar
    cases h
    simp only [Document.text?, hscalar]
  · exact absurd h misfit_ne_ok

theorem number?_of_readNatural {type : String} {limit k : Nat}
    (h : readNatural d type limit path n = .ok k) : d.number? n = some k := by
  unfold readNatural at h
  split at h
  · rename_i hscalar
    split at h
    · exact absurd h misfit_ne_ok
    · rename_i j hj
      split at h
      · cases h
        simp only [Document.number?, hscalar, hj]
      · cases h
  · exact absurd h misfit_ne_ok

theorem items?_of_items {ns : List Node} (h : items d path n = .ok ns) : d.items? n = some ns := by
  unfold items at h
  split at h
  · rename_i hsequence
    cases h
    simp only [Document.items?, hsequence]
  · rename_i hscalar
    split at h
    · rename_i hempty
      cases h
      simp only [Document.items?, hscalar, hempty, if_true]
    · exact absurd h misfit_ne_ok
  · exact absurd h misfit_ne_ok

theorem entries?_of_entries {expected : String} {es : List (Node × Node)}
    (h : entries d expected path n = .ok es) : d.entries? n = some es := by
  unfold entries at h
  split at h
  · rename_i hmapping
    cases h
    simp only [Document.entries?, hmapping]
  · rename_i hscalar
    split at h
    · rename_i hempty
      cases h
      simp only [Document.entries?, hscalar, hempty, if_true]
    · exact absurd h misfit_ne_ok
  · exact absurd h misfit_ne_ok

theorem mapM_text?_of_readTexts {i : Nat} {ns : List Node} {ss : List String}
    (h : readTexts d path i ns = .ok ss) : ns.mapM d.text? = some ss := by
  induction ns generalizing i ss with
  | nil =>
    cases h
    rfl
  | cons n ns ih =>
    rw [readTexts] at h
    obtain ⟨s, hs, h⟩ := bind_eq_ok h
    obtain ⟨ss, hss, h⟩ := bind_eq_ok h
    cases h
    rw [List.mapM_cons, text?_of_readTextAs hs, ih hss]
    rfl

theorem foldl_of_readEntries {κ α : Type} [LT κ] [DecidableLT κ] [DecidableEq κ]
    {readKey : Path → Node → Reads κ} {readValue : Path → Node → Reads α}
    {read? : Node × Node → Option (κ × α)}
    (hread : ∀ {p q : Path} {e : Node × Node} {key : κ} {value : α}, readKey p e.1 = .ok key →
      readValue q e.2 = .ok value → read? e = some (key, value))
    {es : List (Node × Node)} {done l : List (κ × α)}
    (h : readEntries readKey readValue path es done = .ok l) :
    ∃ qs, es.mapM read? = some qs ∧ l = qs.foldl (fun l q => insertSorted q.1 q.2 l) done := by
  induction es generalizing done with
  | nil =>
    cases h
    exact ⟨[], rfl, rfl⟩
  | cons e es ih =>
    rw [readEntries] at h
    obtain ⟨key, hkey, h⟩ := bind_eq_ok h
    obtain ⟨value, hvalue, h⟩ := bind_eq_ok h
    obtain ⟨qs, hqs, rfl⟩ := ih h
    refine ⟨(key, value) :: qs, ?_, rfl⟩
    rw [List.mapM_cons, hread hkey hvalue, hqs]
    rfl

/-- Whether one part of what is gathered of a record is what one of its fields is read as. -/
structure Gathers {γ α : Type} (fields : List (Field γ)) (name : String) (get : γ → Option α)
    (read? : Node → Option α) : Prop where
  known : ∃ f ∈ fields, f.name = name
  isSet : ∀ f ∈ fields, f.name = name → ∀ g, f.isSet g = (get g).isSome
  read : ∀ f ∈ fields, f.name = name → ∀ {p v g g'}, f.read p v g = .ok g' →
    ∃ a, read? v = some a ∧ get g' = some a
  keep : ∀ f ∈ fields, f.name ≠ name → ∀ {p v g g'}, f.read p v g = .ok g' → get g' = get g

section

variable {γ α : Type} {fields : List (Field γ)} {name : String} {get : γ → Option α}
  {read? : Node → Option α} {es : List (Node × Node)} {g g' : γ} {a : α}

theorem Gathers.entry {e : Node × Node} (hg : Gathers fields name get read?)
    (h : readFields d fields path (e :: es) g = .ok g') : ∃ g₁,
    readFields d fields path es g₁ = .ok g' ∧
      ((d.text? e.1 = some name ∧ get g = none ∧ ∃ a, read? e.2 = some a ∧ get g₁ = some a) ∨
        d.text? e.1 ≠ some name ∧ get g₁ = get g) := by
  rw [readFields] at h
  obtain ⟨key, hkey, h⟩ := bind_eq_ok h
  rw [text?_of_readTextAs hkey]
  split at h
  · rename_i field hfind
    have hmem := List.mem_of_find?_eq_some hfind
    have hname : field.name = key := by simpa using List.find?_some hfind
    split at h
    · cases h
    · rename_i hunset
      obtain ⟨g₁, hg₁, h⟩ := bind_eq_ok h
      refine ⟨g₁, h, ?_⟩
      by_cases hthis : key = name
      · have hnone : get g = none := by
          rw [hg.isSet field hmem (hname.trans hthis)] at hunset
          simpa using hunset
        exact .inl ⟨congrArg some hthis, hnone, hg.read field hmem (hname.trans hthis) hg₁⟩
      · have hother : field.name ≠ name := fun heq => hthis (hname.symm.trans heq)
        exact .inr ⟨by simpa using hthis, hg.keep field hmem hother hg₁⟩
  · rename_i hfind
    split at h
    · refine ⟨g, h, .inr ⟨?_, rfl⟩⟩
      obtain ⟨field, hmem, rfl⟩ := hg.known
      have hnot := List.find?_eq_none.mp hfind field hmem
      exact fun heq => hnot (beq_iff_eq.mpr (Option.some.inj heq).symm)
    · cases h

theorem Gathers.kept (hg : Gathers fields name get read?)
    (h : readFields d fields path es g = .ok g') (hset : get g = some a) :
    d.named name es = [] ∧ get g' = some a := by
  induction es generalizing g with
  | nil =>
    cases h
    exact ⟨rfl, hset⟩
  | cons e es ih =>
    obtain ⟨g₁, h, ⟨-, hnone, -⟩ | ⟨hother, hkeep⟩⟩ := hg.entry h
    · rw [hnone] at hset
      cases hset
    · obtain ⟨hnamed, hget⟩ := ih h (hkeep.trans hset)
      refine ⟨?_, hget⟩
      rwa [Document.named, List.filter_cons_of_neg (by simpa using hother)]

theorem Gathers.only (hg : Gathers fields name get read?)
    (h : readFields d fields path es g = .ok g') (hunset : get g = none)
    (hset : get g' = some a) : ∃ e, d.named name es = [e] ∧ read? e.2 = some a := by
  induction es generalizing g with
  | nil =>
    cases h
    rw [hunset] at hset
    cases hset
  | cons e es ih =>
    obtain ⟨g₁, h, ⟨hname, -, b, hb, hget⟩ | ⟨hother, hkeep⟩⟩ := hg.entry h
    · obtain ⟨hnamed, hget'⟩ := hg.kept h hget
      rw [hset] at hget'
      cases hget'
      refine ⟨e, ?_, hb⟩
      rw [Document.named, List.filter_cons_of_pos (by simpa using hname)]
      exact congrArg _ hnamed
    · obtain ⟨e', hnamed, he'⟩ := ih h (hkeep.trans hunset)
      refine ⟨e', ?_, he'⟩
      rwa [Document.named, List.filter_cons_of_neg (by simpa using hother)]

theorem Gathers.member (hg : Gathers fields name get read?) {title : String}
    (h : readRecord d title fields g path n = .ok g') (hunset : get g = none)
    (hset : get g' = some a) : ∃ v, d.member? name n = some v ∧ read? v = some a := by
  obtain ⟨es, hes, h⟩ := bind_eq_ok h
  obtain ⟨e, hnamed, he⟩ := hg.only h hunset hset
  refine ⟨e.2, ?_, he⟩
  simp only [Document.member?, entries?_of_entries hes, Option.map_some, hnamed]

end

theorem exists_of_required {α : Type} {name : String} {o : Option α} {a : α}
    (h : required name path o = .ok a) : o = some a := by
  cases o with
  | none => cases h
  | some b =>
    cases h
    rfl

theorem urls?_of_readNetwork {urls : List String} (h : readNetwork d path n = .ok urls) :
    d.urls? n = some urls := by
  obtain ⟨g, hg, h⟩ := bind_eq_ok h
  have hgathers : Gathers [⟨"endpoints", Option.isSome, fun p v _ => do
      return some (← readTexts d p 0 (← items d p v))⟩] "endpoints" id
      fun v => (d.items? v).bind fun ns => ns.mapM d.text? := by
    refine ⟨⟨_, .head _, rfl⟩, ?_, ?_, ?_⟩
    all_goals
      intro f hf hname
      obtain rfl := List.mem_singleton.mp hf
    · exact fun _ => rfl
    · intro p v g g' hread
      obtain ⟨ns, hns, hread⟩ := bind_eq_ok hread
      obtain ⟨ss, hss, hread⟩ := bind_eq_ok hread
      cases hread
      exact ⟨ss, by rw [items?_of_items hns, Option.bind_some, mapM_text?_of_readTexts hss], rfl⟩
    · exact absurd rfl hname
  obtain ⟨v, hv, hread⟩ := hgathers.member hg rfl (exists_of_required h)
  rw [Document.urls?, hv]
  exact hread

theorem listed?_of_readNetworks {l : List (NetworkId × List String)}
    (h : readNetworks d path n = .ok l) : (d.listed? n).map collect = some l := by
  obtain ⟨es, hes, h⟩ := bind_eq_ok h
  have hread : ∀ {p q : Path} {e : Node × Node} {id : NetworkId} {urls : List String},
      (readWord d p e.1).map NetworkId.mk = .ok id → readNetwork d q e.2 = .ok urls →
        d.network? e = some (id, urls) := by
    intro p q e id urls hkey hvalue
    obtain ⟨w, hw, rfl⟩ := Json.map_ok hkey
    obtain ⟨k, hk, rfl⟩ := Json.map_ok hw
    rw [Document.network?, number?_of_readNatural hk, urls?_of_readNetwork hvalue]
    rfl
  obtain ⟨qs, hqs, rfl⟩ := foldl_of_readEntries hread h
  rw [Document.listed?, entries?_of_entries hes]
  exact congrArg (Option.map collect) hqs

theorem gathers_networks : Gathers (fields d) "networks" Gathered.networks
    fun v => (d.listed? v).map collect := by
  have hother : ∀ {α : Type} {x : Reads α} {set : α → Gathered} {g' : Gathered} {l},
      (x >>= fun a => pure (set a)) = Except.ok g' → (∀ a, (set a).networks = l) →
        g'.networks = l := by
    intro α x set g' l h hset
    obtain ⟨a, -, h⟩ := bind_eq_ok h
    cases h
    exact hset a
  refine ⟨⟨_, List.mem_of_getLast? rfl, rfl⟩, ?_, ?_, ?_⟩
  · simp [fields]
  · simp only [fields, List.forall_mem_cons]
    refine ⟨?_, ?_, ?_, ?_, ?_, ?_, ?_, ?_, ?_, nofun⟩
    all_goals try (intro hname; exact absurd hname (by decide))
    intro _ p v g g' h
    obtain ⟨l, hl, h⟩ := bind_eq_ok h
    cases h
    exact ⟨l, listed?_of_readNetworks hl, rfl⟩
  · simp only [fields, List.forall_mem_cons]
    refine ⟨?_, ?_, ?_, ?_, ?_, ?_, ?_, ?_, ?_, nofun⟩
    all_goals intro hname p v g g' h
    all_goals first
      | exact hother h fun _ => rfl
      | exact absurd rfl hname

theorem networks?_of_ofDocument {c : Config} (h : ofDocument d = .ok c) :
    ∃ qs, d.networks? = some qs ∧ c.networks = collect qs := by
  obtain ⟨g, hg, h⟩ := bind_eq_ok h
  obtain ⟨l, hl, h⟩ := bind_eq_ok h
  obtain ⟨v, hv, hread⟩ := gathers_networks.member hg rfl (exists_of_required hl)
  obtain ⟨qs, hqs, rfl⟩ := Option.map_eq_some_iff.mp hread
  refine ⟨qs, ?_, ?_⟩
  · rw [Document.networks?, hv]
    exact hqs
  · split at h
    · cases h
      rfl
    · cases h

/-- What the last entry of a network lists. -/
def last? (qs : List (NetworkId × List String)) (n : NetworkId) : Option (List String) :=
  (qs.reverse.find? (·.1 == n)).map (·.2)

/-- Whether all URLs of an entry are among those of its network, in the same order. -/
def Keeps (c : Config) (q : NetworkId × List String) : Prop :=
  ∃ urls, (q.1, urls) ∈ c.networks ∧ q.2.Sublist urls

variable {qs : List (NetworkId × List String)} {id : NetworkId} {urls : List String}

theorem collect_nodup (qs : List (NetworkId × List String)) : ((collect qs).map (·.1)).Nodup :=
  (List.pairwise_map.mpr (collect_pairwise NetworkId.lt_trans NetworkId.lt_of_not_lt qs)).imp
    NetworkId.ne_of_lt

theorem mem_collect : (id, urls) ∈ collect qs ↔ last? qs id = some urls := by
  rw [last?, ← find?_collect]
  constructor
  · intro h
    rw [find?_eq_some_of_mem (collect_nodup qs) h]
    rfl
  · intro h
    obtain ⟨q, hq, rfl⟩ := Option.map_eq_some_iff.mp h
    have hid : q.1 = id := by simpa using List.find?_some hq
    subst hid
    exact List.mem_of_find?_eq_some hq

theorem last?_of_nodup {q : NetworkId × List String} (hnodup : (qs.map (·.1)).Nodup)
    (hq : q ∈ qs) : last? qs q.1 = some q.2 := by
  have hreverse : (qs.reverse.map (·.1)).Nodup := by
    rw [List.map_reverse, List.nodup_reverse]
    exact hnodup
  rw [last?, find?_eq_some_of_mem hreverse (List.mem_reverse.mpr hq)]
  rfl

theorem exists_last? {q : NetworkId × List String} (hq : q ∈ qs) :
    ∃ urls, last? qs q.1 = some urls := by
  have hfound : (qs.reverse.find? (·.1 == q.1)).isSome = true :=
    List.find?_isSome.mpr ⟨q, List.mem_reverse.mpr hq, beq_self_eq_true q.1⟩
  obtain ⟨p, hp⟩ := Option.isSome_iff_exists.mp hfound
  exact ⟨p.2, by rw [last?, hp, Option.map_some]⟩

/-- A configuration that is loaded has of each network what the last entry of the network lists. So
an entry is kept if the last one has all its URLs too, in this order; none is lost where each
network has one entry. The registry has the same URLs as the configuration. -/
theorem loaded_networks {text : String} {c : Config} (h : ofText text = .ok c) :
    ∃ qs, (Document.ofText text).networks? = some qs ∧
      (∀ id urls, (id, urls) ∈ c.networks ↔ last? qs id = some urls) ∧
      (∀ q ∈ qs, Keeps c q ↔ ∀ urls, last? qs q.1 = some urls → q.2.Sublist urls) ∧
      ((qs.map (·.1)).Nodup → ∀ q ∈ qs, q ∈ c.networks) ∧
      ∀ parse r, Registry.ofConfig c parse = .ok r → ∀ id urls, last? qs id = some urls →
        r.endpoints? id = some (urls.map fun url => ⟨url, id⟩) := by
  obtain ⟨_, hdocument, h⟩ := bind_eq_ok h
  obtain ⟨-, -, h⟩ := bind_eq_ok h
  cases h
  obtain ⟨qs, hqs, hnetworks⟩ := networks?_of_ofDocument hdocument
  have hmem : ∀ id urls, (id, urls) ∈ c.networks ↔ last? qs id = some urls := by
    intro id urls
    rw [hnetworks, mem_collect]
  refine ⟨qs, hqs, hmem, fun q hq => ?_, fun hnodup q hq => ?_,
    fun parse r hr id urls hlast => ?_⟩
  · constructor
    · rintro ⟨urls, hurls, hsub⟩ urls' hlast
      obtain rfl := Option.some.inj (((hmem _ _).mp hurls).symm.trans hlast)
      exact hsub
    · intro hsub
      obtain ⟨urls, hlast⟩ := exists_last? hq
      exact ⟨urls, (hmem _ _).mpr hlast, hsub urls hlast⟩
  · exact (hmem _ _).mpr (last?_of_nodup hnodup hq)
  · rw [Registry.ofConfig_endpoints? (hnetworks ▸ collect_nodup qs) hr]
    exact ⟨urls, (hmem _ _).mpr hlast, rfl⟩

def distinct : String :=
  "networks:\n  2:\n    endpoints: [http://b, http://a]\n  0x1:\n    endpoints: [http://a]\n"

theorem loaded_networks_distinct : ∃ c, ofText distinct = .ok c ∧
    Keeps c (⟨2⟩, ["http://b", "http://a"]) ∧ Keeps c (⟨1⟩, ["http://a"]) := by
  -- Both are read off the document at once, so that it is taken apart only once.
  have hread : ((Document.ofText distinct).networks?, (ofText distinct).toBool) =
      (some [(⟨2⟩, ["http://b", "http://a"]), (⟨1⟩, ["http://a"])], true) := by
    decide +kernel
  obtain ⟨hlisted, hloaded⟩ := Prod.mk.inj hread
  cases hc : ofText distinct with
  | error e =>
    rw [hc] at hloaded
    cases hloaded
  | ok c =>
    obtain ⟨qs, hqs, -, -, hkept, -⟩ := loaded_networks hc
    obtain rfl := Option.some.inj (hqs.symm.trans hlisted)
    exact ⟨c, rfl, ⟨_, hkept (by decide) _ (.head _), .refl _⟩,
      ⟨_, hkept (by decide) _ (.tail _ (.head _)), .refl _⟩⟩

def repeated : String :=
  "networks:\n  1:\n    endpoints: [http://a]\n  0x1:\n    endpoints: [http://b]\n"

theorem loaded_networks_repeated : ∃ c, ofText repeated = .ok c ∧
    (Document.ofText repeated).networks? = some [(⟨1⟩, ["http://a"]), (⟨1⟩, ["http://b"])] ∧
    ¬Keeps c (⟨1⟩, ["http://a"]) := by
  have hread : ((Document.ofText repeated).networks?, (ofText repeated).toOption.map (·.networks)) =
      (some [(⟨1⟩, ["http://a"]), (⟨1⟩, ["http://b"])], some [(⟨1⟩, ["http://b"])]) := by
    decide +kernel
  obtain ⟨hlisted, hloaded⟩ := Prod.mk.inj hread
  cases hc : ofText repeated with
  | error e =>
    rw [hc] at hloaded
    cases hloaded
  | ok c =>
    have hnetworks : c.networks = [(⟨1⟩, ["http://b"])] := by
      rw [hc] at hloaded
      exact Option.some.inj hloaded
    refine ⟨c, rfl, hlisted, ?_⟩
    rintro ⟨urls, hurls, hsub⟩
    rw [hnetworks, List.mem_singleton] at hurls
    cases hurls
    revert hsub
    decide

end Config

end RankedRelay
