import Mathlib.Data.List.Nodup
import RankedRelay.Registry

namespace RankedRelay

theorem find?_eq_some_of_mem {κ α : Type} [DecidableEq κ] {p : κ × α} {l : List (κ × α)}
    (hnodup : (l.map (·.1)).Nodup) (hmem : p ∈ l) :
    l.find? (·.1 == p.1) = some p := by
  cases hfound : l.find? (·.1 == p.1) with
  | none => exact absurd (beq_self_eq_true p.1) (List.find?_eq_none.mp hfound p hmem)
  | some q =>
    have hkey : q.1 = p.1 := by simpa using List.find?_some hfound
    rw [List.inj_on_of_nodup_map hnodup (List.mem_of_find?_eq_some hfound) hmem hkey]

namespace NetworkId

theorem lt_trans (a b c : NetworkId) (hab : a < b) (hbc : b < c) : a < c :=
  UInt64.lt_trans hab hbc

theorem lt_of_not_lt (a b : NetworkId) (h : ¬a < b) (hne : a ≠ b) : b < a := by
  have hle : b.number ≤ a.number := UInt64.not_lt.mp h
  refine UInt64.lt_of_le_of_ne hle fun heq => hne ?_
  cases a
  cases b
  simp_all

theorem ne_of_lt {a b : NetworkId} (h : a < b) : a ≠ b := by
  intro heq
  subst heq
  exact UInt64.lt_irrefl _ h

end NetworkId

namespace Registry

/-- A registry that insertions have led to. -/
inductive Built : Registry → Prop
  | empty : Built .empty
  | insert {r r' : Registry} {n : NetworkId} {urls : List String} {parse : SchemeParser}
      (before : Built r) (h : r.insert n urls parse = .ok r') : Built r'

structure Entry (n : NetworkId) (es : List Endpoint) : Prop where
  nonempty : es ≠ []
  urls_nodup : (es.map (·.url)).Nodup
  tagged : ∀ e ∈ es, e.network = n

variable {parse : SchemeParser} {r r' : Registry} {n : NetworkId} {es : List Endpoint}

/-- Whether a text is an absolute URL that can be called. -/
def Usable (parse : SchemeParser) (url : String) : Prop :=
  ∃ scheme, parse url = .ok scheme ∧ (scheme = "http" ∨ scheme = "https")

theorem defect?_eq_none {seen : List String} {url : String} :
    defect? parse n seen url = none ↔ Usable parse url ∧ url ∉ seen := by
  unfold defect? Usable
  cases parse url with
  | error e => simp
  | ok scheme =>
    by_cases hscheme : scheme ≠ "http" ∧ scheme ≠ "https"
    · simp [hscheme]
    · have husable : scheme = "http" ∨ scheme = "https" := by tauto
      simp [hscheme, husable]

theorem firstDefect?_eq_none {seen urls : List String} :
    firstDefect? parse n seen urls = none ↔
      (∀ url ∈ urls, Usable parse url) ∧ urls.Nodup ∧ ∀ url ∈ urls, url ∉ seen := by
  induction urls generalizing seen with
  | nil => simp [firstDefect?]
  | cons url rest ih =>
    have hcons : firstDefect? parse n seen (url :: rest) = none ↔
        defect? parse n seen url = none ∧ firstDefect? parse n (url :: seen) rest = none := by
      rw [firstDefect?]
      cases defect? parse n seen url <;> simp
    rw [hcons, defect?_eq_none, ih, List.nodup_cons, List.forall_mem_cons, List.forall_mem_cons]
    constructor
    · rintro ⟨⟨husable, hseen⟩, husables, hnodup, hnew⟩
      refine ⟨⟨husable, husables⟩, ⟨fun hmem => ?_, hnodup⟩, hseen, fun other hmem => ?_⟩
      · exact hnew url hmem List.mem_cons_self
      · exact fun hother => hnew other hmem (List.mem_cons_of_mem _ hother)
    · rintro ⟨⟨husable, husables⟩, ⟨hurl, hnodup⟩, hseen, hnew⟩
      refine ⟨⟨husable, hseen⟩, husables, hnodup, fun other hmem hother => ?_⟩
      rcases List.mem_cons.mp hother with rfl | hother
      · exact hurl hmem
      · exact hnew other hmem hother

theorem insert_eq_ok {urls : List String} (h : r.insert n urls parse = .ok r') :
    Entry n (urls.map fun url => ⟨url, n⟩) ∧
      r' = ⟨insertSorted n (urls.map fun url => ⟨url, n⟩) r.networks⟩ := by
  simp only [insert] at h
  split at h
  · cases h
  · rename_i hdefect
    split at h
    · cases h
    · rename_i hempty
      cases h
      refine ⟨⟨?_, ?_, ?_⟩, rfl⟩
      · simpa using hempty
      · simpa [List.map_map, Function.comp_def] using (firstDefect?_eq_none.mp hdefect).2.1
      · simp

theorem Built.pairwise (h : r.Built) : r.networks.Pairwise (fun p q => p.1 < q.1) := by
  induction h with
  | empty => exact .nil
  | insert _ hinsert ih =>
    obtain ⟨_, rfl⟩ := insert_eq_ok hinsert
    exact insertSorted_pairwise NetworkId.lt_trans NetworkId.lt_of_not_lt ih

theorem Built.ascending (h : r.Built) : (r.networks.map (·.1)).Pairwise (· < ·) :=
  List.pairwise_map.mpr h.pairwise

theorem Built.nodup_networks (h : r.Built) : (r.networks.map (·.1)).Nodup :=
  h.ascending.imp NetworkId.ne_of_lt

theorem Built.entry_of_mem (h : r.Built) (hmem : (n, es) ∈ r.networks) : Entry n es := by
  induction h with
  | empty => cases hmem
  | insert _ hinsert ih =>
    obtain ⟨hentry, rfl⟩ := insert_eq_ok hinsert
    rcases mem_of_mem_insertSorted hmem with hnew | hold
    · cases hnew
      exact hentry
    · exact ih hold

theorem mem_of_endpoints? (h : r.endpoints? n = some es) : (n, es) ∈ r.networks := by
  obtain ⟨p, hp, rfl⟩ := Option.map_eq_some_iff.mp h
  have hn : p.1 = n := by simpa using List.find?_some hp
  subst hn
  exact List.mem_of_find?_eq_some hp

theorem Built.entry (h : r.Built) (hes : r.endpoints? n = some es) : Entry n es :=
  h.entry_of_mem (mem_of_endpoints? hes)

theorem Entry.nodup (h : Entry n es) : es.Nodup :=
  (List.pairwise_map.mp h.urls_nodup).imp fun hne heq => hne (congrArg _ heq)

theorem built_of_ofConfig {c : Config} (h : ofConfig c parse = .ok r) : r.Built := by
  suffices hall : ∀ (networks : List (NetworkId × List String)) (r₀ : Registry), r₀.Built →
      networks.foldlM (fun r n => r.insert n.1 n.2 parse) r₀ = .ok r → r.Built from
    hall c.networks .empty .empty h
  intro networks
  induction networks with
  | nil =>
    intro r₀ h₀ hr
    cases hr
    exact h₀
  | cons p rest ih =>
    intro r₀ h₀ hr
    rw [List.foldlM_cons] at hr
    cases hp : r₀.insert p.1 p.2 parse with
    | error e =>
      rw [hp] at hr
      cases hr
    | ok r₁ =>
      rw [hp] at hr
      exact ih r₁ (.insert h₀ hp) hr

theorem ofConfig_networks {c : Config} (h : ofConfig c parse = .ok r) :
    (∀ n, n ∈ r.networks.map (·.1) ↔ n ∈ c.networks.map (·.1)) ∧
    ∀ n es, (n, es) ∈ r.networks →
      ∃ urls, (n, urls) ∈ c.networks ∧ es = urls.map fun url => ⟨url, n⟩ := by
  suffices hall : ∀ (networks : List (NetworkId × List String)) (r₀ : Registry),
      networks.foldlM (fun r n => r.insert n.1 n.2 parse) r₀ = .ok r →
      (∀ n, n ∈ r.networks.map (·.1) ↔ n ∈ r₀.networks.map (·.1) ∨ n ∈ networks.map (·.1)) ∧
      ∀ n es, (n, es) ∈ r.networks → (n, es) ∈ r₀.networks ∨
        ∃ urls, (n, urls) ∈ networks ∧ es = urls.map fun url => ⟨url, n⟩ by
    obtain ⟨hkeys, hentries⟩ := hall c.networks .empty h
    exact ⟨by simpa [empty] using hkeys, by simpa [empty] using hentries⟩
  intro networks
  induction networks with
  | nil =>
    intro r₀ hr
    cases hr
    simp
  | cons p rest ih =>
    intro r₀ hr
    rw [List.foldlM_cons] at hr
    cases hp : r₀.insert p.1 p.2 parse with
    | error e =>
      rw [hp] at hr
      cases hr
    | ok r₁ =>
      rw [hp] at hr
      obtain ⟨hkeys, hentries⟩ := ih r₁ hr
      obtain ⟨-, rfl⟩ := insert_eq_ok hp
      refine ⟨fun n => ?_, fun n es hmem => ?_⟩
      · rw [hkeys, mem_keys_insertSorted, List.map_cons, List.mem_cons, or_assoc, or_left_comm]
      · rcases hentries n es hmem with hmem | ⟨urls, hurls, rfl⟩
        · rcases mem_of_mem_insertSorted hmem with hnew | hold
          · cases hnew
            exact .inr ⟨p.2, List.mem_cons_self, rfl⟩
          · exact .inl hold
        · exact .inr ⟨urls, List.mem_cons_of_mem _ hurls, rfl⟩

def loopback : Registry := ⟨[(⟨1⟩, [⟨"http://[::1]", ⟨1⟩⟩, ⟨"http://[::2]", ⟨1⟩⟩])]⟩

theorem loopback_built : loopback.Built := by
  have h : (empty.insert ⟨1⟩ ["http://[::1]", "http://[::2]"]).toOption = some loopback := by
    decide +kernel
  cases hinsert : empty.insert ⟨1⟩ ["http://[::1]", "http://[::2]"] with
  | error e =>
    rw [hinsert] at h
    cases h
  | ok r =>
    rw [hinsert] at h
    cases h
    exact .insert .empty hinsert

end Registry

end RankedRelay
