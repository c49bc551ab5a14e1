import Mathlib.Data.List.Induction
import RankedRelay.Proofs.Registry

namespace RankedRelay.Registry

structure Clean (parse : SchemeParser) (urls : List String) : Prop where
  usable : ∀ url ∈ urls, Usable parse url
  nodup : urls.Nodup

/-- Whether a network can be registered with URLs. -/
structure Admissible (parse : SchemeParser) (urls : List String) : Prop extends
    Clean parse urls where
  nonempty : urls ≠ []

/-- What is said when a network is not registered with URLs. It is about the first of them that
something is wrong with, and about the first thing that is. -/
inductive Refused (parse : SchemeParser) (n : NetworkId) (urls : List String) : String → Prop
  | badUrl {before after : List String} {url error : String}
      (split : urls = before ++ url :: after) (clean : Clean parse before)
      (bad : parse url = .error error) :
      Refused parse n urls ("network " ++ n.text ++ ": bad endpoint url " ++ Text.quoted url ++
        ": " ++ error)
  | scheme {before after : List String} {url scheme : String}
      (split : urls = before ++ url :: after) (clean : Clean parse before)
      (absolute : parse url = .ok scheme) (other : scheme ≠ "http" ∧ scheme ≠ "https") :
      Refused parse n urls ("network " ++ n.text ++ ": endpoint " ++ Text.quoted url ++
        " must use http or https")
  | twice {before after : List String} {url : String}
      (split : urls = before ++ url :: after) (clean : Clean parse before)
      (usable : Usable parse url) (again : url ∈ before) :
      Refused parse n urls ("network " ++ n.text ++ ": endpoint " ++ Text.quoted url ++
        " listed twice")
  | none (empty : urls = []) : Refused parse n urls ("network " ++ n.text ++ " has no endpoints")

variable {parse : SchemeParser} {r r' : Registry} {n m : NetworkId} {urls seen : List String}
  {reason : String} {e : ConfigError}

theorem firstDefect?_nil_eq_none : firstDefect? parse n [] urls = none ↔ Clean parse urls := by
  rw [firstDefect?_eq_none]
  constructor
  · rintro ⟨husable, hnodup, -⟩
    exact ⟨husable, hnodup⟩
  · intro h
    exact ⟨h.usable, h.nodup, fun _ _ => List.not_mem_nil⟩

theorem firstDefect?_eq_some : firstDefect? parse n seen urls = some reason ↔
    ∃ before url after, urls = before ++ url :: after ∧ firstDefect? parse n seen before = none ∧
      defect? parse n (before.reverse ++ seen) url = some reason := by
  induction urls generalizing seen with
  | nil => simp [firstDefect?]
  | cons first rest ih =>
    constructor
    · intro h
      rw [firstDefect?] at h
      cases hfirst : defect? parse n seen first with
      | some found =>
        rw [hfirst] at h
        exact ⟨[], first, rest, rfl, rfl, hfirst.trans h⟩
      | none =>
        rw [hfirst] at h
        obtain ⟨before, url, after, rfl, hbefore, hurl⟩ := ih.mp h
        refine ⟨first :: before, url, after, rfl, ?_, ?_⟩
        · simp only [firstDefect?, hfirst, hbefore]
        · simpa using hurl
    · rintro ⟨before, url, after, hsplit, hbefore, hurl⟩
      cases before with
      | nil =>
        obtain ⟨rfl, rfl⟩ := List.cons.inj hsplit
        have hfirst : defect? parse n seen first = some reason := hurl
        simp only [firstDefect?, hfirst]
      | cons _ before =>
        obtain ⟨rfl, rfl⟩ := List.cons.inj hsplit
        rw [firstDefect?] at hbefore ⊢
        cases hfirst : defect? parse n seen first with
        | some found => simp [hfirst] at hbefore
        | none =>
          simp only [hfirst] at hbefore ⊢
          exact ih.mpr ⟨before, url, after, rfl, hbefore, by simpa using hurl⟩

theorem insert_isOk : (∃ r', r.insert n urls parse = .ok r') ↔ Admissible parse urls := by
  unfold insert
  cases hdefect : firstDefect? parse n [] urls with
  | some reason =>
    have hunclean : ¬Clean parse urls := by
      rw [← firstDefect?_nil_eq_none (n := n), hdefect]
      exact nofun
    exact iff_of_false (by simp) fun h => hunclean h.toClean
  | none =>
    have hclean : Clean parse urls := firstDefect?_nil_eq_none.mp hdefect
    cases urls with
    | nil => exact iff_of_false (by simp) fun h => h.nonempty rfl
    | cons url rest => exact iff_of_true ⟨_, rfl⟩ ⟨hclean, List.cons_ne_nil _ _⟩

theorem refused_of_defect {before after : List String} {url : String}
    (hsplit : urls = before ++ url :: after) (hclean : Clean parse before)
    (h : defect? parse n before.reverse url = some reason) : Refused parse n urls reason := by
  unfold defect? at h
  split at h
  · rename_i bad hparse
    cases h
    exact .badUrl hsplit hclean hparse
  · rename_i scheme hparse
    split at h
    · rename_i hscheme
      cases h
      exact .scheme hsplit hclean hparse hscheme
    · rename_i hscheme
      split at h
      · rename_i hagain
        cases h
        refine .twice hsplit hclean ⟨scheme, hparse, by tauto⟩ ?_
        simpa using hagain
      · cases h

theorem insert_eq_error :
    r.insert n urls parse = .error e ↔
      ∃ reason, e = .invalid reason ∧ Refused parse n urls reason := by
  have hdefect : ∀ {before after : List String} {url reason : String},
      urls = before ++ url :: after → Clean parse before →
      defect? parse n before.reverse url = some reason →
      firstDefect? parse n [] urls = some reason := by
    intro before after url reason hsplit hclean hurl
    exact firstDefect?_eq_some.mpr ⟨before, url, after, hsplit,
      firstDefect?_nil_eq_none.mpr hclean, by simpa using hurl⟩
  constructor
  · intro h
    unfold insert at h
    split at h
    · rename_i reason hreason
      cases h
      obtain ⟨before, url, after, hsplit, hbefore, hurl⟩ := firstDefect?_eq_some.mp hreason
      rw [List.append_nil] at hurl
      exact ⟨reason, rfl, refused_of_defect hsplit (firstDefect?_nil_eq_none.mp hbefore) hurl⟩
    · split at h
      · rename_i hempty
        cases h
        exact ⟨_, rfl, .none (List.isEmpty_iff.mp hempty)⟩
      · cases h
  · rintro ⟨reason, rfl, hrefused⟩
    cases hrefused with
    | badUrl hsplit hclean hparse =>
      simp only [insert, hdefect hsplit hclean (by rw [defect?, hparse])]
    | scheme hsplit hclean hparse hscheme =>
      have hurl := hdefect hsplit hclean (by rw [defect?, hparse]; exact if_pos hscheme)
      simp only [insert, hurl]
    | twice hsplit hclean husable hagain =>
      obtain ⟨scheme, hparse, hscheme⟩ := husable
      have hscheme' : ¬(scheme ≠ "http" ∧ scheme ≠ "https") := by tauto
      have hseen := List.contains_iff_mem.mpr (List.mem_reverse.mpr hagain)
      have hurl := hdefect hsplit hclean (by
        rw [defect?, hparse]
        exact (if_neg hscheme').trans (if_pos hseen))
      simp only [insert, hurl]
    | none hempty =>
      subst hempty
      rfl

/-- The registry behind a registration. It stays as it was if that fails. -/
def register (parse : SchemeParser) (r : Registry) (q : NetworkId × List String) : Registry :=
  match r.insert q.1 q.2 parse with
  | .ok r' => r'
  | .error _ => r

def registerAll (parse : SchemeParser) (qs : List (NetworkId × List String)) : Registry :=
  qs.foldl (register parse) empty

/-- What a network was registered with last, by registrations of which some may have failed. -/
structure Latest (parse : SchemeParser) (qs : List (NetworkId × List String)) (n : NetworkId)
    (urls : List String) : Prop where
  admissible : Admissible parse urls
  last : ∃ before after, qs = before ++ (n, urls) :: after ∧
    ∀ q ∈ after, q.1 = n → ¬Admissible parse q.2

variable {qs : List (NetworkId × List String)} {es : List Endpoint}

theorem register_of_not_admissible (h : ¬Admissible parse urls) :
    register parse r (n, urls) = r := by
  unfold register
  split
  · rename_i r' hinsert
    exact absurd (insert_isOk.mp ⟨r', hinsert⟩) h
  · rfl

theorem insert_register (h : Admissible parse urls) :
    r.insert n urls parse = .ok (register parse r (n, urls)) := by
  obtain ⟨r', hinsert⟩ := (insert_isOk (r := r) (n := n)).mpr h
  simp only [register, hinsert]

theorem endpoints?_register (h : Admissible parse urls) :
    (register parse r (n, urls)).endpoints? m =
      if m = n then some (urls.map fun url => ⟨url, n⟩) else r.endpoints? m := by
  obtain ⟨-, hregister⟩ := insert_eq_ok (insert_register (r := r) (n := n) h)
  rw [hregister, endpoints?, find?_insertSorted, endpoints?]
  split <;> rfl

theorem registerAll_concat (q : NetworkId × List String) :
    registerAll parse (qs ++ [q]) = register parse (registerAll parse qs) q := by
  rw [registerAll, List.foldl_append]
  rfl

theorem registerAll_built (parse : SchemeParser) (qs : List (NetworkId × List String)) :
    (registerAll parse qs).Built := by
  induction qs using List.reverseRec with
  | nil => exact .empty
  | append_singleton qs q ih =>
    rw [registerAll_concat]
    by_cases h : Admissible parse q.2
    · exact .insert ih (insert_register h)
    · rwa [register_of_not_admissible h]

theorem latest_concat {urls' : List String} : Latest parse (qs ++ [(m, urls')]) n urls ↔
    (m = n ∧ Admissible parse urls') ∧ urls = urls' ∨
      ¬(m = n ∧ Admissible parse urls') ∧ Latest parse qs n urls := by
  constructor
  · rintro ⟨hurls, before, after, hsplit, hafter⟩
    rcases List.eq_nil_or_concat' after with rfl | ⟨after, q, rfl⟩
    · obtain ⟨-, hq⟩ := List.append_inj' hsplit rfl
      obtain ⟨rfl, rfl⟩ := Prod.mk.inj (List.singleton_inj.mp hq)
      exact .inl ⟨⟨rfl, hurls⟩, rfl⟩
    · rw [← List.cons_append, ← List.append_assoc] at hsplit
      obtain ⟨rfl, hq⟩ := List.append_inj' hsplit rfl
      obtain rfl := List.singleton_inj.mp hq
      refine .inr ⟨fun h => hafter _ (List.mem_append_right _ (.head _)) h.1 h.2, hurls, before,
        after, rfl, fun q hq => hafter q (List.mem_append_left _ hq)⟩
  · rintro (⟨⟨rfl, hurls⟩, rfl⟩ | ⟨hother, hurls, before, after, rfl, hafter⟩)
    · exact ⟨hurls, qs, [], rfl, nofun⟩
    · refine ⟨hurls, before, after ++ [(m, urls')], by simp, fun q hq hn hadmissible => ?_⟩
      rcases List.mem_append.mp hq with hq | hq
      · exact hafter q hq hn hadmissible
      · obtain rfl := List.mem_singleton.mp hq
        exact hother ⟨hn, hadmissible⟩

theorem endpoints?_registerAll : (registerAll parse qs).endpoints? n = some es ↔
    ∃ urls, Latest parse qs n urls ∧ es = urls.map fun url => ⟨url, n⟩ := by
  induction qs using List.reverseRec with
  | nil =>
    have hnone : ∀ urls, ¬Latest parse [] n urls := by
      rintro urls ⟨-, before, after, hsplit, -⟩
      simp at hsplit
    simp [registerAll, endpoints?, empty, hnone]
  | append_singleton qs q ih =>
    obtain ⟨m, urls'⟩ := q
    simp only [registerAll_concat, latest_concat]
    by_cases hadmissible : Admissible parse urls'
    · rw [endpoints?_register hadmissible]
      by_cases hn : m = n
      · subst hn
        simp [hadmissible, eq_comm]
      · simp [hn, Ne.symm hn, ih]
    · simp [register_of_not_admissible hadmissible, hadmissible, ih]

theorem Built.endpoints?_eq_some (h : r.Built) :
    r.endpoints? n = some es ↔ (n, es) ∈ r.networks := by
  refine ⟨mem_of_endpoints?, fun hmem => ?_⟩
  rw [endpoints?, find?_eq_some_of_mem h.nodup_networks hmem]
  rfl

theorem foldlM_insert_eq_ok : qs.foldlM (fun r q => r.insert q.1 q.2 parse) r = .ok r' ↔
    (∀ q ∈ qs, Admissible parse q.2) ∧ r' = qs.foldl (register parse) r := by
  induction qs generalizing r with
  | nil => simp [pure, Except.pure, eq_comm]
  | cons q rest ih =>
    rw [List.foldlM_cons, List.forall_mem_cons, List.foldl_cons]
    by_cases h : Admissible parse q.2
    · rw [insert_register h]
      exact ih.trans (by simp [h])
    · cases hinsert : r.insert q.1 q.2 parse with
      | ok r₁ => exact absurd (insert_isOk.mp ⟨r₁, hinsert⟩) h
      | error e => exact iff_of_false nofun fun hall => h hall.1.1

theorem foldlM_insert_eq_error : qs.foldlM (fun r q => r.insert q.1 q.2 parse) r = .error e ↔
    ∃ before q after reason, qs = before ++ q :: after ∧ (∀ p ∈ before, Admissible parse p.2) ∧
      e = .invalid reason ∧ Refused parse q.1 q.2 reason := by
  induction qs generalizing r with
  | nil => simp [pure, Except.pure]
  | cons first rest ih =>
    rw [List.foldlM_cons]
    constructor
    · intro h
      by_cases hfirst : Admissible parse first.2
      · rw [insert_register hfirst] at h
        obtain ⟨before, q, after, reason, rfl, hbefore, hq⟩ := ih.mp h
        exact ⟨first :: before, q, after, reason, rfl,
          List.forall_mem_cons.mpr ⟨hfirst, hbefore⟩, hq⟩
      · cases hinsert : r.insert first.1 first.2 parse with
        | ok r₁ => exact absurd (insert_isOk.mp ⟨r₁, hinsert⟩) hfirst
        | error e' =>
          rw [hinsert] at h
          cases h
          obtain ⟨reason, hreason⟩ := insert_eq_error.mp hinsert
          exact ⟨[], first, rest, reason, rfl, nofun, hreason⟩
    · rintro ⟨before, q, after, reason, hsplit, hbefore, rfl, hrefused⟩
      cases before with
      | nil =>
        obtain ⟨rfl, rfl⟩ := List.cons.inj hsplit
        rw [insert_eq_error.mpr ⟨reason, rfl, hrefused⟩]
        rfl
      | cons _ before =>
        obtain ⟨rfl, rfl⟩ := List.cons.inj hsplit
        obtain ⟨hfirst, hbefore⟩ := List.forall_mem_cons.mp hbefore
        rw [insert_register hfirst]
        exact ih.mpr ⟨before, q, after, reason, rfl, hbefore, rfl, hrefused⟩

theorem ofConfig_eq_error {c : Config} (hc : c.networks.Pairwise fun p q => p.1 < q.1) :
    ofConfig c parse = .error e ↔ ∃ q ∈ c.networks, ∃ reason, e = .invalid reason ∧
      Refused parse q.1 q.2 reason ∧ ∀ p ∈ c.networks, p.1 < q.1 → Admissible parse p.2 := by
  rw [ofConfig, foldlM_insert_eq_error]
  constructor
  · rintro ⟨before, q, after, reason, hsplit, hbefore, he, hrefused⟩
    rw [hsplit] at hc ⊢
    refine ⟨q, by simp, reason, he, hrefused, fun p hp hlt => ?_⟩
    obtain ⟨-, hafter, -⟩ := List.pairwise_append.mp hc
    rcases List.mem_append.mp hp with hp | hp
    · exact hbefore p hp
    · rcases List.mem_cons.mp hp with rfl | hp
      · exact absurd rfl (NetworkId.ne_of_lt hlt)
      · have hgt := (List.pairwise_cons.mp hafter).1 p hp
        exact absurd rfl (NetworkId.ne_of_lt (NetworkId.lt_trans _ _ _ hlt hgt))
  · rintro ⟨q, hq, reason, he, hrefused, hbelow⟩
    obtain ⟨before, after, hsplit⟩ := List.append_of_mem hq
    rw [hsplit] at hc
    obtain ⟨-, -, hbefore⟩ := List.pairwise_append.mp hc
    refine ⟨before, q, after, reason, hsplit, fun p hp => ?_, he, hrefused⟩
    exact hbelow p (by rw [hsplit]; exact List.mem_append_left _ hp) (hbefore p hp q (.head _))

theorem ofConfig_endpoints? {c : Config} (hc : (c.networks.map (·.1)).Nodup)
    (h : ofConfig c parse = .ok r) : r.endpoints? n = some es ↔
      ∃ urls, (n, urls) ∈ c.networks ∧ es = urls.map fun url => ⟨url, n⟩ := by
  obtain ⟨hall, rfl⟩ := foldlM_insert_eq_ok.mp h
  have hlatest : ∀ urls, Latest parse c.networks n urls ↔ (n, urls) ∈ c.networks := by
    intro urls
    constructor
    · rintro ⟨-, before, after, hsplit, -⟩
      simp [hsplit]
    · intro hmem
      obtain ⟨before, after, hsplit⟩ := List.append_of_mem hmem
      refine ⟨hall _ hmem, before, after, hsplit, fun q hq hn => ?_⟩
      rw [hsplit, List.map_append, List.nodup_append] at hc
      have hnot := (List.nodup_cons.mp hc.2.1).1
      exact absurd (List.mem_map.mpr ⟨q, hq, hn⟩) hnot
  exact endpoints?_registerAll.trans (by simp only [hlatest])

/-- What a registry holds after registrations. -/
structure Records (parse : SchemeParser) (qs : List (NetworkId × List String)) (r : Registry) :
    Prop where
  ascending : r.networks.Pairwise fun p q => p.1 < q.1
  found : ∀ n es, r.endpoints? n = some es ↔ (n, es) ∈ r.networks
  latest : ∀ n es, (n, es) ∈ r.networks ↔
    ∃ urls, Latest parse qs n urls ∧ es = urls.map fun url => ⟨url, n⟩
  entry : ∀ n es, (n, es) ∈ r.networks → Entry n es

theorem registerAll_records (qs : List (NetworkId × List String)) :
    Records parse qs (registerAll parse qs) := by
  have hbuilt := registerAll_built parse qs
  refine ⟨hbuilt.pairwise, fun n es => hbuilt.endpoints?_eq_some, fun n es => ?_,
    fun n es => hbuilt.entry_of_mem⟩
  rw [← hbuilt.endpoints?_eq_some, endpoints?_registerAll]

/-- After any registrations, the next one succeeds if its URLs are admissible, and then changes only
its own network. Otherwise it changes nothing and blames the first URL that something is wrong with.
What a network has is what it was registered with last. A configuration is registered if all its
networks can be; otherwise the first of them that cannot is blamed. -/
theorem registrations_exact (parse : SchemeParser) (qs : List (NetworkId × List String))
    (n : NetworkId) (urls : List String) {c : Config}
    (hc : c.networks.Pairwise fun p q => p.1 < q.1) :
    let r := registerAll parse qs
    let next := registerAll parse (qs ++ [(n, urls)])
    Records parse qs r ∧
    ((∃ r', r.insert n urls parse = .ok r') ↔ Admissible parse urls) ∧
    (Admissible parse urls → next.endpoints? n = some (urls.map fun url => ⟨url, n⟩) ∧
      ∀ m, m ≠ n → next.endpoints? m = r.endpoints? m) ∧
    (∀ e, r.insert n urls parse = .error e ↔
      ∃ reason, e = .invalid reason ∧ Refused parse n urls reason) ∧
    (¬Admissible parse urls → next = r) ∧
    ((∃ r', ofConfig c parse = .ok r') ↔ ∀ q ∈ c.networks, Admissible parse q.2) ∧
    (∀ r', ofConfig c parse = .ok r' → Records parse c.networks r' ∧
      ∀ m es, r'.endpoints? m = some es ↔
        ∃ urls, (m, urls) ∈ c.networks ∧ es = urls.map fun url => ⟨url, m⟩) ∧
    ∀ e, ofConfig c parse = .error e ↔ ∃ q ∈ c.networks, ∃ reason, e = .invalid reason ∧
      Refused parse q.1 q.2 reason ∧ ∀ p ∈ c.networks, p.1 < q.1 → Admissible parse p.2 := by
  intro r next
  have hnext : next = register parse r (n, urls) := registerAll_concat _
  refine ⟨registerAll_records qs, insert_isOk, fun h => ?_, fun e => insert_eq_error, fun h => ?_,
    ?_, fun r' h => ?_, fun e => ofConfig_eq_error hc⟩
  · rw [hnext, endpoints?_register h, if_pos rfl]
    refine ⟨rfl, fun m hm => ?_⟩
    rw [endpoints?_register h, if_neg hm]
  · rw [hnext, register_of_not_admissible h]
  · constructor
    · rintro ⟨r', h⟩
      exact (foldlM_insert_eq_ok.mp h).1
    · intro h
      exact ⟨registerAll parse c.networks, foldlM_insert_eq_ok.mpr ⟨h, rfl⟩⟩
  · have hnodup : (c.networks.map (·.1)).Nodup := (List.pairwise_map.mpr hc).imp NetworkId.ne_of_lt
    refine ⟨?_, fun m es => ofConfig_endpoints? hnodup h⟩
    rw [(foldlM_insert_eq_ok.mp h).2]
    exact registerAll_records c.networks

def mixed : Config := .withNetworks
  [(⟨1⟩, ["http://[::1]"]), (⟨2⟩, ["http://[::1]", "ws://[::2]", "http://[::1]"]), (⟨3⟩, [])]

theorem registrations_exact_mixed :
    (∃ e, (registerAll Url.schemeOf mixed.networks).insert ⟨1⟩ ["http://[::2]", "http://[::2]"] =
      .error e) ∧
    ofConfig mixed =
      .error (.invalid "network 2: endpoint \"ws://[::2]\" must use http or https") := by
  have hclean : ∀ url ∈ ["http://[::1]", "http://[::2]"], Clean Url.schemeOf [url] := by
    intro url hurl
    refine firstDefect?_nil_eq_none (n := ⟨1⟩).mp ?_
    have hall : ∀ url ∈ ["http://[::1]", "http://[::2]"],
        firstDefect? Url.schemeOf ⟨1⟩ [] [url] = none := by
      decide +kernel
    exact hall url hurl
  have htwice := hclean "http://[::2]" (by simp)
  have husable : Admissible Url.schemeOf ["http://[::1]"] :=
    ⟨hclean _ (.head _), List.cons_ne_nil _ _⟩
  obtain ⟨-, -, -, hinsert, -, -, -, hconfig⟩ := registrations_exact Url.schemeOf mixed.networks ⟨1⟩
    ["http://[::2]", "http://[::2]"] (c := mixed) (by decide)
  have hagain : ["http://[::2]", "http://[::2]"] = ["http://[::2]"] ++ ["http://[::2]"] := rfl
  refine ⟨⟨_, (hinsert _).mpr ⟨_, rfl, .twice hagain htwice (htwice.usable _ (.head _))
    (.head _)⟩⟩, ?_⟩
  have hscheme : Url.schemeOf "ws://[::2]" = .ok "ws" := by
    have h : (Url.schemeOf "ws://[::2]").toOption = some "ws" := by decide +kernel
    cases hparse : Url.schemeOf "ws://[::2]" with
    | error e => simp [hparse, Except.toOption] at h
    | ok scheme => simpa [hparse, Except.toOption] using h
  have hreason : "network " ++ NetworkId.text ⟨2⟩ ++ ": endpoint " ++ Text.quoted "ws://[::2]" ++
      " must use http or https" =
        "network 2: endpoint \"ws://[::2]\" must use http or https" := by
    decide +kernel
  have hsecond : ["http://[::1]", "ws://[::2]", "http://[::1]"] =
      ["http://[::1]"] ++ "ws://[::2]" :: ["http://[::1]"] := rfl
  refine (hconfig _).mpr ⟨_, .tail _ (.head _), _, rfl, hreason ▸ .scheme hsecond
    husable.toClean hscheme (by decide), ?_⟩
  intro p hp hlt
  have hfirst : ∀ p ∈ mixed.networks, p.1 < ⟨2⟩ → p.2 = ["http://[::1]"] := by decide
  rw [hfirst p hp hlt]
  exact husable

end RankedRelay.Registry
