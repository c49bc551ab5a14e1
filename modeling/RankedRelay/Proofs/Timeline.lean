import Mathlib.Data.List.Basic
import RankedRelay.Proofs.Flight
import RankedRelay.Proofs.Slot

namespace RankedRelay

/-- A network as its refreshes see it: its endpoints, how probes of them go and how long these may
take. -/
structure Site where
  network : NetworkId
  endpoints : List Endpoint
  probe : Prober
  limit : Nat
  epoch : Moment

/-- When a call for a refresh comes, and when its caller leaves, if the call is not over by then. -/
structure Stay where
  start : Nat
  left : Option Nat
deriving DecidableEq, Repr

/-- From when on a site is free, its last round, and what it has published with the times. -/
structure Desk where
  free : Nat
  round : Nat
  published : List (Nat × Ranking)

namespace Stay

def leave (call : CallId) (now : Nat) (vs : List (CallId × Stay)) : List (CallId × Stay) :=
  vs.map fun v => if v.1 = call then (v.1, { v.2 with left := some now }) else v

def present (vs : List (CallId × Stay)) : List CallId :=
  (vs.filter (·.2.left.isNone)).map (·.1)

theorem present_append (vs ws : List (CallId × Stay)) :
    present (vs ++ ws) = present vs ++ present ws := by
  rw [present, List.filter_append, List.map_append, present, present]

theorem present_cons_of_none {v : CallId × Stay} (hv : v.2.left = none)
    (vs : List (CallId × Stay)) : present (v :: vs) = v.1 :: present vs := by
  rw [present, List.filter_cons_of_pos (by simp [hv]), List.map_cons, present]

theorem present_cons_of_some {v : CallId × Stay} {t : Nat} (hv : v.2.left = some t)
    (vs : List (CallId × Stay)) : present (v :: vs) = present vs := by
  rw [present, List.filter_cons_of_neg (by simp [hv]), present]

theorem leave_cons_self (v : CallId × Stay) (now : Nat) (vs : List (CallId × Stay)) :
    leave v.1 now (v :: vs) = (v.1, { v.2 with left := some now }) :: leave v.1 now vs := by
  rw [leave, List.map_cons, if_pos rfl, leave]

theorem leave_cons_of_ne {call : CallId} {v : CallId × Stay} (hv : v.1 ≠ call) (now : Nat)
    (vs : List (CallId × Stay)) : leave call now (v :: vs) = v :: leave call now vs := by
  rw [leave, List.map_cons, if_neg hv, leave]

theorem present_leave (call : CallId) (now : Nat) (vs : List (CallId × Stay)) :
    present (leave call now vs) = (present vs).filter (· != call) := by
  induction vs with
  | nil => rfl
  | cons v rest ih =>
    by_cases hv : v.1 = call
    · subst hv
      rw [leave_cons_self, present_cons_of_some rfl, ih]
      cases hstay : v.2.left with
      | none => rw [present_cons_of_none hstay, List.filter_cons_of_neg (by simp)]
      | some t => rw [present_cons_of_some hstay]
    · rw [leave_cons_of_ne hv]
      cases hstay : v.2.left with
      | none =>
        rw [present_cons_of_none hstay, present_cons_of_none hstay, ih,
          List.filter_cons_of_pos (by simpa using hv)]
      | some t => rw [present_cons_of_some hstay, present_cons_of_some hstay, ih]

theorem leave_eq_self {call : CallId} {vs : List (CallId × Stay)} (h : call ∉ vs.map (·.1))
    (now : Nat) : leave call now vs = vs := by
  refine (List.map_congr_left fun v hv => if_neg fun heq => h ?_).trans (List.map_id vs)
  exact heq ▸ List.mem_map_of_mem hv

theorem leave_append (call : CallId) (now : Nat) (vs ws : List (CallId × Stay)) :
    leave call now (vs ++ ws) = leave call now vs ++ leave call now ws := List.map_append

theorem map_fst_leave (call : CallId) (now : Nat) (vs : List (CallId × Stay)) :
    (leave call now vs).map (·.1) = vs.map (·.1) := by
  rw [leave, List.map_map]
  refine List.map_congr_left fun v _ => ?_
  simp only [Function.comp_apply]
  split <;> rfl

theorem mem_of_present {call : CallId} {vs : List (CallId × Stay)} (h : call ∈ present vs) :
    call ∈ vs.map (·.1) := (List.filter_sublist.map _).subset h

end Stay

namespace Site

variable (site : Site)

def flight (start : Nat) (e : Endpoint) : Flight (Except CallError Span) :=
  Refresh.flight site.probe site.limit start e

def crash? (start : Nat) : Option Nat :=
  ((site.endpoints.filter fun e => (Refresh.outcome? (site.flight start e)).isNone).map fun e =>
    (site.flight start e).due).min?

def last (start : Nat) : Nat :=
  (site.endpoints.map fun e => (site.flight start e).due).foldr max start

def outcomes (start : Nat) : List Outcome :=
  site.endpoints.filterMap fun e => (Refresh.outcome? (site.flight start e)).map (e, ·)

/-- When a refresh ends, and what its probes have found, unless one has crashed. -/
def ending (start : Nat) : Nat × Option (List Outcome) :=
  match site.crash? start with
  | some t => (t, none)
  | none => (site.last start, some (site.outcomes start))

/-- Serves a call as soon as the site is free. -/
def serve (d : Desk) (v : Stay) : Desk :=
  match v.left with
  | some t => { d with free := max d.free t }
  | none =>
    match site.ending (max d.free v.start) with
    | (t, none) => { d with free := t }
    | (t, some os) =>
      ⟨t, d.round + 1,
        d.published ++ [(t, .ofOutcomes site.network os (site.epoch.after t) (d.round + 1))]⟩

def serveAll (d : Desk) (vs : List Stay) : Desk := vs.foldl site.serve d

variable {site} {start now t : Nat} {d : Desk} {v : Stay} {e : Endpoint}

theorem start_le_due : start ≤ (site.flight start e).due := Nat.le_add_right _ _

theorem crash?_eq_some : site.crash? start = some t ↔
    (∃ e ∈ site.endpoints, Refresh.outcome? (site.flight start e) = none ∧
      (site.flight start e).due = t) ∧
    ∀ e ∈ site.endpoints, Refresh.outcome? (site.flight start e) = none →
      t ≤ (site.flight start e).due := by
  simp only [crash?, List.min?_eq_some_iff, List.mem_map, List.mem_filter,
    Option.isNone_iff_eq_none, and_assoc]
  refine and_congr_right fun _ => ⟨fun h e he hcrash => h _ ⟨e, he, hcrash, rfl⟩, ?_⟩
  rintro h _ ⟨e, he, hcrash, rfl⟩
  exact h e he hcrash

theorem crash?_eq_none : site.crash? start = none ↔
    ∀ e ∈ site.endpoints, Refresh.outcome? (site.flight start e) ≠ none := by
  simp [crash?, List.min?_eq_none_iff, List.filter_eq_nil_iff]

theorem last_le_iff : site.last start ≤ t ↔
    start ≤ t ∧ ∀ e ∈ site.endpoints, (site.flight start e).due ≤ t := foldr_max_le_iff

theorem start_le_ending : start ≤ (site.ending start).1 := by
  simp only [ending]
  split
  · rename_i t hcrash
    obtain ⟨⟨e, -, -, rfl⟩, -⟩ := crash?_eq_some.mp hcrash
    exact start_le_due
  · exact (last_le_iff.mp (Nat.le_refl _)).1

variable (site) in
/-- Whether the probes of a refresh are on time: none has ended before it was due, and it is not
past the end of the refresh. -/
structure Probing (start now : Nat) (ps : List (Endpoint × ProbeState)) : Prop where
  started : Refresh.StartedAt site.probe site.limit start site.endpoints ps
  past : ∀ p ∈ ps, (∃ outcome, p.2 = .over outcome) → (site.flight start p.1).due ≤ now
  start_le : start ≤ now
  le_ending : now ≤ (site.ending start).1

variable {ps : List (Endpoint × ProbeState)} {os : List Outcome} {i : Nat}
  {f : Flight (Except CallError Span)}

theorem launched_probing (start : Nat) : site.Probing start start
    (Refresh.launched site.probe site.limit start site.endpoints) where
  started := Refresh.launched_startedAt
  past := by
    rintro p hp ⟨outcome, hover⟩
    obtain ⟨e, _, rfl⟩ := List.mem_map.mp hp
    cases hover
  start_le := Nat.le_refl _
  le_ending := start_le_ending

theorem Probing.flight_of_getElem? (h : site.Probing start now ps)
    (hi : ps[i]? = some (e, .inFlight f)) : e ∈ site.endpoints ∧ f = site.flight start e := by
  have hmem := List.mem_of_getElem? hi
  exact ⟨h.started.endpoints ▸ List.mem_map_of_mem hmem, h.started.flight_eq hmem⟩

theorem Probing.inFlight_of_crash (h : site.Probing start now ps) (he : e ∈ site.endpoints)
    (hcrash : Refresh.outcome? (site.flight start e) = none) :
    (e, .inFlight (site.flight start e)) ∈ ps := by
  rw [← h.started.endpoints] at he
  obtain ⟨⟨e, state⟩, hp, rfl⟩ := List.mem_map.mp he
  rcases h.started.states _ hp with hstate | ⟨outcome, hover, -⟩
  · obtain rfl : state = .inFlight (site.flight start e) := hstate
    exact hp
  · exact absurd (hcrash.symm.trans hover) (by simp)

theorem Probing.wait (h : site.Probing start now ps) (hle : now ≤ t)
    (hnone : Refresh.outcomes? ps = none)
    (hdue : ∀ e f, (e, .inFlight f) ∈ ps → t ≤ f.due) : site.Probing start t ps where
  started := h.started
  past p hp hover := Nat.le_trans (h.past p hp hover) hle
  start_le := Nat.le_trans h.start_le hle
  le_ending := by
    simp only [ending]
    split
    · rename_i tc hcrash
      obtain ⟨⟨e, he, hnone, rfl⟩, -⟩ := crash?_eq_some.mp hcrash
      exact hdue _ _ (h.inFlight_of_crash he hnone)
    · obtain ⟨i, e, f, hi⟩ := Refresh.exists_inFlight hnone
      obtain ⟨he, rfl⟩ := h.flight_of_getElem? hi
      exact Nat.le_trans (hdue _ _ (List.mem_of_getElem? hi))
        ((last_le_iff.mp (Nat.le_refl _)).2 e he)

theorem Probing.settle (h : site.Probing start now ps) (hi : ps[i]? = some (e, .inFlight f))
    (hdue : f.due ≤ now) {outcome : Except CallError Span}
    (ho : Refresh.outcome? f = some outcome) :
    site.Probing start now (ps.set i (e, .over outcome)) where
  started := h.started.set hi ho
  past p hp hover := by
    rcases List.mem_or_eq_of_mem_set hp with hp | rfl
    · exact h.past p hp hover
    · obtain ⟨-, rfl⟩ := h.flight_of_getElem? hi
      exact hdue
  start_le := h.start_le
  le_ending := h.le_ending

theorem Probing.crash (h : site.Probing start now ps) (hi : ps[i]? = some (e, .inFlight f))
    (hdue : f.due ≤ now) (ho : Refresh.outcome? f = none) : site.ending start = (now, none) := by
  obtain ⟨he, rfl⟩ := h.flight_of_getElem? hi
  have hle := h.le_ending
  cases hcrash : site.crash? start with
  | none => exact absurd ho (crash?_eq_none.mp hcrash e he)
  | some t =>
    have hending : site.ending start = (t, none) := by simp only [ending, hcrash]
    rw [hending] at hle ⊢
    have hfirst := (crash?_eq_some.mp hcrash).2 e he ho
    rw [Nat.le_antisymm hle (Nat.le_trans hfirst hdue)]

theorem Probing.publish (h : site.Probing start now ps) (hos : Refresh.outcomes? ps = some os) :
    site.ending start = (now, some os) := by
  have hle := h.le_ending
  obtain ⟨hes, hall⟩ := h.started.outcomes hos
  have hover : ∀ p ∈ ps, ∃ outcome, p.2 = .over outcome :=
    Refresh.outcomes?_isSome_iff.mp (by rw [hos]; rfl)
  have hnone : site.crash? start = none := by
    refine crash?_eq_none.mpr fun e he hcrash => ?_
    obtain ⟨outcome, hstate⟩ := hover _ (h.inFlight_of_crash he hcrash)
    cases hstate
  have hending : site.ending start = (site.last start, some (site.outcomes start)) := by
    simp only [ending, hnone]
  have hlast : site.last start ≤ now := by
    refine last_le_iff.mpr ⟨h.start_le, fun e he => ?_⟩
    rw [← h.started.endpoints] at he
    obtain ⟨p, hp, rfl⟩ := List.mem_map.mp he
    exact h.past p hp (hover p hp)
  have houtcomes : site.outcomes start = os := by
    rw [outcomes, ← hes, List.filterMap_map]
    have hfound : ∀ o ∈ os, ((fun e => (Refresh.outcome? (site.flight start e)).map (e, ·)) ∘
        Prod.fst) o = some o := fun o ho => by
      simp only [Function.comp_apply, flight, hall o ho, Option.map_some]
    rw [List.filterMap_congr hfound, List.filterMap_some]
  rw [hending] at hle ⊢
  rw [houtcomes, Nat.le_antisymm hlast hle]

theorem serve_published (site : Site) (d : Desk) (v : Stay) :
    ∃ more, (site.serve d v).published = d.published ++ more ∧
      ∀ p ∈ more, p.1 = (site.serve d v).free := by
  simp only [serve]
  split
  · exact ⟨[], by simp⟩
  · split
    · exact ⟨[], by simp⟩
    · exact ⟨_, rfl, by simp⟩

theorem free_le_serve (site : Site) (d : Desk) (v : Stay) : d.free ≤ (site.serve d v).free := by
  have hend : d.free ≤ (site.ending (max d.free v.start)).1 :=
    Nat.le_trans (Nat.le_max_left _ _) start_le_ending
  simp only [serve]
  split
  · exact Nat.le_max_left _ _
  · split <;> (rename_i hending; rw [hending] at hend; exact hend)

theorem serveAll_published (site : Site) (d : Desk) (vs : List Stay) :
    ∃ more, (site.serveAll d vs).published = d.published ++ more ∧ ∀ p ∈ more, d.free ≤ p.1 := by
  induction vs generalizing d with
  | nil => exact ⟨[], by simp [serveAll]⟩
  | cons v rest ih =>
    obtain ⟨first, hfirst, htime⟩ := serve_published site d v
    obtain ⟨more, hmore, hlater⟩ := ih (site.serve d v)
    have hfree := free_le_serve site d v
    refine ⟨first ++ more, ?_, fun p hp => ?_⟩
    · rw [serveAll, List.foldl_cons, ← serveAll, hmore, hfirst, List.append_assoc]
    · rcases List.mem_append.mp hp with hp | hp
      · exact (htime p hp).symm ▸ hfree
      · exact Nat.le_trans hfree (hlater p hp)

theorem serveAll_append (site : Site) (d : Desk) (vs ws : List Stay) :
    site.serveAll d (vs ++ ws) = site.serveAll (site.serveAll d vs) ws := List.foldl_append

/-- Callers that have left by the time at which the site is free do not count. -/
theorem serveAll_left {vs : List Stay} (h : ∀ v ∈ vs, ∃ t ≤ d.free, v.left = some t) :
    site.serveAll d vs = d := by
  induction vs with
  | nil => rfl
  | cons v rest ih =>
    obtain ⟨t, hle, hleft⟩ := h v List.mem_cons_self
    have hserve : site.serve d v = d := by
      simp only [serve, hleft, Nat.max_eq_left hle]
    rw [serveAll, List.foldl_cons, hserve]
    exact ih fun w hw => h w (List.mem_cons_of_mem _ hw)

end Site

end RankedRelay
