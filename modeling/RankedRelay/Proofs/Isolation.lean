import RankedRelay.Proofs.Rounds
import RankedRelay.Proofs.Visits

namespace RankedRelay

open Relay

namespace Site

def Stage (site : Site) (free now : Nat) (running : Option Refresh) :
    List (CallId × Stay) → Prop
  | [] => running = none
  | v :: _ => v.2.left = none ∧
    match running with
    | none => now = max free v.2.start
    | some refresh => site.Probing (max free v.2.start) now refresh.probes

/-- Whether the slot of a network has come as far as its timeline: some calls have been served,
these are left. -/
structure At (site : Site) (d : Desk) (r : Relay) (s : Slot) (vs : List (CallId × Stay)) :
    Prop where
  slot : r.watch.slot? site.network = some s
  endpoints : s.endpoints = site.endpoints
  round : s.round = d.round
  calls : s.calls = Stay.present vs
  free : d.free ≤ r.clock
  past : ∀ v ∈ vs, v.2.start ≤ r.clock ∧ ∀ t ∈ v.2.left, t ≤ r.clock
  stage : site.Stage d.free r.clock s.running vs

variable {site : Site} {d : Desk} {env : Surroundings} {r r' : Relay} {a : Action} {s s' : Slot}
  {v : CallId × Stay} {vs : List (CallId × Stay)} {call : CallId} {t : Nat} {m : SlotMove}
  {events : List SlotEvent}

theorem At.waiting (h : site.At d r s (v :: vs)) (hr : s.running = none) :
    s.waiting = v.1 :: Stay.present vs := by
  have hcalls := h.calls
  rw [Slot.calls, hr, Stay.present_cons_of_none h.stage.1] at hcalls
  exact hcalls

theorem At.running {refresh : Refresh} (h : site.At d r s (v :: vs))
    (hr : s.running = some refresh) : refresh.call = v.1 ∧ s.waiting = Stay.present vs ∧
      site.Probing (max d.free v.2.start) r.clock refresh.probes := by
  have hcalls := h.calls
  have hstage := h.stage
  rw [Slot.calls, hr, Stay.present_cons_of_none hstage.1] at hcalls
  rw [hr] at hstage
  obtain ⟨hcall, hwaiting⟩ := List.cons.inj hcalls
  exact ⟨hcall, hwaiting, hstage.2⟩

theorem At.exists_cons {refresh : Refresh} (h : site.At d r s vs) (hr : s.running = some refresh) :
    ∃ v rest, vs = v :: rest := by
  cases vs with
  | nil =>
    have hstage : s.running = none := h.stage
    rw [hr] at hstage
    cases hstage
  | cons v rest => exact ⟨v, rest, rfl⟩

theorem exists_at (hslot : r.watch.slot? site.network = some s)
    (hendpoints : s.endpoints = site.endpoints) (hround : s.round = d.round)
    (hr : s.running = none) (hwaiting : s.waiting = Stay.present vs) (hfree : d.free = r.clock)
    (hpast : ∀ v ∈ vs, v.2.start ≤ r.clock ∧ ∀ t ∈ v.2.left, t ≤ r.clock) :
    ∃ gone rest, vs = gone ++ rest ∧ site.serveAll d (gone.map (·.2)) = d ∧ site.At d r s rest := by
  have hcalls : s.calls = Stay.present vs := by
    rw [Slot.calls, hr, hwaiting]
    rfl
  clear hwaiting
  induction vs with
  | nil =>
    exact ⟨[], [], rfl, rfl, hslot, hendpoints, hround, hcalls, Nat.le_of_eq hfree, hpast, hr⟩
  | cons v rest ih =>
    have hrest := fun w hw => hpast w (List.mem_cons_of_mem _ hw)
    have hv := hpast v List.mem_cons_self
    cases hleft : v.2.left with
    | none =>
      refine ⟨[], v :: rest, rfl, rfl, hslot, hendpoints, hround, hcalls, Nat.le_of_eq hfree, hpast,
        hleft, ?_⟩
      rw [hr, hfree]
      exact (Nat.max_eq_left hv.1).symm
    | some t =>
      rw [Stay.present_cons_of_some hleft] at hcalls
      obtain ⟨gone, rest', rfl, hserve, hat⟩ := ih hrest hcalls
      refine ⟨v :: gone, rest', rfl, ?_, hat⟩
      have hone : site.serveAll d [v.2] = d :=
        serveAll_left (by simpa [hleft, hfree] using hv.2 t hleft)
      rw [List.map_cons, ← List.singleton_append, serveAll_append, hone, hserve]

theorem At.wait (h : site.At d r s vs) (hp : r.Permits (OfSlot site.network) (.wait t)) :
    site.At d { r with clock := t } s vs where
  slot := h.slot
  endpoints := h.endpoints
  round := h.round
  calls := h.calls
  free := Nat.le_trans h.free hp.1
  past v hv := ⟨Nat.le_trans (h.past v hv).1 hp.1,
    fun t ht => Nat.le_trans ((h.past v hv).2 t ht) hp.1⟩
  stage := by
    obtain ⟨hle, hurgent⟩ := hp
    have hfirst : ∀ {due m}, (due, m) ∈ s.moves → t ≤ due := fun hm =>
      hurgent _ (mem_moves_of_slot h.slot hm) rfl
    -- What is due at once stops the clock at its beginning.
    have hstop : ∀ {m}, (0, m) ∈ s.moves → t = r.clock := fun hm =>
      Nat.le_antisymm (Nat.le_trans (hfirst hm) (Nat.zero_le _)) hle
    cases vs with
    | nil => exact h.stage
    | cons v rest =>
      cases hr : s.running with
      | none =>
        have hmoves := Slot.moves_waiting hr (by rw [h.waiting hr]; rfl)
        have hstage := h.stage
        rw [hr, ← hstop (hmoves ▸ List.mem_singleton_self _)] at hstage
        exact hstage
      | some refresh =>
        obtain ⟨-, -, hprobing⟩ := h.running hr
        refine ⟨h.stage.1, ?_⟩
        cases hos : Refresh.outcomes? refresh.probes with
        | some os =>
          have hmoves := Slot.moves_measured hr (by rw [hos]; rfl)
          exact hstop (hmoves ▸ List.mem_singleton_self _) ▸ hprobing
        | none =>
          refine hprobing.wait hle hos fun e f hmem => ?_
          obtain ⟨i, hi⟩ := List.getElem?_of_mem hmem
          exact hfirst (Slot.settle_mem_moves hr hos hi)

theorem At.aside (h : site.At d r s vs) (hp : r.Permits (OfSlot site.network) a)
    (hslot : (r.act env a).watch.slot? site.network = some s) : site.At d (r.act env a) s vs := by
  by_cases ha : ∃ t, a = .wait t
  · obtain ⟨t, rfl⟩ := ha
    exact h.wait hp
  · have hclock := act_clock r env fun t ht => ha ⟨t, ht⟩
    exact ⟨hslot, h.endpoints, h.round, h.calls, hclock ▸ h.free, hclock ▸ h.past, hclock ▸ h.stage⟩

theorem At.comes (h : site.At d r s vs)
    (hslot : r'.watch.slot? site.network = some (s.enqueue call)) (hclock : r'.clock = r.clock) :
    site.At d r' (s.enqueue call) (vs ++ [(call, ⟨r.clock, none⟩)]) where
  slot := hslot
  endpoints := h.endpoints
  round := h.round
  calls := by
    rw [Slot.calls_enqueue, h.calls, Stay.present_append]
    rfl
  free := hclock ▸ h.free
  past := by
    intro v hv
    rw [hclock]
    rcases List.mem_append.mp hv with hv | hv
    · exact h.past v hv
    · cases List.mem_singleton.mp hv
      simp
  stage := by
    rw [hclock]
    cases vs with
    | nil =>
      have hr : s.running = none := h.stage
      refine ⟨rfl, ?_⟩
      show match s.running with
        | none => r.clock = max d.free r.clock
        | some refresh => site.Probing (max d.free r.clock) r.clock refresh.probes
      rw [hr]
      exact (Nat.max_eq_right h.free).symm
    | cons v rest => exact h.stage

theorem At.leaves (h : site.At d r s vs) (hdistinct : (vs.map (·.1)).Nodup)
    (hslot : r'.watch.slot? site.network = some (s.abandon call)) (hclock : r'.clock = r.clock) :
    ∃ gone rest, Stay.leave call r.clock vs = gone ++ rest ∧
      site.At (site.serveAll d (gone.map (·.2))) r' (s.abandon call) rest ∧
      (site.serveAll d (gone.map (·.2))).published = d.published := by
  have hpast : ∀ ws : List (CallId × Stay), (∀ v ∈ ws, v ∈ vs) → ∀ v ∈ Stay.leave call r.clock ws,
      v.2.start ≤ r'.clock ∧ ∀ t ∈ v.2.left, t ≤ r'.clock := by
    rw [hclock]
    intro ws hws v hv
    obtain ⟨w, hw, rfl⟩ := List.mem_map.mp hv
    have hold := h.past w (hws w hw)
    split
    · exact ⟨hold.1, by simp⟩
    · exact hold
  have hkeep : (∀ v ∈ vs.head?, v.1 ≠ call) →
      site.At d r' (s.abandon call) (Stay.leave call r.clock vs) := by
    intro hfirst
    refine ⟨hslot, h.endpoints, h.round, ?_, hclock ▸ h.free, hpast vs fun _ => id, ?_⟩
    · rw [Slot.calls_abandon, h.calls, Stay.present_leave]
    · rw [hclock]
      cases vs with
      | nil =>
        have hr : s.running = none := h.stage
        show s.running.filter _ = none
        rw [hr, Option.filter_none]
      | cons v rest =>
        have hne : v.1 ≠ call := hfirst v rfl
        have hrunning : (s.abandon call).running = s.running := by
          cases hr : s.running with
          | none => simp only [Slot.abandon, hr, Option.filter_none]
          | some refresh =>
            have hcall : (refresh.call != call) = true := by simpa [(h.running hr).1] using hne
            simp only [Slot.abandon, hr, Option.filter_some, hcall, if_true]
        rw [hrunning, Stay.leave_cons_of_ne hne]
        exact h.stage
  cases vs with
  | nil => exact ⟨[], [], rfl, hkeep (by simp), rfl⟩
  | cons v rest =>
    by_cases hcall : v.1 = call
    · subst hcall
      have hgone : v.1 ∉ rest.map (·.1) := (List.nodup_cons.mp hdistinct).1
      have hleave : Stay.leave v.1 r.clock (v :: rest) =
          (v.1, { v.2 with left := some r.clock }) :: rest := by
        rw [Stay.leave_cons_self, Stay.leave_eq_self hgone]
      have hpast' := hpast rest fun w hw => List.mem_cons_of_mem _ hw
      rw [Stay.leave_eq_self hgone] at hpast'
      have hcalls := Slot.calls_abandon s v.1
      have hrunning : (s.abandon v.1).running = none := by
        cases hr : s.running with
        | none => simp only [Slot.abandon, hr, Option.filter_none]
        | some refresh => simp [Slot.abandon, hr, (h.running hr).1, Option.filter]
      have hwaiting : (s.abandon v.1).waiting = Stay.present rest := by
        rw [h.calls, Slot.calls, hrunning, ← Stay.present_leave _ r.clock, hleave,
          Stay.present_cons_of_some rfl] at hcalls
        exact hcalls
      have hserve :
          site.serve d { v.2 with left := some r.clock } = { d with free := r.clock } := by
        simp only [serve, Nat.max_eq_right h.free]
      obtain ⟨gone, rest', hrest, hsame, hat⟩ :=
        exists_at (d := { d with free := r.clock }) hslot h.endpoints h.round hrunning hwaiting
          hclock.symm hpast'
      refine ⟨(v.1, { v.2 with left := some r.clock }) :: gone, rest', ?_, ?_⟩
      · rw [hleave, hrest, List.cons_append]
      · rw [List.map_cons, serveAll, List.foldl_cons, hserve, ← serveAll, hsame]
        exact ⟨hat, rfl⟩
    · exact ⟨[], _, rfl, hkeep (by simpa using hcall), rfl⟩

theorem launched_congr {probe probe' : Prober} {limit now : Nat} {es : List Endpoint}
    (h : ∀ e ∈ es, probe e = probe' e) :
    Refresh.launched probe limit now es = Refresh.launched probe' limit now es :=
  List.map_congr_left fun e he => by rw [Refresh.flight, Refresh.flight, h e he]

theorem due_le_of_settle (h : site.At d r s vs) (hn : r.watch.networks.Nodup) {i : Nat}
    {refresh : Refresh} {e : Endpoint} {f : Flight (Except CallError Span)}
    (hp : r.Permits (OfSlot site.network) (.move (.watch (.slot site.network (.settle i)))))
    (hr : s.running = some refresh) (hi : refresh.probes[i]? = some (e, .inFlight f)) :
    f.due ≤ r.clock := by
  obtain ⟨due, hle, hmem⟩ := hp
  rwa [Slot.due_of_settle (slot_of_mem_moves hn h.slot hmem) hr hi]

/-- A move of the slot goes on with the first call, or ends it as its timeline tells. -/
theorem At.turn (h : site.At d r s vs) (hn : r.watch.networks.Nodup)
    (hlimit : r.settings.probeTimeout = site.limit) (hepoch : r.settings.epoch = site.epoch)
    (hprobe : ∀ e ∈ site.endpoints, env.probe e = site.probe e)
    (hp : r.Permits (OfSlot site.network) (.move (.watch (.slot site.network m))))
    (ht : s.Turn env.probe r.settings.probeTimeout r.clock r.moment m s' events)
    (hslot : r'.watch.slot? site.network = some s') (hclock : r'.clock = r.clock) :
    ∃ gone rest, vs = gone ++ rest ∧ site.At (site.serveAll d (gone.map (·.2))) r' s' rest ∧
      (site.serveAll d (gone.map (·.2))).published =
        d.published ++ events.filterMap fun e => publication? site.network (r.clock, .slot e) := by
  cases ht with
  | idle =>
    refine ⟨[], vs, rfl, ⟨hslot, h.endpoints, h.round, h.calls, ?_, ?_, ?_⟩, ?_⟩
    · exact hclock ▸ h.free
    · exact hclock ▸ h.past
    · exact hclock ▸ h.stage
    · exact (List.append_nil _).symm
  | @takeUp call waiting hr hw =>
    cases vs with
    | nil =>
      have hcalls := h.calls
      rw [Slot.calls, hr, hw] at hcalls
      cases hcalls
    | cons v rest =>
      have hstage := h.stage
      rw [hr] at hstage
      have hwaiting := h.waiting hr
      rw [hw] at hwaiting
      obtain ⟨rfl, rfl⟩ := List.cons.inj hwaiting
      refine ⟨[], v :: rest, rfl, ⟨hslot, h.endpoints, h.round, ?_, hclock ▸ h.free,
        hclock ▸ h.past, hstage.1, ?_⟩, ?_⟩
      · rw [Stay.present_cons_of_none hstage.1]
        rfl
      · show site.Probing (max d.free v.2.start) r'.clock
          (Refresh.launched env.probe r.settings.probeTimeout r.clock s.endpoints)
        rw [hclock, hstage.2, hlimit, h.endpoints, launched_congr hprobe]
        exact launched_probing _
      · simp [publication?, List.filterMap_map, serveAll]
  | @settle refresh i e f outcome hr hi ho =>
    obtain ⟨v, rest, rfl⟩ := h.exists_cons hr
    obtain ⟨hcall, hwaiting, hprobing⟩ := h.running hr
    have hdue := due_le_of_settle h hn hp hr hi
    refine ⟨[], v :: rest, rfl, ⟨hslot, h.endpoints, h.round, ?_, hclock ▸ h.free, hclock ▸ h.past,
      h.stage.1, ?_⟩, (List.append_nil _).symm⟩
    · rw [Stay.present_cons_of_none h.stage.1, ← hcall, ← hwaiting]
      rfl
    · exact hclock ▸ hprobing.settle hi hdue ho
  | @crash refresh i e f hr hi ho =>
    obtain ⟨v, rest, rfl⟩ := h.exists_cons hr
    obtain ⟨-, hwaiting, hprobing⟩ := h.running hr
    have hending := hprobing.crash hi (due_le_of_settle h hn hp hr hi) ho
    have hserve : site.serve d v.2 = { d with free := r.clock } := by
      simp only [serve, h.stage.1, hending]
    obtain ⟨gone, rest', hrest, hsame, hat⟩ :=
      exists_at (d := { d with free := r.clock }) hslot h.endpoints h.round rfl hwaiting
        hclock.symm fun w hw => hclock ▸ h.past w (List.mem_cons_of_mem _ hw)
    refine ⟨v :: gone, rest', by rw [hrest, List.cons_append], ?_⟩
    rw [List.map_cons, serveAll, List.foldl_cons, hserve, ← serveAll, hsame]
    exact ⟨hat, (List.append_nil _).symm⟩
  | @publish refresh os hr hos =>
    obtain ⟨v, rest, rfl⟩ := h.exists_cons hr
    obtain ⟨-, hwaiting, hprobing⟩ := h.running hr
    have hending := hprobing.publish hos
    let ranking := Ranking.ofOutcomes site.network os (site.epoch.after r.clock) (d.round + 1)
    let d' : Desk := ⟨r.clock, d.round + 1, d.published ++ [(r.clock, ranking)]⟩
    have hserve : site.serve d v.2 = d' := by
      simp only [serve, h.stage.1, hending, d', ranking]
    have hranking : Ranking.ofOutcomes s.network os r.moment (s.round + 1) = ranking := by
      rw [Watch.network_of_slot? h.slot, h.round, moment, hepoch]
    have hnetwork : ranking.network = site.network := rfl
    obtain ⟨gone, rest', hrest, hsame, hat⟩ :=
      exists_at (d := d') hslot h.endpoints (congrArg (· + 1) h.round) rfl hwaiting
        hclock.symm fun w hw => hclock ▸ h.past w (List.mem_cons_of_mem _ hw)
    refine ⟨v :: gone, rest', by rw [hrest, List.cons_append], ?_⟩
    rw [List.map_cons, serveAll, List.foldl_cons, hserve, ← serveAll, hsame, hranking,
      publications_of_published hnetwork]
    exact ⟨hranking ▸ hat, rfl⟩

theorem At.published (h : site.At d r s vs) :
    ∃ more, (site.serveAll d (vs.map (·.2))).published = d.published ++ more ∧
      ∀ p ∈ more, r.clock ≤ p.1 := by
  cases vs with
  | nil => exact ⟨[], (List.append_nil _).symm, by simp⟩
  | cons v rest =>
    have hlate : r.clock ≤ (site.ending (max d.free v.2.start)).1 := by
      cases hr : s.running with
      | none =>
        have hstage := h.stage
        rw [hr] at hstage
        exact hstage.2 ▸ start_le_ending
      | some refresh => exact (h.running hr).2.2.le_ending
    have hfree : (site.serve d v.2).free = (site.ending (max d.free v.2.start)).1 := by
      simp only [serve, h.stage.1]
      split <;> (rename_i hending; rw [hending])
    obtain ⟨first, hfirst, htime⟩ := serve_published site d v.2
    obtain ⟨more, hmore, hlater⟩ := serveAll_published site (site.serve d v.2) (rest.map (·.2))
    refine ⟨first ++ more, ?_, fun p hp => ?_⟩
    · rw [List.map_cons, serveAll, List.foldl_cons, ← serveAll, hmore, hfirst, List.append_assoc]
    · rw [← hfree] at hlate
      rcases List.mem_append.mp hp with hp | hp
      · exact htime p hp ▸ hlate
      · exact Nat.le_trans hlate (hlater p hp)

/-- Whether the calls that a run has brought to the network have fared as its timeline tells: some
have been served, and the others are still there. -/
structure Tracks (site : Site) (d : Desk) (before : List (Nat × Ranking)) (r : Relay)
    (served vs : List (CallId × Stay)) : Prop where
  networks : r.watch.networks.Nodup
  limit : r.settings.probeTimeout = site.limit
  epoch : r.settings.epoch = site.epoch
  distinct : ((served ++ vs).map (·.1)).Nodup
  known : ∀ call ∈ (served ++ vs).map (·.1), call < r.watch.nextCall
  here : ∃ s, site.At (site.serveAll d (served.map (·.2))) r s vs
  published : r.publications site.network =
    before ++ (site.serveAll d (served.map (·.2))).published

variable {before : List (Nat × Ranking)} {served : List (CallId × Stay)} {steps : List Step}
  {r₁ r₂ : Relay}

theorem Tracks.act (h : site.Tracks d before r served vs)
    (hprobe : ∀ e ∈ site.endpoints, env.probe e = site.probe e)
    (hp : r.Permits (OfSlot site.network) a) :
    ∃ served' vs', r.visitsAfter site.network a (served ++ vs) = served' ++ vs' ∧
      site.Tracks d before (r.act env a) served' vs' := by
  obtain ⟨s, hat⟩ := h.here
  obtain ⟨s', events, hslot, hstep, hpub⟩ := seen env hat.slot a
  have hnext := (act_watch env r a).nextCall_le
  have hnetworks : (r.act env a).watch.networks.Nodup := by
    rw [Watch.networks_eq_config, (act_watch env r a).config h.networks, ← Watch.networks_eq_config]
    exact h.networks
  have hlimit := (congrArg Settings.probeTimeout (act_settings r env a)).trans h.limit
  have hepoch := (congrArg Settings.epoch (act_settings r env a)).trans h.epoch
  have hknown := fun call hcall => Nat.lt_of_lt_of_le (h.known call hcall) hnext
  rw [h.published] at hpub
  cases hstep with
  | aside comes leaves =>
    refine ⟨served, vs, ?_, hnetworks, hlimit, hepoch, h.distinct, hknown,
      ⟨s, hat.aside hp hslot⟩, hpub.trans (List.append_nil _)⟩
    simp only [visitsAfter, comes, leaves, Option.map_none, Option.toList_none, List.append_nil]
  | @comes _ call comes leaves fresh known clock =>
    have hnew : call ∉ (served ++ vs).map (·.1) := fun hmem =>
      Nat.lt_irrefl _ (Nat.lt_of_lt_of_le (h.known call hmem) fresh)
    have hids : (served ++ (vs ++ [(call, (⟨r.clock, none⟩ : Stay))])).map (·.1) =
        (served ++ vs).map (·.1) ++ [call] := by
      rw [← List.append_assoc, List.map_append, List.map_singleton]
    refine ⟨served, vs ++ [(call, ⟨r.clock, none⟩)], ?_, hnetworks, hlimit, hepoch, ?_, ?_,
      ⟨_, hat.comes hslot clock⟩, hpub.trans (List.append_nil _)⟩
    · simp only [visitsAfter, comes, leaves, Option.map_some, Option.toList_some, List.append_assoc]
    · rw [hids]
      refine List.nodup_append.mpr ⟨h.distinct, by simp, fun k hk l hl hkl => hnew ?_⟩
      rw [← List.mem_singleton.mp hl, ← hkl]
      exact hk
    · rw [hids]
      intro k hk
      rcases List.mem_append.mp hk with hk | hk
      · exact hknown k hk
      · exact List.mem_singleton.mp hk ▸ known
  | @leaves call held =>
    have hmem : call ∈ vs.map (·.1) := Stay.mem_of_present (hat.calls ▸ held)
    have hdistinct := h.distinct
    rw [List.map_append, List.nodup_append] at hdistinct
    have hothers : call ∉ served.map (·.1) := fun hserved => hdistinct.2.2 _ hserved _ hmem rfl
    obtain ⟨gone, rest, hrest, hat', hsame⟩ := hat.leaves hdistinct.2.1 hslot rfl
    have hleaver : (Action.abandon site.network call).leaver? r site.network = some call :=
      if_pos ⟨rfl, by simpa [hat.slot] using held⟩
    have hvisits : r.visitsAfter site.network (.abandon site.network call) (served ++ vs) =
        (served ++ gone) ++ rest := by
      simp only [visitsAfter, hleaver, Stay.leave_append, Stay.leave_eq_self hothers, hrest,
        Action.visitor?, Option.map_none, Option.toList_none, List.append_nil, List.append_assoc]
    have hids : ((served ++ gone) ++ rest).map (·.1) = (served ++ vs).map (·.1) := by
      rw [List.append_assoc, ← hrest, List.map_append, Stay.map_fst_leave, List.map_append]
    refine ⟨served ++ gone, rest, hvisits, hnetworks, hlimit, hepoch, hids ▸ h.distinct,
      hids ▸ hknown, ⟨s.abandon call, ?_⟩, ?_⟩
    · rw [List.map_append, serveAll_append]
      exact hat'
    · rw [List.map_append, serveAll_append, hsame]
      exact hpub.trans (List.append_nil _)
  | turn ht =>
    obtain ⟨gone, rest, rfl, hat', hmore⟩ :=
      hat.turn h.networks h.limit h.epoch hprobe hp ht hslot rfl
    refine ⟨served ++ gone, rest, ?_, hnetworks, hlimit, hepoch, ?_, ?_, ⟨s', ?_⟩, ?_⟩
    · exact (List.append_nil _).trans (List.append_assoc _ _ _).symm
    · rw [List.append_assoc]
      exact h.distinct
    · rw [List.append_assoc]
      exact hknown
    · rw [List.map_append, serveAll_append]
      exact hat'
    · rw [List.map_append, serveAll_append, hmore, hpub, List.append_assoc]

theorem Tracks.run (h : site.Tracks d before r₁ served vs)
    (hrun : Run (OfSlot site.network) r₁ steps r₂)
    (hprobes : ∀ st ∈ steps, ∀ e ∈ site.endpoints, st.env.probe e = site.probe e) :
    ∃ served' vs', r₁.visits site.network steps (served ++ vs) = served' ++ vs' ∧
      site.Tracks d before r₂ served' vs' := by
  induction hrun generalizing served vs with
  | nil => exact ⟨served, vs, rfl, h⟩
  | @cons r r' st steps permitted _ ih =>
    obtain ⟨served', vs', hvisits, h'⟩ := h.act (hprobes st List.mem_cons_self) permitted
    obtain ⟨served'', vs'', hrest, h''⟩ :=
      ih h' fun st' hst => hprobes st' (List.mem_cons_of_mem _ hst)
    exact ⟨served'', vs'', by rw [visits, hvisits, hrest], h''⟩

/-- Whether a run starts when no call is at the network, which has gone through some rounds, goes on
without delay there, and has its probes go as they do at the site. Nothing is said about other
networks. -/
structure Hosted (site : Site) (round : Nat) (r : Relay) (steps : List Step) (r' : Relay) :
    Prop where
  networks : r.watch.networks.Nodup
  slot : ∃ s, r.watch.slot? site.network = some s ∧ s.endpoints = site.endpoints ∧
    s.round = round ∧ s.calls = []
  limit : r.settings.probeTimeout = site.limit
  epoch : r.settings.epoch = site.epoch
  run : Run (OfSlot site.network) r steps r'
  probes : ∀ st ∈ steps, ∀ e ∈ site.endpoints, st.env.probe e = site.probe e

theorem new_hosted {c : Config} {registry : Registry} {epoch : Moment} {n : NetworkId}
    {es : List Endpoint} {probe : Prober} (hb : registry.Built)
    (hes : registry.endpoints? n = some es)
    (hrun : Run (OfSlot n) (.new c registry epoch) steps r)
    (hprobes : ∀ st ∈ steps, ∀ e ∈ es, st.env.probe e = probe e) :
    Hosted ⟨n, es, probe, c.probeTimeoutMs.toNat, epoch⟩ 0 (.new c registry epoch) steps r := by
  have hr : Reachable c registry (.new c registry epoch) := ⟨epoch, [], .nil _⟩
  obtain ⟨s, hs, hendpoints⟩ := hr.slot hb hes
  obtain ⟨p, -, rfl⟩ := List.mem_map.mp (Watch.mem_of_slot? hs)
  exact ⟨hr.nodup_networks hb, ⟨_, hs, hendpoints, rfl, rfl⟩, rfl, rfl, hrun, hprobes⟩

/-- What a network publishes after a time at which no call was there, given how long the calls stay
that come to it. -/
def timeline (site : Site) (round : Nat) (stays : List Stay) : List (Nat × Ranking) :=
  (site.serveAll ⟨0, round, []⟩ stays).published

variable {round : Nat}

/-- A run publishes for a network what its timeline tells, up to now. -/
theorem Hosted.published (h : site.Hosted round r steps r') :
    ∃ published, r'.publications site.network = r.publications site.network ++ published ∧
      published <+: site.timeline round (r.stays site.network steps) ∧
      (∀ t ≤ r'.clock, published.filter (·.1 < t) =
        (site.timeline round (r.stays site.network steps)).filter (·.1 < t)) ∧
      ((∀ call, ¬r'.watch.Holds site.network call) →
        published = site.timeline round (r.stays site.network steps)) := by
  obtain ⟨s, hs, hendpoints, hround, hcalls⟩ := h.slot
  have hidle : s.running = none := (Slot.calls_eq_nil_iff.mp hcalls).1
  have hstart : site.Tracks ⟨0, round, []⟩ (r.publications site.network) r [] [] :=
    ⟨h.networks, h.limit, h.epoch, .nil, by simp,
      ⟨s, hs, hendpoints, hround, hcalls, Nat.zero_le _, by simp, hidle⟩, (List.append_nil _).symm⟩
  obtain ⟨served, vs, hvisits, hend⟩ := hstart.run h.run h.probes
  obtain ⟨s', hat⟩ := hend.here
  obtain ⟨more, hmore, hlater⟩ := hat.published
  have htimeline : site.timeline round (r.stays site.network steps) =
      (site.serveAll ⟨0, round, []⟩ (served.map (·.2))).published ++ more := by
    rw [timeline, stays, show r.visits site.network steps [] = served ++ vs from hvisits,
      List.map_append, serveAll_append, hmore]
  refine ⟨_, hend.published, htimeline ▸ List.prefix_append _ _, fun t ht => ?_, fun hnone => ?_⟩
  · have hlate : more.filter (·.1 < t) = [] := List.filter_eq_nil_iff.mpr fun p hp => by
      simpa using Nat.le_trans ht (hlater p hp)
    rw [htimeline, List.filter_append, hlate, List.append_nil]
  · cases vs with
    | nil =>
      have hnil : more = [] := List.append_right_eq_self.mp hmore.symm
      rw [htimeline, hnil, List.append_nil]
    | cons v rest =>
      have hmem : v.1 ∈ s'.calls := by
        rw [hat.calls, Stay.present_cons_of_none hat.stage.1]
        exact List.mem_cons_self
      exact absurd ⟨s', hat.slot, hmem⟩ (hnone v.1)

end Site

namespace Relay

variable {site : Site} {round : Nat} {r₁ r₂ r₁' r₂' : Relay} {steps₁ steps₂ : List Step}

/-- Two runs in which a network's endpoints behave alike, and its calls come at the same times and
stay as long, publish the same rankings for it at the same times. They differ at most in how far
they have come, whatever other networks there are and whatever becomes of their refreshes. In
particular a single refresh, be it one of a round of all networks, publishes at the time at which it
ends on its own. -/
theorem networks_isolated (h₁ : site.Hosted round r₁ steps₁ r₁')
    (h₂ : site.Hosted round r₂ steps₂ r₂')
    (hstays : r₁.stays site.network steps₁ = r₂.stays site.network steps₂) :
    ∃ p₁ p₂, r₁'.publications site.network = r₁.publications site.network ++ p₁ ∧
      r₂'.publications site.network = r₂.publications site.network ++ p₂ ∧
      (p₁ <+: p₂ ∨ p₂ <+: p₁) ∧
      (∀ t, t ≤ r₁'.clock → t ≤ r₂'.clock → p₁.filter (·.1 < t) = p₂.filter (·.1 < t)) ∧
      ((∀ call, ¬r₁'.watch.Holds site.network call) →
        (∀ call, ¬r₂'.watch.Holds site.network call) → p₁ = p₂) ∧
      ∀ start t os, r₁.stays site.network steps₁ = [⟨start, none⟩] →
        site.ending start = (t, some os) → t < r₁'.clock → t < r₂'.clock →
        let ranking := Ranking.ofOutcomes site.network os (site.epoch.after t) (round + 1)
        p₁ = [(t, ranking)] ∧ p₂ = [(t, ranking)] := by
  obtain ⟨p₁, hp₁, hprefix₁, hpast₁, hall₁⟩ := h₁.published
  obtain ⟨p₂, hp₂, hprefix₂, hpast₂, hall₂⟩ := h₂.published
  rw [← hstays] at hprefix₂ hpast₂ hall₂
  refine ⟨p₁, p₂, hp₁, hp₂, List.prefix_or_prefix_of_prefix hprefix₁ hprefix₂,
    fun t ht₁ ht₂ => (hpast₁ t ht₁).trans (hpast₂ t ht₂).symm,
    fun hidle₁ hidle₂ => (hall₁ hidle₁).trans (hall₂ hidle₂).symm, ?_⟩
  intro start t os hstay hending ht₁ ht₂ ranking
  have hsingle : site.timeline round (r₁.stays site.network steps₁) = [(t, ranking)] := by
    simp only [hstay, Site.timeline, Site.serveAll, List.foldl_cons, List.foldl_nil, Site.serve,
      Nat.zero_max, hending, List.nil_append, ranking]
  have hone : ∀ p : List (Nat × Ranking), p <+: [(t, ranking)] →
      p.filter (·.1 < t + 1) = [(t, ranking)].filter (·.1 < t + 1) → p = [(t, ranking)] := by
    intro p hprefix hfilter
    have hnow : [(t, ranking)].filter (·.1 < t + 1) = [(t, ranking)] := by simp
    refine hprefix.eq_of_length_le ?_
    rw [← hnow, ← hfilter]
    exact List.length_filter_le _ _
  rw [hsingle] at hprefix₁ hprefix₂ hpast₁ hpast₂
  exact ⟨hone p₁ hprefix₁ (hpast₁ _ ht₁), hone p₂ hprefix₂ (hpast₂ _ ht₂)⟩

def neighbours : Registry := ⟨Registry.loopback.networks ++ [(⟨2⟩, [⟨"http://[::3]", ⟨2⟩⟩])]⟩

theorem neighbours_built : neighbours.Built := by
  have h : (Registry.loopback.insert ⟨2⟩ ["http://[::3]"]).toOption = some neighbours := by
    decide +kernel
  cases hinsert : Registry.loopback.insert ⟨2⟩ ["http://[::3]"] with
  | error e =>
    rw [hinsert] at h
    cases h
  | ok r =>
    rw [hinsert] at h
    cases h
    exact .insert Registry.loopback_built hinsert

def disturbed : Surroundings where
  post := uneven.post
  probe e t := if e.network = ⟨2⟩ then .crashes 5 else uneven.probe e t

def quietRound : List Step :=
  [.start, .move (.watch (.scheduler .wake)), .move (.watch (.slot ⟨1⟩ .takeUp)), .wait 10,
    .move (.watch (.slot ⟨1⟩ (.settle 1))), .wait 30, .move (.watch (.slot ⟨1⟩ (.settle 0))),
    .move (.watch (.slot ⟨1⟩ .publish)), .wait 40].map (⟨uneven, ·⟩)

def disturbedRound : List Step :=
  [.start, .move (.watch (.scheduler .wake)), .move (.watch (.slot ⟨2⟩ .takeUp)),
    .move (.watch (.slot ⟨1⟩ .takeUp)), .refresh ⟨2⟩, .wait 5,
    .move (.watch (.slot ⟨2⟩ (.settle 0))), .wait 10, .move (.watch (.slot ⟨1⟩ (.settle 1))),
    .move (.watch (.slot ⟨2⟩ .takeUp)), .wait 30, .move (.watch (.slot ⟨2⟩ (.settle 0))),
    .move (.watch (.slot ⟨1⟩ (.settle 0))), .move (.watch (.slot ⟨1⟩ .publish)),
    .wait 50].map (⟨disturbed, ·⟩)

theorem networks_isolated_crashing :
    ∃ (r₁ r₂ : Relay) (ranking : Ranking), r₁.watch.networks = [⟨1⟩] ∧
      r₂.watch.networks = [⟨1⟩, ⟨2⟩] ∧ r₂.watch.result? 1 = some none ∧
      r₁.publications ⟨1⟩ = [(30, ranking)] ∧ r₂.publications ⟨1⟩ = [(30, ranking)] := by
  let site : Site :=
    ⟨⟨1⟩, [⟨"http://[::1]", ⟨1⟩⟩, ⟨"http://[::2]", ⟨1⟩⟩], uneven.probe, 5000, ⟨0, 0⟩⟩
  let new₁ := Relay.new (.withNetworks []) .loopback ⟨0, 0⟩
  let new₂ := Relay.new (.withNetworks []) neighbours ⟨0, 0⟩
  have hrun₁ : Run (OfSlot ⟨1⟩) new₁ quietRound (new₁.after quietRound) :=
    run_after (by decide +kernel)
  have hrun₂ : Run (OfSlot ⟨1⟩) new₂ disturbedRound (new₂.after disturbedRound) :=
    run_after (by decide +kernel)
  have h₁ : site.Hosted 0 new₁ quietRound (new₁.after quietRound) :=
    Site.new_hosted Registry.loopback_built rfl hrun₁ (by simp [quietRound])
  have h₂ : site.Hosted 0 new₂ disturbedRound (new₂.after disturbedRound) :=
    Site.new_hosted neighbours_built rfl hrun₂ (by simp [disturbedRound, disturbed])
  have hstays : new₁.stays ⟨1⟩ quietRound = [⟨0, none⟩] := by decide +kernel
  have hstays₂ : new₂.stays ⟨1⟩ disturbedRound = [⟨0, none⟩] := by decide +kernel
  obtain ⟨p₁, p₂, hp₁, hp₂, -, -, -, hround⟩ :=
    networks_isolated h₁ h₂ (hstays.trans hstays₂.symm)
  have hending : site.ending 0 = (30, some (site.outcomes 0)) := rfl
  obtain ⟨rfl, rfl⟩ := hround 0 30 _ hstays hending (by decide +kernel) (by decide +kernel)
  exact ⟨_, _, _, by decide +kernel, by decide +kernel, by decide +kernel, hp₁, hp₂⟩

end Relay

end RankedRelay
