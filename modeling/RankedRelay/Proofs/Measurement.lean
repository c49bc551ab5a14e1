import RankedRelay.Proofs.Calls
import RankedRelay.Proofs.Flight

namespace RankedRelay

/-- A refresh that starts all its probes at one time, and what each of them finds. -/
structure Measurement where
  network : NetworkId
  endpoints : List Endpoint
  call : CallId
  /-- The number of the last round before it. -/
  round : Nat
  probe : Prober
  limit : Nat
  start : Nat
  outcome : Endpoint → Except CallError Span
  found : ∀ e ∈ endpoints, Refresh.outcome? (Refresh.flight probe limit start e) = some (outcome e)

namespace Measurement

variable (m : Measurement)

def flight (e : Endpoint) : Flight (Except CallError Span) :=
  Refresh.flight m.probe m.limit m.start e

def finish : Nat := m.start + (m.endpoints.map fun e => (m.flight e).duration).foldr max 0

def ranking (epoch : Moment) : Ranking :=
  .ofOutcomes m.network (m.endpoints.map fun e => (e, m.outcome e)) (epoch.after m.finish)
    (m.round + 1)

theorem finish_le_iff {t : Nat} :
    m.finish ≤ t ↔ m.start ≤ t ∧ ∀ e ∈ m.endpoints, (m.flight e).due ≤ t :=
  add_foldr_max_le_iff

theorem start_le_finish : m.start ≤ m.finish := Nat.le_add_right _ _

theorem due_le_finish {e : Endpoint} (he : e ∈ m.endpoints) : (m.flight e).due ≤ m.finish :=
  (m.finish_le_iff.mp (Nat.le_refl _)).2 e he

def Launched (r : Relay) : Prop :=
  ∀ e ∈ m.endpoints, (m.start, Event.watch (.slot (.probed e))) ∈ r.events

/-- Whether the call is the first one in front of a slot where nothing runs. -/
structure Waiting (r : Relay) : Prop where
  slot : ∃ s, r.watch.slot? m.network = some s ∧ s.endpoints = m.endpoints ∧ s.round = m.round ∧
    s.running = none ∧ s.waiting.head? = some m.call
  clock : r.clock = m.start

/-- Whether the probes are under way, and none has ended before it was due. -/
structure Probing (r : Relay) (ps : List (Endpoint × ProbeState)) : Prop where
  slot : ∃ s, r.watch.slot? m.network = some s ∧ s.endpoints = m.endpoints ∧ s.round = m.round ∧
    s.running = some ⟨m.call, ps⟩
  started : Refresh.StartedAt m.probe m.limit m.start m.endpoints ps
  past : ∀ p ∈ ps, (∃ outcome, p.2 = .over outcome) → (m.flight p.1).due ≤ r.clock
  launched : m.Launched r
  start_le : m.start ≤ r.clock
  le_finish : r.clock ≤ m.finish

structure Over (r : Relay) : Prop where
  launched : m.Launched r
  published : (m.finish, Event.watch (.slot (.published m.call (m.ranking r.settings.epoch)))) ∈
    r.events
  booked : (m.call, some (m.ranking r.settings.epoch)) ∈ r.watch.results
  finish_le : m.finish ≤ r.clock

/-- How far the refresh has come. -/
inductive At (r : Relay) : Prop
  | waiting (h : m.Waiting r)
  | probing (ps : List (Endpoint × ProbeState)) (h : m.Probing r ps)
  | done (h : m.Over r)

variable {m}

theorem outcomes_eq {ps : List (Endpoint × ProbeState)} {os : List Outcome}
    (h : Refresh.StartedAt m.probe m.limit m.start m.endpoints ps)
    (hos : Refresh.outcomes? ps = some os) : os = m.endpoints.map fun e => (e, m.outcome e) := by
  obtain ⟨hes, hall⟩ := h.outcomes hos
  rw [← hes, List.map_map]
  refine (List.map_id os).symm.trans (List.map_congr_left fun o ho => ?_)
  have he : o.1 ∈ m.endpoints := hes ▸ List.mem_map_of_mem ho
  have hfound := m.found o.1 he
  rw [hall o ho] at hfound
  exact Prod.ext rfl (Option.some.inj hfound)

theorem flight_of_getElem? {ps : List (Endpoint × ProbeState)} {i : Nat} {e : Endpoint}
    {f : Flight (Except CallError Span)}
    (h : Refresh.StartedAt m.probe m.limit m.start m.endpoints ps)
    (hi : ps[i]? = some (e, .inFlight f)) : e ∈ m.endpoints ∧ f = m.flight e := by
  have hmem := List.mem_of_getElem? hi
  exact ⟨h.endpoints ▸ List.mem_map_of_mem hmem, h.flight_eq hmem⟩

open Relay

variable {env : Surroundings} {r r₁ r₂ : Relay} {a : Action} {s s' : Slot}

/-- What happens to a slot from outside disturbs neither the refresh that is running nor a call that
waits in front, as long as its caller stays. -/
theorem bystander {n : NetworkId} {call : CallId} (h : SlotChange env r n a s s')
    (ha : ∀ k, a ≠ .move (.watch (.slot n k))) (hstays : a ≠ .abandon n call) :
    s'.endpoints = s.endpoints ∧ s'.round = s.round ∧
    (s.running.all (·.call == call) = true → s'.running = s.running) ∧
    (s.waiting.head? = some call → s'.waiting.head? = some call) := by
  cases h with
  | keep => exact ⟨rfl, rfl, fun _ => rfl, id⟩
  | @enqueue call' =>
    refine ⟨rfl, rfl, fun _ => rfl, fun hfirst => ?_⟩
    rw [Slot.enqueue, List.head?_append, hfirst]
    rfl
  | @abandon call' hleaves =>
    have hne : call ≠ call' := fun heq => hstays (heq ▸ hleaves)
    refine ⟨rfl, rfl, fun hrunning => ?_, fun hfirst => ?_⟩
    · cases hr : s.running with
      | none => simp [Slot.abandon, hr]
      | some refresh =>
        have hcall : refresh.call = call := by simpa [hr] using hrunning
        simp [Slot.abandon, hr, hcall, Option.filter, hne]
    · obtain ⟨rest, hrest⟩ := List.head?_eq_some_iff.mp hfirst
      simp [Slot.abandon, hrest, hne]
  | turn hturn => exact absurd hturn (ha _)

theorem Launched.act (h : m.Launched r) : m.Launched (r.act env a) :=
  fun e he => (events_act r env a).subset (h e he)

theorem Waiting.takeUp (h : m.Waiting r) (hlimit : r.settings.probeTimeout = m.limit)
    (hprobe : env.probe = m.probe) :
    m.Probing (r.act env (.move (.watch (.slot m.network .takeUp))))
      (Refresh.launched m.probe m.limit m.start m.endpoints) := by
  obtain ⟨s, hs, hes, hround, hrunning, hfirst⟩ := h.slot
  obtain ⟨rest, hw⟩ := List.head?_eq_some_iff.mp hfirst
  obtain ⟨hslot, -, hevents⟩ := act_slot env hs (Slot.apply_takeUp hrunning hw)
  have hclock : (r.act env (.move (.watch (.slot m.network .takeUp)))).clock = m.start :=
    (act_clock r env (by simp)).trans h.clock
  rw [hprobe, hlimit, h.clock, hes] at hslot
  refine ⟨⟨_, hslot, rfl, hround, rfl⟩, Refresh.launched_startedAt, ?_, ?_,
    Nat.le_of_eq hclock.symm, ?_⟩
  · rintro p hp ⟨outcome, hover⟩
    obtain ⟨e, _, rfl⟩ := List.mem_map.mp hp
    cases hover
  · intro e he
    rw [hevents, h.clock]
    refine List.mem_append_left _ (List.mem_map_of_mem (List.mem_reverse.mpr ?_))
    exact List.mem_map_of_mem (List.mem_map_of_mem (hes ▸ he))
  · rw [hclock]
    exact m.start_le_finish

theorem Probing.settle {ps : List (Endpoint × ProbeState)} (h : m.Probing r ps) {i : Nat}
    {e : Endpoint} {f : Flight (Except CallError Span)} (hi : ps[i]? = some (e, .inFlight f))
    (hdue : f.due ≤ r.clock) :
    m.Probing (r.act env (.move (.watch (.slot m.network (.settle i)))))
      (ps.set i (e, .over (m.outcome e))) := by
  obtain ⟨s, hs, hes, hround, hrunning⟩ := h.slot
  obtain ⟨he, rfl⟩ := flight_of_getElem? h.started hi
  have hfound := m.found e he
  obtain ⟨hslot, -, -⟩ := act_slot env hs (Slot.apply_settle hrunning hi hfound)
  have hclock : (r.act env (.move (.watch (.slot m.network (.settle i))))).clock = r.clock :=
    act_clock r env (by simp)
  refine ⟨⟨_, hslot, hes, hround, rfl⟩, h.started.set hi hfound, ?_, h.launched.act, ?_, ?_⟩
  · rw [hclock]
    intro p hp hover
    rcases List.mem_or_eq_of_mem_set hp with hp | rfl
    · exact h.past p hp hover
    · exact hdue
  · rw [hclock]
    exact h.start_le
  · rw [hclock]
    exact h.le_finish

theorem Probing.clock_eq {ps : List (Endpoint × ProbeState)} (h : m.Probing r ps)
    {os : List Outcome} (hos : Refresh.outcomes? ps = some os) : r.clock = m.finish := by
  refine Nat.le_antisymm h.le_finish (m.finish_le_iff.mpr ⟨h.start_le, fun e he => ?_⟩)
  rw [← h.started.endpoints] at he
  obtain ⟨p, hp, rfl⟩ := List.mem_map.mp he
  exact h.past p hp (Refresh.outcomes?_isSome_iff.mp (by rw [hos]; rfl) p hp)

theorem Probing.publish {ps : List (Endpoint × ProbeState)} (h : m.Probing r ps) {os : List Outcome}
    (hos : Refresh.outcomes? ps = some os) :
    m.Over (r.act env (.move (.watch (.slot m.network .publish)))) := by
  obtain ⟨s, hs, hes, hround, hrunning⟩ := h.slot
  obtain ⟨-, hresults, hevents⟩ := act_slot env hs (Slot.apply_publish hrunning hos)
  have hclock : (r.act env (.move (.watch (.slot m.network .publish)))).clock = r.clock :=
    act_clock r env (by simp)
  have hfinish := h.clock_eq hos
  have hranking : Ranking.ofOutcomes s.network os r.moment (s.round + 1) =
      m.ranking r.settings.epoch := by
    rw [outcomes_eq h.started hos, Watch.network_of_slot? hs, hround, Relay.moment, hfinish]
    rfl
  rw [hranking] at hresults hevents
  refine ⟨h.launched.act, ?_, ?_, ?_⟩
  · rw [hevents, act_settings, hfinish]
    exact List.mem_cons_self
  · rw [hresults, act_settings]
    exact List.mem_cons_self
  · exact Nat.le_of_eq (hclock.trans hfinish).symm

theorem Waiting.clock_act (h : m.Waiting r) (hp : r.Permits (OfSlot m.network) a) :
    (r.act env a).clock = m.start := by
  obtain ⟨s, hs, -, -, hrunning, hfirst⟩ := h.slot
  have hmoves := Slot.moves_waiting hrunning hfirst
  have htakeUp := mem_moves_of_slot hs (hmoves ▸ List.mem_singleton_self _)
  cases a with
  | wait t =>
    have hle := hp.2 _ htakeUp rfl
    have hge := hp.1
    have hstart := h.clock
    show t = m.start
    omega
  | _ => exact (act_clock r env (by simp)).trans h.clock

theorem Waiting.act (h : m.Waiting r) (hn : r.watch.networks.Nodup)
    (hlimit : r.settings.probeTimeout = m.limit) (hprobe : env.probe = m.probe)
    (hstays : a ≠ .abandon m.network m.call) (hp : r.Permits (OfSlot m.network) a) :
    m.At (r.act env a) := by
  obtain ⟨s, hs, hes, hround, hrunning, hfirst⟩ := h.slot
  by_cases ha : ∃ k, a = .move (.watch (.slot m.network k))
  · obtain ⟨k, rfl⟩ := ha
    obtain ⟨due, _, hmem⟩ := hp
    have hk := slot_of_mem_moves hn hs hmem
    rw [Slot.moves_waiting hrunning hfirst] at hk
    cases List.mem_singleton.mp hk
    exact .probing _ (h.takeUp hlimit hprobe)
  · obtain ⟨s', hs', hchange⟩ := (act_watch env r a).slot? hs
    obtain ⟨hes', hround', hrunning', hfirst'⟩ :=
      bystander hchange (fun k hk => ha ⟨k, hk⟩) hstays
    refine .waiting ⟨⟨s', hs', hes'.trans hes, hround'.trans hround, ?_, hfirst' hfirst⟩,
      h.clock_act hp⟩
    rw [hrunning' (by rw [hrunning]; rfl), hrunning]

theorem Probing.clock_act {ps : List (Endpoint × ProbeState)} (h : m.Probing r ps)
    (hp : r.Permits (OfSlot m.network) a) : (r.act env a).clock ≤ m.finish := by
  obtain ⟨s, hs, -, -, hrunning⟩ := h.slot
  cases a with
  | wait t =>
    show t ≤ m.finish
    cases hos : Refresh.outcomes? ps with
    | some os =>
      have hmoves := Slot.moves_measured hrunning (by rw [hos]; rfl)
      have hle := hp.2 _ (mem_moves_of_slot hs (hmoves ▸ List.mem_singleton_self _)) rfl
      exact Nat.le_trans hle (Nat.zero_le _)
    | none =>
      obtain ⟨i, e, f, hi⟩ := Refresh.exists_inFlight hos
      obtain ⟨he, rfl⟩ := flight_of_getElem? h.started hi
      have hmove := Slot.settle_mem_moves hrunning hos hi
      have hle := hp.2 _ (mem_moves_of_slot hs hmove) rfl
      exact Nat.le_trans hle (m.due_le_finish he)
  | _ => exact Nat.le_trans (Nat.le_of_eq (act_clock r env (by simp))) h.le_finish

theorem Probing.act {ps : List (Endpoint × ProbeState)} (h : m.Probing r ps)
    (hn : r.watch.networks.Nodup) (hstays : a ≠ .abandon m.network m.call)
    (hp : r.Permits (OfSlot m.network) a) : m.At (r.act env a) := by
  obtain ⟨s, hs, hes, hround, hrunning⟩ := h.slot
  by_cases ha : ∃ k, a = .move (.watch (.slot m.network k))
  · obtain ⟨k, rfl⟩ := ha
    obtain ⟨due, hdue, hmem⟩ := hp
    have hk := slot_of_mem_moves hn hs hmem
    cases hos : Refresh.outcomes? ps with
    | some os =>
      rw [Slot.moves_measured hrunning (by rw [hos]; rfl)] at hk
      cases List.mem_singleton.mp hk
      exact .done (h.publish hos)
    | none =>
      rw [Slot.moves_probing hrunning hos] at hk
      obtain ⟨⟨_, i⟩, hflight, heq⟩ := List.mem_map.mp hk
      cases heq
      obtain ⟨e, f, hi, rfl⟩ := Refresh.mem_flights.mp hflight
      exact .probing _ (h.settle hi hdue)
  · have hclock := clock_le_act env hp
    obtain ⟨s', hs', hchange⟩ := (act_watch env r a).slot? hs
    obtain ⟨hes', hround', hrunning', -⟩ := bystander hchange (fun k hk => ha ⟨k, hk⟩) hstays
    refine .probing ps ⟨⟨s', hs', hes'.trans hes, hround'.trans hround, ?_⟩, h.started, ?_,
      h.launched.act, Nat.le_trans h.start_le hclock, h.clock_act hp⟩
    · rw [hrunning' (by simp [hrunning]), hrunning]
    · exact fun p hp hover => Nat.le_trans (h.past p hp hover) hclock

theorem Over.act (h : m.Over r) (hp : r.Permits (OfSlot m.network) a) : m.Over (r.act env a) where
  launched := h.launched.act
  published := by
    rw [act_settings]
    exact (events_act r env a).subset h.published
  booked := by
    rw [act_settings]
    exact (act_watch env r a).results.subset h.booked
  finish_le := Nat.le_trans h.finish_le (clock_le_act env hp)

theorem At.act (h : m.At r) (hn : r.watch.networks.Nodup)
    (hlimit : r.settings.probeTimeout = m.limit) (hprobe : env.probe = m.probe)
    (hstays : a ≠ .abandon m.network m.call) (hp : r.Permits (OfSlot m.network) a) :
    m.At (r.act env a) := by
  cases h with
  | waiting h => exact h.act hn hlimit hprobe hstays hp
  | probing ps h => exact h.act hn hstays hp
  | done h => exact .done (h.act hp)

def Allows (m : Measurement) (s : Step) : Prop :=
  s.env.probe = m.probe ∧ s.action ≠ .abandon m.network m.call

theorem Probing.wait {ps : List (Endpoint × ProbeState)} (h : m.Probing r ps) {t : Nat}
    (hle : r.clock ≤ t) (hfinish : t ≤ m.finish) : m.Probing { r with clock := t } ps where
  slot := h.slot
  started := h.started
  past p hp hover := Nat.le_trans (h.past p hp hover) hle
  launched := h.launched
  start_le := Nat.le_trans h.start_le hle
  le_finish := hfinish

theorem Probing.progress {ps : List (Endpoint × ProbeState)} (h : m.Probing r ps)
    (hn : r.watch.networks.Nodup) (hprobe : env.probe = m.probe)
    (hos : Refresh.outcomes? ps = none) :
    ∃ steps r' ps', Run (OfSlot m.network) r steps r' ∧ (∀ s ∈ steps, m.Allows s) ∧
      m.Probing r' ps' ∧ ps'.countP (·.2.isInFlight) < ps.countP (·.2.isInFlight) := by
  obtain ⟨s, hs, -, -, hrunning⟩ := h.slot
  obtain ⟨_, _, _, hpending⟩ := Refresh.exists_inFlight hos
  have hsome := List.ne_nil_of_mem (Slot.settle_mem_moves hrunning hos hpending)
  obtain ⟨due, move, steps, hmem, hsteps, hrun⟩ := exists_slot_move env hn hs hsome
  rw [Slot.moves_probing hrunning hos] at hmem
  obtain ⟨⟨_, i⟩, hflight, heq⟩ := List.mem_map.mp hmem
  cases heq
  obtain ⟨e, f, hi, rfl⟩ := Refresh.mem_flights.mp hflight
  replace hi : ps[i]? = some (e, .inFlight f) := hi
  obtain ⟨he, rfl⟩ := flight_of_getElem? h.started hi
  have hlater := h.wait (Nat.le_max_left _ _) (Nat.max_le.mpr ⟨h.le_finish, m.due_le_finish he⟩)
  refine ⟨steps, _, _, hrun, fun s hs => ?_, hlater.settle hi (Nat.le_max_right _ _),
    Refresh.countP_set_over hi _⟩
  obtain ⟨rfl, haction | ⟨t, haction⟩⟩ := hsteps s hs
  · exact ⟨hprobe, by simp [haction]⟩
  · exact ⟨hprobe, by simp [haction]⟩

theorem Probing.completes {c : Config} {registry : Registry} {ps : List (Endpoint × ProbeState)}
    (h : m.Probing r ps) (hb : registry.Built) (hr : Reachable c registry r)
    (hprobe : env.probe = m.probe) :
    ∃ steps r', Run (OfSlot m.network) r steps r' ∧ (∀ s ∈ steps, m.Allows s) ∧ m.Over r' ∧
      r'.clock = m.finish := by
  -- By the number of probes that are on their way; the last one leaves only the end of the refresh.
  induction hk : ps.countP (·.2.isInFlight) using Nat.strongRecOn generalizing r ps with
  | ind k ih =>
    cases hos : Refresh.outcomes? ps with
    | none =>
      obtain ⟨steps, r', ps', hrun, hsteps, h', hfewer⟩ :=
        h.progress (hr.nodup_networks hb) hprobe hos
      obtain ⟨more, r'', hmore, hall, hover, hclock⟩ := ih _ (hk ▸ hfewer) h' (hr.run hrun) rfl
      refine ⟨steps ++ more, r'', hrun.append hmore, fun s hs => ?_, hover, hclock⟩
      exact (List.mem_append.mp hs).elim (hsteps s) (hall s)
    | some os =>
      obtain ⟨s, hs, -, -, hrunning⟩ := h.slot
      have hmoves := Slot.moves_measured hrunning (by rw [hos]; rfl)
      have hpermits : r.Permits (OfSlot m.network) (.move (.watch (.slot m.network .publish))) :=
        ⟨0, Nat.zero_le _, mem_moves_of_slot hs (hmoves ▸ List.mem_singleton_self _)⟩
      refine ⟨[⟨env, _⟩], _, .single hpermits, by simp [Allows, hprobe], h.publish hos, ?_⟩
      exact (act_clock r env (by simp)).trans (h.clock_eq hos)

theorem Waiting.completes {c : Config} {registry : Registry} (h : m.Waiting r)
    (hb : registry.Built) (hr : Reachable c registry r)
    (hlimit : r.settings.probeTimeout = m.limit) (hprobe : env.probe = m.probe) :
    ∃ steps r', Run (OfSlot m.network) r steps r' ∧ (∀ s ∈ steps, m.Allows s) ∧ m.Over r' ∧
      r'.clock = m.finish := by
  obtain ⟨s, hs, -, -, hrunning, hfirst⟩ := h.slot
  have htakeUp : Run (OfSlot m.network) r [⟨env, .move (.watch (.slot m.network .takeUp))⟩] _ :=
    .single (permits_takeUp hs hrunning hfirst)
  obtain ⟨steps, r', hrun, hsteps, hover⟩ :=
    (h.takeUp hlimit hprobe).completes hb (hr.run htakeUp) hprobe
  refine ⟨_, r', htakeUp.append hrun, ?_, hover⟩
  rintro s (_ | ⟨_, hs⟩)
  · exact ⟨hprobe, by simp⟩
  · exact hsteps s hs

theorem At.run {c : Config} {registry : Registry} {steps : List Step}
    (h : m.At r₁) (hb : registry.Built) (hr : Reachable c registry r₁)
    (hlimit : r₁.settings.probeTimeout = m.limit)
    (hrun : Run (OfSlot m.network) r₁ steps r₂) (hsteps : ∀ s ∈ steps, m.Allows s) : m.At r₂ := by
  have hkeeps := hrun.keeps (E := m.Allows) (P := fun r => m.At r ∧ Reachable c registry r ∧
    r.settings.probeTimeout = m.limit) ?_ hsteps ⟨h, hr, hlimit⟩
  · exact hkeeps.1
  · rintro r s ⟨h, hr, hlimit⟩ ⟨hprobe, hstays⟩ hp
    refine ⟨h.act (hr.nodup_networks hb) hlimit hprobe hstays hp,
      hr.act _ (hp.mono fun _ => False.elim), ?_⟩
    rw [act_settings, hlimit]

theorem waiting_of_refresh (hs : r₁.watch.slot? m.network = some s)
    (hendpoints : s.endpoints = m.endpoints) (hround : s.round = m.round) (hfree : s.calls = [])
    (hclock : r₁.clock = m.start) (hcall : r₁.refresh m.network = .ok (m.call, r₂)) :
    m.Waiting r₂ := by
  simp only [Relay.refresh, Watch.request, hs] at hcall
  obtain ⟨hnext, rfl⟩ := Prod.mk.inj (Except.ok.inj hcall)
  obtain ⟨hidle, hwaiting⟩ := Slot.calls_eq_nil_iff.mp hfree
  have hslot := Watch.slot?_modify (w := r₁.watch) (n := m.network) (·.enqueue r₁.watch.nextCall)
    (fun _ _ h => h) m.network
  rw [if_pos rfl, hs] at hslot
  refine ⟨⟨_, hslot, hendpoints, hround, hidle, ?_⟩, hclock⟩
  show (s.waiting ++ [r₁.watch.nextCall]).head? = some m.call
  rw [hwaiting]
  exact congrArg some hnext

theorem Waiting.holds (h : m.Waiting r) : r.watch.Holds m.network m.call := by
  obtain ⟨s, hs, -, -, hrunning, hfirst⟩ := h.slot
  obtain ⟨rest, hrest⟩ := List.head?_eq_some_iff.mp hfirst
  refine ⟨s, hs, ?_⟩
  rw [Slot.calls, hrest]
  exact List.mem_append_right _ List.mem_cons_self

theorem Probing.holds {ps : List (Endpoint × ProbeState)} (h : m.Probing r ps) :
    r.watch.Holds m.network m.call := by
  obtain ⟨s, hs, -, -, hrunning⟩ := h.slot
  refine ⟨s, hs, ?_⟩
  rw [Slot.calls, hrunning]
  exact List.mem_cons_self

/-- What has come of a refresh, and what is still to come. -/
theorem At.result {c : Config} {registry : Registry} (h : m.At r) (env : Surroundings)
    (hb : registry.Built) (hr : Reachable c registry r) (hlimit : r.settings.probeTimeout = m.limit)
    (hprobe : env.probe = m.probe) :
    (r.watch.result? m.call = none ∧ r.clock = m.start ∨ m.Launched r) ∧
    (∀ result, r.watch.result? m.call = some result → result = some (m.ranking r.settings.epoch) ∧
      m.finish ≤ r.clock ∧ (m.finish, Event.watch
        (.slot (.published m.call (m.ranking r.settings.epoch)))) ∈ r.events) ∧
    (r.watch.result? m.call = none → r.clock ≤ m.finish ∧
      ∃ steps r', Run (OfSlot m.network) r steps r' ∧ (∀ s ∈ steps, m.Allows s) ∧
        r'.clock = m.finish ∧
        r'.watch.result? m.call = some (some (m.ranking r.settings.epoch))) := by
  have hend : ∀ steps r', Run (OfSlot m.network) r steps r' → m.Over r' →
      r'.watch.result? m.call = some (some (m.ranking r.settings.epoch)) := by
    intro steps r' hrun hover
    rw [← settings_run hrun]
    exact Watch.result?_of_mem (hr.run hrun).distinct.closed hover.booked
  cases h with
  | waiting h =>
    have hnone := result?_of_holds hr h.holds
    refine ⟨.inl ⟨hnone, h.clock⟩, by simp [hnone], fun _ => ⟨h.clock ▸ m.start_le_finish, ?_⟩⟩
    obtain ⟨steps, r', hrun, hsteps, hover, hclock⟩ := h.completes hb hr hlimit hprobe
    exact ⟨steps, r', hrun, hsteps, hclock, hend steps r' hrun hover⟩
  | probing ps h =>
    have hnone := result?_of_holds hr h.holds
    refine ⟨.inr h.launched, by simp [hnone], fun _ => ⟨h.le_finish, ?_⟩⟩
    obtain ⟨steps, r', hrun, hsteps, hover, hclock⟩ := h.completes hb hr hprobe
    exact ⟨steps, r', hrun, hsteps, hclock, hend steps r' hrun hover⟩
  | done h =>
    have hsome := hend [] r (.nil r) h
    refine ⟨.inr h.launched, fun result hresult => ?_, by simp [hsome]⟩
    rw [hsome] at hresult
    cases hresult
    exact ⟨rfl, h.finish_le, h.published⟩

end Measurement

end RankedRelay
