import RankedRelay.Proofs.Ranking
import RankedRelay.Proofs.Watch

namespace RankedRelay

/-- Where the ranking of a network comes from: nothing has been probed yet, or one round has, whose
probes were all started at one time. -/
def Ranking.From (P : Prober → Nat → Prop) (limit : Nat) (n : NetworkId) (es : List Endpoint)
    (r : Ranking) : Prop :=
  r = .unprobed n es ∨
    ∃ (probe : Prober) (start : Nat) (os : List Outcome) (moment : Moment) (round : Nat),
      P probe start ∧ os.map (·.1) = es ∧
      (∀ o ∈ os, Refresh.outcome? (Refresh.flight probe limit start o.1) = some o.2) ∧
      r = .ofOutcomes n os moment (round + 1)

namespace Slot

/-- What no move breaks: the refresh that is running has a probe for each endpoint, all started by
one prober at one time, and the ranking comes from such a refresh. -/
structure Sound (P : Prober → Nat → Prop) (limit : Nat) (s : Slot) : Prop where
  running : ∀ refresh, s.running = some refresh → ∃ (probe : Prober) (start : Nat),
    P probe start ∧ Refresh.StartedAt probe limit start s.endpoints refresh.probes
  ranking : s.ranking.From P limit s.network s.endpoints
  round : s.ranking.round = s.round

variable {P Q : Prober → Nat → Prop} {probe : Prober} {limit now : Nat} {moment : Moment}
  {s s' : Slot} {m : SlotMove} {events : List SlotEvent}

theorem new_sound (P : Prober → Nat → Prop) (limit : Nat) (n : NetworkId) (es : List Endpoint) :
    (Slot.new n es).Sound P limit where
  running := by simp [Slot.new]
  ranking := .inl rfl
  round := rfl

theorem Sound.enqueue (h : s.Sound P limit) (call : CallId) : (s.enqueue call).Sound P limit :=
  ⟨h.running, h.ranking, h.round⟩

theorem Sound.abandon (h : s.Sound P limit) (call : CallId) : (s.abandon call).Sound P limit where
  running := by
    intro refresh hr
    exact h.running refresh (Option.filter_eq_some_iff.mp hr).1
  ranking := h.ranking
  round := h.round

theorem Sound.mono (h : s.Sound P limit) (hPQ : ∀ probe start, P probe start → Q probe start) :
    s.Sound Q limit where
  running := by
    intro refresh hr
    obtain ⟨probe, start, hP, hstarted⟩ := h.running refresh hr
    exact ⟨probe, start, hPQ _ _ hP, hstarted⟩
  ranking := by
    rcases h.ranking with hr | ⟨probe, start, os, moment, round, hP, hall⟩
    · exact .inl hr
    · exact .inr ⟨probe, start, os, moment, round, hPQ _ _ hP, hall⟩
  round := h.round

theorem Sound.turn (h : s.Sound P limit) (hP : m = .takeUp → P probe now)
    (ht : s.Turn probe limit now moment m s' events) : s'.Sound P limit := by
  cases ht with
  | idle => exact h
  | takeUp hr hw =>
    refine ⟨fun refresh hrefresh => ?_, h.ranking, h.round⟩
    cases hrefresh
    exact ⟨probe, now, hP rfl, Refresh.launched_startedAt⟩
  | settle hr hp ho =>
    refine ⟨fun refresh hrefresh => ?_, h.ranking, h.round⟩
    cases hrefresh
    obtain ⟨probe', start, hP', hstarted⟩ := h.running _ hr
    exact ⟨probe', start, hP', hstarted.set hp ho⟩
  | crash hr hp ho => exact ⟨by simp, h.ranking, h.round⟩
  | publish hr ho =>
    obtain ⟨probe', start, hP', hstarted⟩ := h.running _ hr
    obtain ⟨hes, hall⟩ := hstarted.outcomes ho
    exact ⟨by simp, .inr ⟨probe', start, _, moment, s.round, hP', hes, hall, rfl⟩, rfl⟩

end Slot

namespace Relay

variable {P : NetworkId → Prober → Nat → Prop} {env : Surroundings} {r r₁ r₂ : Relay} {a : Action}
  {n : NetworkId} {s s' : Slot} {urgent : Move → Prop} {steps : List Step}

/-- Whether one of some steps starts the probes of a network, and with which prober and when. -/
inductive Launches (n : NetworkId) : Relay → List Step → Prober → Nat → Prop
  | here {r : Relay} {s : Step} {rest : List Step}
      (ha : s.action = .move (.watch (.slot n .takeUp))) :
      Launches n r (s :: rest) s.env.probe r.clock
  | later {r : Relay} {s : Step} {rest : List Step} {probe : Prober} {start : Nat}
      (h : Launches n (r.act s.env s.action) rest probe start) :
      Launches n r (s :: rest) probe start

theorem SlotChange.sound {Q : Prober → Nat → Prop} {limit : Nat} (h : SlotChange env r n a s s')
    (hQ : a = .move (.watch (.slot n .takeUp)) → Q env.probe r.clock)
    (hlimit : limit = r.settings.probeTimeout) (hs : s.Sound Q limit) : s'.Sound Q limit := by
  cases h with
  | keep => exact hs
  | enqueue => exact hs.enqueue _
  | abandon => exact hs.abandon _
  | turn ha ht =>
    subst hlimit
    exact hs.turn (fun hm => hQ (hm ▸ ha)) ht

/-- Whether all slots of a relay are sound. -/
def Sound (P : NetworkId → Prober → Nat → Prop) (r : Relay) : Prop :=
  ∀ n s, r.watch.slot? n = some s → s.Sound (P n) r.settings.probeTimeout

theorem new_sound (P : NetworkId → Prober → Nat → Prop) (c : Config) (registry : Registry)
    (epoch : Moment) : (Relay.new c registry epoch).Sound P := by
  intro n s hs
  obtain ⟨p, _, rfl⟩ := List.mem_map.mp (Watch.mem_of_slot? hs)
  exact Slot.new_sound _ _ _ _

theorem Sound.mono {Q : NetworkId → Prober → Nat → Prop} (h : r.Sound P)
    (hPQ : ∀ n probe start, P n probe start → Q n probe start) : r.Sound Q :=
  fun n s hs => (h n s hs).mono (hPQ n)

theorem Sound.act (h : r.Sound P)
    (hP : ∀ n, a = .move (.watch (.slot n .takeUp)) → P n env.probe r.clock) :
    (r.act env a).Sound P := by
  intro n s' hs'
  rw [act_settings]
  cases hs : r.watch.slot? n with
  | none =>
    rw [(act_watch env r a).slot?_none hs] at hs'
    cases hs'
  | some s =>
    obtain ⟨s₁, hs₁, hchange⟩ := (act_watch env r a).slot? hs
    rw [hs₁] at hs'
    cases hs'
    exact hchange.sound (hP n) rfl (h n s hs)

/-- A run leaves slots sound whose probes it has started itself, or that were so before. -/
theorem Sound.run (h : r₁.Sound P) (hrun : Run urgent r₁ steps r₂) :
    r₂.Sound fun n probe start => P n probe start ∨ Launches n r₁ steps probe start := by
  -- `P` grows along the run by what each step has started.
  induction hrun generalizing P with
  | nil => exact h.mono fun _ _ _ => .inl
  | @cons r _ s rest _ _ ih =>
    have hact : (r.act s.env s.action).Sound fun n probe start =>
        P n probe start ∨ Launches n r (s :: rest) probe start :=
      (h.mono fun _ _ _ => .inl).act fun n ha => .inr (.here ha)
    refine (ih hact).mono ?_
    rintro n probe start ((hP | hstart) | hstart)
    · exact .inl hP
    · exact .inr hstart
    · exact .inr (.later hstart)

end Relay

namespace Ranking

structure Untouched (es : List Endpoint) (r : Ranking) : Prop where
  round : r.round = 0
  records : r.records = es.map fun e => ⟨e, none, none, true, none⟩
  refreshedAt : r.refreshedAt = none

/-- The order and the records of a single round, which has probed each endpoint once, all with one
prober and at the same time. -/
structure Refreshed (P : Prober → Nat → Prop) (limit : Nat) (es : List Endpoint) (r : Ranking) :
    Prop where
  round : 1 ≤ r.round
  measured : ∃ (probe : Prober) (start : Nat) (os : List Outcome) (moment : Moment),
    P probe start ∧ os.map (·.1) = es ∧
    (∀ o ∈ os, Refresh.outcome? (Refresh.flight probe limit start o.1) = some o.2) ∧
    r.records.Perm (os.map (Record.ofOutcome moment)) ∧ r.OfRound es moment

/-- Whether a ranking is one that a network may show, given how its probes may have been started. -/
structure Coherent (P : Prober → Nat → Prop) (limit : Nat) (n : NetworkId) (es : List Endpoint)
    (r : Ranking) : Prop where
  network : r.network = n
  complete : r.endpoints.Perm es
  nodup : r.endpoints.Nodup
  tagged : ∀ e ∈ r.endpoints, e.network = n
  content : r.Untouched es ∨ r.Refreshed P limit es

theorem From.coherent {P : Prober → Nat → Prop} {limit : Nat} {n : NetworkId} {es : List Endpoint}
    {r : Ranking} (h : r.From P limit n es) (he : Registry.Entry n es) :
    r.Coherent P limit n es := by
  have hcomplete : r.network = n ∧ r.endpoints.Perm es := by
    rcases h with rfl | ⟨_, _, os, _, _, _, rfl, _, rfl⟩
    · refine ⟨rfl, ?_⟩
      simp [unprobed, endpoints, Record.unprobed, Function.comp_def]
    · exact ⟨rfl, ofOutcomes_endpoints_perm⟩
  refine ⟨hcomplete.1, hcomplete.2, hcomplete.2.nodup_iff.mpr he.nodup, ?_, ?_⟩
  · intro e hmem
    exact he.tagged e (hcomplete.2.mem_iff.mp hmem)
  · rcases h with rfl | ⟨probe, start, os, moment, round, hP, rfl, hall, rfl⟩
    · exact .inl ⟨rfl, rfl, rfl⟩
    · exact .inr ⟨Nat.succ_pos round, probe, start, os, moment, hP, rfl, hall,
        ofOutcomes_records_perm, ofOutcomes_ofRound he.nodup⟩

end Ranking

namespace Relay

theorem Sound.coherent {c : Config} {registry : Registry} {es : List Endpoint} (h : r.Sound P)
    (hb : registry.Built) (hr : Reachable c registry r) (hes : registry.endpoints? n = some es)
    (hs : r.watch.slot? n = some s) :
    s.ranking.Coherent (P n) c.probeTimeoutMs.toNat n es := by
  obtain ⟨s', hs', rfl⟩ := hr.slot hb hes
  rw [hs] at hs'
  cases hs'
  have hfrom := (h n s hs).ranking
  rw [hr.settings.1, Watch.network_of_slot? hs] at hfrom
  exact hfrom.coherent (hb.entry hes)

theorem Sound.coherent_of_mem {c : Config} {registry : Registry} (h : r.Sound P)
    (hb : registry.Built) (hr : Reachable c registry r) (hs : s ∈ r.watch.slots) :
    r.watch.slot? s.network = some s ∧ registry.endpoints? s.network = some s.endpoints ∧
      s.ranking.Coherent (P s.network) c.probeTimeoutMs.toNat s.network s.endpoints := by
  have hslot := Watch.slot?_of_mem (hr.nodup_networks hb) hs
  have hes : registry.endpoints? s.network = some s.endpoints := by
    rw [hr.endpoints?_eq hb, hslot, Option.map_some]
  exact ⟨hslot, hes, h.coherent hb hr hes hslot⟩

theorem Reachable.sound {c : Config} {registry : Registry} (hr : Reachable c registry r) :
    r.Sound fun _ _ _ => True := by
  obtain ⟨epoch, steps, hrun⟩ := hr
  exact ((new_sound (fun _ _ _ => True) c registry epoch).run hrun).mono fun _ _ _ _ => trivial

theorem ranking_unknown {c : Config} {registry : Registry} (hb : registry.Built)
    (hr : Reachable c registry r) (hes : registry.endpoints? n = none) :
    r.watch.ranking n = .error (.unknownNetwork n) := by
  rw [hr.endpoints?_eq hb, Option.map_eq_none_iff] at hes
  rw [Watch.ranking, hes]

/-- A registered network has a ranking at any time, with each of its endpoints once. -/
theorem ranking_complete {c : Config} {registry : Registry} {es : List Endpoint}
    (hb : registry.Built) (hr : Reachable c registry r) (hes : registry.endpoints? n = some es) :
    ∃ ranking, r.watch.ranking n = .ok ranking ∧ ranking.endpoints.Perm es ∧
      ranking.endpoints ≠ [] ∧ (ranking.endpoints.map (·.url)).Nodup := by
  obtain ⟨s, hs, -⟩ := hr.slot hb hes
  have hperm := (hr.sound.coherent hb hr hes hs).complete
  have hentry := hb.entry hes
  have hranking : r.watch.ranking n = .ok s.ranking := by
    rw [Watch.ranking, hs]
  refine ⟨s.ranking, hranking, hperm, fun hnil => ?_, ?_⟩
  · rw [hnil] at hperm
    exact hentry.nonempty (List.nil_perm.mp hperm)
  · exact ((hperm.map _).nodup_iff).mpr hentry.urls_nodup

/-- At any time the rankings are those of the registered networks in ascending order, and each is
coherent: a step of the run has started the probes it comes from. -/
theorem rankings_coherent {c : Config} {registry : Registry} {epoch : Moment} {r : Relay}
    (hb : registry.Built) (hrun : Run urgent (.new c registry epoch) steps r) :
    r.watch.rankings.map (·.network) = registry.networks.map (·.1) ∧
    (registry.networks.map (·.1)).Pairwise (· < ·) ∧
    ∀ n es, registry.endpoints? n = some es →
      ∃ ranking ∈ r.watch.rankings, r.watch.ranking n = .ok ranking ∧
        ranking.Coherent (Launches n (.new c registry epoch) steps) c.probeTimeoutMs.toNat n
          es := by
  have hr : Reachable c registry r := ⟨epoch, steps, hrun.mono fun _ => False.elim⟩
  have hsound : r.Sound fun n => Launches n (.new c registry epoch) steps :=
    ((new_sound (fun _ _ _ => False) c registry epoch).run hrun).mono fun _ _ _ h =>
      h.resolve_left id
  refine ⟨?_, hb.ascending, fun n es hes => ?_⟩
  · rw [← hr.config hb, ← Watch.networks_eq_config, Watch.rankings, Watch.networks, List.map_map]
    apply List.map_congr_left
    intro s hmem
    have hs := Watch.slot?_of_mem (hr.nodup_networks hb) hmem
    have hes : registry.endpoints? s.network = some s.endpoints := by
      rw [hr.endpoints?_eq hb, hs, Option.map_some]
    exact (hsound.coherent hb hr hes hs).network
  · obtain ⟨s, hs, _⟩ := hr.slot hb hes
    refine ⟨s.ranking, List.mem_map_of_mem (Watch.mem_of_slot? hs), ?_,
      hsound.coherent hb hr hes hs⟩
    rw [Watch.ranking, hs]

def uneven : Surroundings where
  post _ _ _ _ := .silent
  probe e _ := .answers (if e.url = "http://[::1]" then 30 else 10) (.ok (.ofMillis 10))

def overlapping : List Step :=
  [⟨uneven, .refresh ⟨1⟩⟩, ⟨uneven, .refresh ⟨1⟩⟩, ⟨uneven, .move (.watch (.slot ⟨1⟩ .takeUp))⟩,
    ⟨uneven, .wait 10⟩, ⟨uneven, .move (.watch (.slot ⟨1⟩ (.settle 1)))⟩,
    ⟨uneven, .wait 35⟩, ⟨uneven, .move (.watch (.slot ⟨1⟩ (.settle 0)))⟩,
    ⟨uneven, .move (.watch (.slot ⟨1⟩ .publish))⟩, ⟨uneven, .move (.watch (.slot ⟨1⟩ .takeUp))⟩]

theorem overlapping_run :
    Run (fun _ => False) (.new (.withNetworks []) .loopback ⟨0, 0⟩) overlapping
      ((Relay.new (.withNetworks []) .loopback ⟨0, 0⟩).after overlapping) :=
  run_after (by decide +kernel)

theorem rankings_coherent_overlapping :
    ∃ (r : Relay) (ranking : Ranking), r.watch.ranking ⟨1⟩ = .ok ranking ∧
      (r.watch.slot? ⟨1⟩).any (·.running.isSome) = true ∧ ranking.round = 1 ∧
      ranking.Coherent (Launches ⟨1⟩ (.new (.withNetworks []) .loopback ⟨0, 0⟩) overlapping) 5000
        ⟨1⟩ [⟨"http://[::1]", ⟨1⟩⟩, ⟨"http://[::2]", ⟨1⟩⟩] := by
  obtain ⟨-, -, hall⟩ := rankings_coherent Registry.loopback_built overlapping_run
  obtain ⟨ranking, hmem, hranking, hcoherent⟩ := hall ⟨1⟩ _ rfl
  refine ⟨_, ranking, hranking, by decide +kernel, ?_, hcoherent⟩
  have hrounds : ∀ r ∈ ((Relay.new (.withNetworks []) .loopback ⟨0, 0⟩).after
      overlapping).watch.rankings.map (·.round), r = 1 := by decide +kernel
  exact hrounds _ (List.mem_map_of_mem hmem)

end Relay

end RankedRelay
