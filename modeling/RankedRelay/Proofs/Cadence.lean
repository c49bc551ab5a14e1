import RankedRelay.Proofs.Drain

namespace RankedRelay

/-- What the times of the rounds depend on: the endpoints of all networks, how the probes of each
round go, how long a probe may take, the interval, and when the first round starts. -/
structure Schedule where
  endpoints : List Endpoint
  probe : Nat → Prober
  limit : Nat
  interval : Nat
  first : Nat

namespace Schedule

variable (S : Schedule)

/-- How long a round takes that starts at a time: as long as its longest probe, none of which takes
longer than the limit. -/
def lasts (k start : Nat) : Nat :=
  (S.endpoints.map fun e => (S.probe k e start).lasting S.limit).foldr max 0

def begins : Nat → Nat
  | 0 => S.first
  | k + 1 => begins k + S.lasts k (begins k) + S.interval

def ends (k : Nat) : Nat := S.begins k + S.lasts k (S.begins k)

/-- Whether no probe of any round crashes before it is cut off. -/
def Calm : Prop :=
  ∀ k, ∀ e ∈ S.endpoints, ∀ d ≤ S.limit, S.probe k e (S.begins k) ≠ .crashes d

variable {S} {k t : Nat}

theorem ends_le_iff : S.ends k ≤ t ↔
    S.begins k ≤ t ∧ ∀ e ∈ S.endpoints,
      S.begins k + (S.probe k e (S.begins k)).lasting S.limit ≤ t := add_foldr_max_le_iff

theorem begins_le_ends : S.begins k ≤ S.ends k := Nat.le_add_right _ _

theorem lasts_le : S.lasts k t ≤ S.limit :=
  foldr_max_le_iff.mpr ⟨Nat.zero_le _, fun _ _ => Course.lasting_le _ _⟩

theorem begins_bounds (S : Schedule) (k : Nat) :
    S.first + k * S.interval ≤ S.begins k ∧
      S.begins k ≤ S.first + k * (S.interval + S.limit) := by
  induction k with
  | zero => simp [begins]
  | succ k ih =>
    have hlasts : S.lasts k (S.begins k) ≤ S.limit := lasts_le
    rw [begins, Nat.succ_mul, Nat.succ_mul]
    omega

theorem begins_mono {j : Nat} (h : j ≤ k) : S.begins j ≤ S.begins k := by
  induction h with
  | refl => exact Nat.le_refl _
  | @step k _ ih =>
    rw [begins]
    omega

def site (S : Schedule) (k : Nat) (s : Slot) : Site :=
  ⟨s.network, s.endpoints, S.probe k, S.limit, ⟨0, 0⟩⟩

variable {s : Slot}

theorem last_le_ends (hs : s.endpoints ⊆ S.endpoints) :
    (S.site k s).last (S.begins k) ≤ S.ends k := by
  obtain ⟨hbegins, hall⟩ := ends_le_iff.mp (Nat.le_refl (S.ends k))
  refine Site.last_le_iff.mpr ⟨hbegins, fun e he => ?_⟩
  have hdue : ((S.site k s).flight (S.begins k) e).due =
      S.begins k + (S.probe k e (S.begins k)).lasting S.limit :=
    congrArg (S.begins k + ·) (Flight.duration_eq _)
  exact hdue ▸ hall e (hs he)

theorem ends_le_of_last {slots : List Slot} (hstart : S.begins k ≤ t)
    (hall : ∀ e ∈ S.endpoints, ∃ s ∈ slots, e ∈ s.endpoints)
    (hlast : ∀ s ∈ slots, (S.site k s).last (S.begins k) ≤ t) : S.ends k ≤ t := by
  refine ends_le_iff.mpr ⟨hstart, fun e he => ?_⟩
  obtain ⟨s, hs, hes⟩ := hall e he
  have hdue : ((S.site k s).flight (S.begins k) e).due ≤ t :=
    (Site.last_le_iff.mp (hlast s hs)).2 e hes
  rw [Flight.due, Flight.duration_eq] at hdue
  exact hdue

theorem Calm.crash? (h : S.Calm) (hs : s.endpoints ⊆ S.endpoints) :
    (S.site k s).crash? (S.begins k) = none := by
  refine Site.crash?_eq_none.mpr fun e he hnone => ?_
  obtain ⟨d, hd, hcourse⟩ := Refresh.course_of_outcome? hnone
  exact h k e (hs he) d hd hcourse

end Schedule

/-- Where a slot may be in a round that started at a time: its call waits at that time, its probes
are on time, or its refresh is over and the last probe was due. -/
inductive Slot.Stage (site : Site) (start now : Nat) (s : Slot) : Prop
  | waiting {call : CallId} (running : s.running = none) (waiting : s.waiting = [call])
      (now : now = start)
  | probing {refresh : Refresh} (running : s.running = some refresh) (waiting : s.waiting = [])
      (onTime : site.Probing start now refresh.probes)
  | done (calls : s.calls = []) (last : site.last start ≤ now)

namespace Slot.Stage

variable {site : Site} {start now t due limit : Nat} {s s' : Slot} {m : SlotMove}
  {events : List SlotEvent} {moment : Moment}

theorem le_last (h : s.Stage site start now) (hcrash : site.crash? start = none)
    (hcalls : s.calls ≠ []) : now ≤ site.last start := by
  cases h with
  | waiting _ _ hnow => exact hnow ▸ (Site.last_le_iff.mp (Nat.le_refl _)).1
  | probing _ _ honTime =>
    have hle := honTime.le_ending
    rwa [Site.ending, hcrash] at hle
  | done hnone _ => exact absurd hnone hcalls

theorem wait (h : s.Stage site start now) (hle : now ≤ t) (hfirst : ∀ m ∈ s.moves, t ≤ m.1) :
    s.Stage site start t := by
  -- What is due at once stops the clock.
  have hstop : ∀ m, (0, m) ∈ s.moves → t = now := fun m hm =>
    Nat.le_antisymm (Nat.le_trans (hfirst _ hm) (Nat.zero_le _)) hle
  cases h with
  | waiting hr hw hnow =>
    have hmoves := moves_waiting hr (by rw [hw]; rfl)
    exact .waiting hr hw ((hstop _ (hmoves ▸ List.mem_singleton_self _)).trans hnow)
  | @probing refresh hr hw honTime =>
    cases hos : Refresh.outcomes? refresh.probes with
    | some os =>
      have hmoves := moves_measured hr (by rw [hos]; rfl)
      exact .probing hr hw (hstop _ (hmoves ▸ List.mem_singleton_self _) ▸ honTime)
    | none =>
      refine .probing hr hw (honTime.wait hle hos fun e f hmem => ?_)
      obtain ⟨i, hi⟩ := List.getElem?_of_mem hmem
      exact hfirst _ (settle_mem_moves hr hos hi)
  | done hcalls hlast => exact .done hcalls (Nat.le_trans hlast hle)

theorem turn (h : s.Stage site start now) (hcrash : site.crash? start = none)
    (hendpoints : s.endpoints = site.endpoints) (hm : (due, m) ∈ s.moves) (hdue : due ≤ now)
    (ht : s.Turn site.probe site.limit now moment m s' events) : s'.Stage site start now := by
  cases ht with
  | idle => exact h
  | takeUp hr hw =>
    cases h with
    | waiting _ hone hnow =>
      obtain ⟨rfl, rfl⟩ := List.cons.inj (hw.symm.trans hone)
      subst hnow
      exact .probing rfl rfl (hendpoints ▸ Site.launched_probing _)
    | probing hrunning => simp [hr] at hrunning
    | done hcalls => simp [calls, hw] at hcalls
  | settle hr hi ho =>
    cases h with
    | waiting hnone => simp [hr] at hnone
    | probing hrunning hw honTime =>
      cases hr.symm.trans hrunning
      have hle : _ ≤ now := due_of_settle hm hr hi ▸ hdue
      exact .probing rfl hw (honTime.settle hi hle ho)
    | done hcalls => simp [calls, hr] at hcalls
  | crash hr hi ho =>
    cases h with
    | waiting hnone => simp [hr] at hnone
    | probing hrunning hw honTime =>
      cases hr.symm.trans hrunning
      obtain ⟨he, rfl⟩ := honTime.flight_of_getElem? hi
      exact absurd ho (Site.crash?_eq_none.mp hcrash _ he)
    | done hcalls => simp [calls, hr] at hcalls
  | publish hr ho =>
    cases h with
    | waiting hnone => simp [hr] at hnone
    | probing hrunning hw honTime =>
      cases hr.symm.trans hrunning
      have hending := honTime.publish ho
      simp only [Site.ending, hcrash] at hending
      exact .done hw (Nat.le_of_eq (Prod.mk.inj hending).1)
    | done hcalls => simp [calls, hr] at hcalls

end Slot.Stage

namespace Scheduler

def begun (s : Scheduler) : Nat := if s.phase = .scanning then s.rounds + 1 else s.rounds

theorem start_eq_self {s : Scheduler} {now : Nat} (h : s.phase = .idle → ∃ t, s.wakeAt = some t) :
    s.start now = s := by
  rw [start, if_neg]
  rintro ⟨hphase, hnone⟩
  obtain ⟨t, ht⟩ := h hphase
  simp [ht] at hnone

end Scheduler

namespace Relay

variable {env : Surroundings} {urgent : Move → Prop} {r r₁ r₂ : Relay} {a : Action} {w : Watch}
  {steps : List Step} {registry : Registry} {S : Schedule}

/-- When the scheduler has made a move, in order. -/
def timesOf (m : SchedulerMove) (r : Relay) : List Nat :=
  ((r.milestones.filter (·.2 == m)).map (·.1)).reverse

/-- Whether the probes of each round go as they are said to. -/
def ProbedBy (probe : Nat → Prober) (r : Relay) : List Step → Prop
  | [] => True
  | st :: rest => st.env.probe = probe r.watch.scheduler.rounds ∧
    (r.act st.env st.action).ProbedBy probe rest

theorem timesOf_act (env : Surroundings) (r : Relay) (m : SchedulerMove)
    (ha : ∀ m, a ≠ .move (.watch (.scheduler m))) : (r.act env a).timesOf m = r.timesOf m := by
  rw [timesOf, milestones_act env r ha, timesOf]

theorem timesOf_act_scheduler (env : Surroundings) (r : Relay) (m m' : SchedulerMove) :
    (r.act env (.move (.watch (.scheduler m')))).timesOf m =
      r.timesOf m ++ if m' = m then [r.clock] else [] := by
  have hmilestones : (r.act env (.move (.watch (.scheduler m')))).milestones =
      (r.clock, m') :: r.milestones := by
    cases m' <;> rfl
  rw [timesOf, hmilestones, timesOf]
  by_cases hm : m' = m
  · rw [if_pos hm, List.filter_cons_of_pos (by simpa using hm), List.map_cons, List.reverse_cons]
  · rw [if_neg hm, List.filter_cons_of_neg (by simpa using hm), List.append_nil]

theorem Beat.interval (h : Beat env r a w) :
    w.scheduler.interval = r.watch.scheduler.interval := by
  cases h with
  | start =>
    simp only [Scheduler.start]
    split <;> rfl
  | turn hs hm hle happly slots scheduler => rw [scheduler]
  | _ => rfl

/-- Whether a relay keeps to a schedule. -/
structure Punctual (S : Schedule) (r : Relay) : Prop where
  limit : r.settings.probeTimeout = S.limit
  interval : r.watch.scheduler.interval = S.interval
  started : r.timesOf .wake = (List.range r.watch.scheduler.begun).map S.begins
  ended : r.timesOf .conclude = (List.range r.watch.scheduler.rounds).map S.ends
  resting : r.watch.scheduler.phase = .idle →
    r.watch.scheduler.wakeAt = some (S.begins r.watch.scheduler.rounds) ∧
      (r.watch.scheduler.cancelled = false → r.clock ≤ S.begins r.watch.scheduler.rounds)
  scanning : r.watch.scheduler.phase = .scanning →
    S.begins r.watch.scheduler.rounds ≤ r.clock ∧ r.clock ≤ S.ends r.watch.scheduler.rounds ∧
      ∀ s ∈ r.watch.slots, s.Stage (S.site r.watch.scheduler.rounds s)
        (S.begins r.watch.scheduler.rounds) r.clock
  stopped : r.watch.scheduler.phase = .terminated → r.watch.scheduler.cancelled = true

theorem Tidy.mem_endpoints (h : r.Tidy registry) {e : Endpoint} :
    e ∈ registry.networks.flatMap (·.2) ↔ ∃ s ∈ r.watch.slots, e ∈ s.endpoints := by
  rw [← h.config, Watch.config, List.flatMap_map, List.mem_flatMap]

theorem Tidy.subset (h : r.Tidy registry) (hS : S.endpoints = registry.networks.flatMap (·.2))
    {s : Slot} (hs : s ∈ r.watch.slots) : s.endpoints ⊆ S.endpoints := by
  intro e he
  rw [hS]
  exact h.mem_endpoints.mpr ⟨s, hs, he⟩

theorem Punctual.wait (h : r.Punctual S) (hr : r.Tidy registry) (hcalm : S.Calm)
    (hS : S.endpoints = registry.networks.flatMap (·.2)) {t : Nat}
    (hp : r.Permits Prompt (.wait t)) : Punctual S { r with clock := t } := by
  obtain ⟨hle, hurgent⟩ := hp
  have hfirst : ∀ m ∈ r.watch.moves, t ≤ m.1 := fun m hm =>
    hurgent (m.1, .watch m.2) (watch_mem_moves.mpr hm) trivial
  refine ⟨h.limit, h.interval, h.started, h.ended, fun hphase => ?_, fun hphase => ?_, h.stopped⟩
  · obtain ⟨hwake, -⟩ := h.resting hphase
    refine ⟨hwake, fun hcancelled => ?_⟩
    exact hfirst _ (Watch.mem_moves_scheduler.mpr (.wake hphase hwake hcancelled))
  · obtain ⟨hbegins, hends, hslots⟩ := h.scanning hphase
    have hstage : ∀ s ∈ r.watch.slots, s.Stage (S.site r.watch.scheduler.rounds s)
        (S.begins r.watch.scheduler.rounds) t := by
      intro s hs
      refine (hslots s hs).wait hle fun m hm => ?_
      refine hfirst (m.1, .slot s.network m.2) (List.mem_append_left _ ?_)
      exact List.mem_flatMap.mpr ⟨s, hs, List.mem_map.mpr ⟨m, hm, rfl⟩⟩
    refine ⟨Nat.le_trans hbegins hle, ?_, hstage⟩
    cases hpending : r.watch.scheduler.pending with
    | nil =>
      have hzero := hfirst _ (Watch.mem_moves_scheduler.mpr (.conclude hphase hpending))
      exact Nat.le_trans hzero (Nat.zero_le _)
    | cons call rest =>
      have hcall : call ∈ r.watch.slots.flatMap Slot.calls := by
        rw [← hr.orderly.pending, hpending]
        exact List.mem_cons_self
      obtain ⟨s, hs, hcall⟩ := List.mem_flatMap.mp hcall
      have hsub := hr.subset hS hs
      exact Nat.le_trans ((hstage s hs).le_last (hcalm.crash? hsub) (List.ne_nil_of_mem hcall))
        (Schedule.last_le_ends hsub)

theorem Punctual.congr {r' : Relay} (h : r.Punctual S) (clock : r'.clock = r.clock)
    (settings : r'.settings = r.settings) (times : ∀ m, r'.timesOf m = r.timesOf m)
    (slots : r'.watch.slots = r.watch.slots)
    (scheduler : r'.watch.scheduler = r.watch.scheduler ∨
      r'.watch.scheduler = r.watch.scheduler.cancel) : r'.Punctual S := by
  obtain ⟨hlimit, hinterval, hstarted, hended, hresting, hscanning, hstopped⟩ := h
  cases scheduler with
  | inl hs =>
    constructor
    · exact settings ▸ hlimit
    · exact hs ▸ hinterval
    · rw [times, hs, hstarted]
    · rw [times, hs, hended]
    · rw [hs, clock]
      exact hresting
    · rw [hs, slots, clock]
      exact hscanning
    · rw [hs]
      exact hstopped
  | inr hs =>
    constructor
    · exact settings ▸ hlimit
    · exact hs ▸ hinterval
    · rw [times, hs, hstarted]
      rfl
    · rw [times, hs, hended]
      rfl
    · rw [hs]
      exact fun hphase => ⟨(hresting hphase).1, fun hnot => by cases hnot⟩
    · rw [hs, slots, clock]
      exact hscanning
    · rw [hs]
      exact fun _ => rfl

theorem Punctual.wake (h : r.Punctual S) (hr : r.Tidy registry) {t : Nat}
    (hdue : r.watch.scheduler.Due t .wake) (hle : t ≤ r.clock) (env : Surroundings) :
    (r.act env (.move (.watch (.scheduler .wake)))).Punctual S := by
  cases hdue with
  | wake hphase hwake hcancelled =>
    obtain ⟨hat, hearly⟩ := h.resting hphase
    obtain rfl := Option.some.inj (hwake.symm.trans hat)
    have hclock : r.clock = S.begins r.watch.scheduler.rounds :=
      Nat.le_antisymm (hearly hcancelled) hle
    have hbegun : r.watch.scheduler.begun = r.watch.scheduler.rounds := by
      simp [Scheduler.begun, hphase]
    refine ⟨h.limit, h.interval, ?_, ?_, fun hidle => ?_, fun _ => ?_, fun hend => ?_⟩
    · rw [timesOf_act_scheduler, if_pos rfl, h.started, hbegun, hclock]
      show _ = (List.range (r.watch.scheduler.rounds + 1)).map S.begins
      rw [List.range_succ, List.map_append]
      rfl
    · rw [timesOf_act_scheduler, if_neg (by decide), List.append_nil]
      exact h.ended
    · cases hidle
    · refine ⟨Nat.le_of_eq hclock.symm, hclock ▸ Schedule.begins_le_ends, fun s' hs' => ?_⟩
      obtain ⟨s, hs, call, rfl⟩ := Watch.mem_enqueueAll hs'
      have hcalls := hr.orderly.calls_nil (hr.orderly.resting (by simp [hphase])) hs
      obtain ⟨hrunning, hwaiting⟩ := Slot.calls_eq_nil_iff.mp hcalls
      have hone : (s.enqueue call).waiting = [call] := by
        rw [Slot.enqueue, hwaiting]
        rfl
      exact .waiting hrunning hone hclock
    · cases hend

theorem Punctual.conclude (h : r.Punctual S) (hr : r.Tidy registry)
    (hS : S.endpoints = registry.networks.flatMap (·.2))
    (hdue : r.watch.scheduler.Due 0 .conclude) (env : Surroundings) :
    (r.act env (.move (.watch (.scheduler .conclude)))).Punctual S := by
  cases hdue with
  | conclude hphase hpending =>
    obtain ⟨hbegins, hends, hslots⟩ := h.scanning hphase
    have hbegun : r.watch.scheduler.begun = r.watch.scheduler.rounds + 1 := by
      simp [Scheduler.begun, hphase]
    have hlast : ∀ s ∈ r.watch.slots, (S.site r.watch.scheduler.rounds s).last
        (S.begins r.watch.scheduler.rounds) ≤ r.clock := by
      intro s hs
      have hnone := hr.orderly.calls_nil hpending hs
      cases hslots s hs with
      | waiting _ hw => simp [Slot.calls, hw] at hnone
      | probing hrunning => simp [Slot.calls, hrunning] at hnone
      | done _ hlast => exact hlast
    have hclock : r.clock = S.ends r.watch.scheduler.rounds := by
      apply Nat.le_antisymm hends
      refine Schedule.ends_le_of_last hbegins (fun e he => ?_) hlast
      exact hr.mem_endpoints.mp (hS ▸ he)
    refine ⟨h.limit, h.interval, ?_, ?_, fun _ => ?_, fun hscanning => ?_, fun hend => ?_⟩
    · rw [timesOf_act_scheduler, if_neg (by decide), List.append_nil, h.started, hbegun]
      rfl
    · rw [timesOf_act_scheduler, if_pos rfl, h.ended, hclock]
      show _ = (List.range (r.watch.scheduler.rounds + 1)).map S.ends
      rw [List.range_succ, List.map_append]
      rfl
    · have hnext : S.begins (r.watch.scheduler.rounds + 1) = r.clock + S.interval := by
        rw [hclock]
        rfl
      show some (r.clock + r.watch.scheduler.interval) =
          some (S.begins (r.watch.scheduler.rounds + 1)) ∧
        (_ → r.clock ≤ S.begins (r.watch.scheduler.rounds + 1))
      rw [hnext, h.interval]
      exact ⟨rfl, fun _ => Nat.le_add_right _ _⟩
    · cases hscanning
    · cases hend

theorem Punctual.terminate (h : r.Punctual S) (hdue : r.watch.scheduler.Due 0 .terminate)
    (env : Surroundings) : (r.act env (.move (.watch (.scheduler .terminate)))).Punctual S := by
  cases hdue with
  | terminate hphase _ hcancelled =>
    have hbegun : r.watch.scheduler.begun = r.watch.scheduler.rounds := by
      simp [Scheduler.begun, hphase]
    refine ⟨h.limit, h.interval, ?_, ?_, fun hidle => ?_, fun hscanning => ?_,
      fun _ => hcancelled⟩
    · rw [timesOf_act_scheduler, if_neg (by decide), List.append_nil, h.started, hbegun]
      rfl
    · rw [timesOf_act_scheduler, if_neg (by decide), List.append_nil]
      exact h.ended
    · cases hidle
    · cases hscanning

/-- What a scheduler and its slots do, they do on schedule. -/
theorem Punctual.act (h : r.Punctual S) (hb : registry.Built) (hr : r.Tidy registry)
    (hcalm : S.Calm) (hS : S.endpoints = registry.networks.flatMap (·.2))
    (hprobe : env.probe = S.probe r.watch.scheduler.rounds) (hp : r.Permits Prompt a)
    (ha : a.ofCaller = false) : (r.act env a).Punctual S := by
  by_cases hwait : ∃ t, a = .wait t
  · obtain ⟨t, rfl⟩ := hwait
    exact h.wait hr hcalm hS hp
  · have hclock := act_clock r env fun t ht => hwait ⟨t, ht⟩
    have hsettings := act_settings r env a
    have htimes := fun m => timesOf_act (a := a) env r m
    have hbeat := hr.beat hb env hp ha
    generalize hw : (r.act env a).watch = w at hbeat
    cases hbeat with
    | rest ha =>
      exact h.congr hclock hsettings (fun m => htimes m fun _ => ha _) (by rw [hw])
        (.inl (by rw [hw]))
    | start =>
      have hsame : r.watch.scheduler.start r.clock = r.watch.scheduler :=
        Scheduler.start_eq_self fun hphase => ⟨_, (h.resting hphase).1⟩
      exact h.congr hclock hsettings (fun m => htimes m (by simp)) (by rw [hw])
        (.inl (by rw [hw]; exact hsame))
    | cancel =>
      exact h.congr hclock hsettings (fun m => htimes m (by simp)) (by rw [hw])
        (.inr (by rw [hw]))
    | wake due hle => exact h.wake hr due hle env
    | conclude due => exact h.conclude hr hS due env
    | terminate due => exact h.terminate due env
    | @turn n m due s s' events w hs hm hle happly slots scheduler =>
      have hturn := Slot.turn_of_apply happly
      have hphase : (r.act env (.move (.watch (.slot n m)))).watch.scheduler.phase =
          r.watch.scheduler.phase := by rw [hw, scheduler]
      have hrounds : (r.act env (.move (.watch (.slot n m)))).watch.scheduler.rounds =
          r.watch.scheduler.rounds := by rw [hw, scheduler]
      have hbegun : (r.act env (.move (.watch (.slot n m)))).watch.scheduler.begun =
          r.watch.scheduler.begun := by rw [Scheduler.begun, hphase, hrounds, Scheduler.begun]
      refine ⟨hsettings ▸ h.limit, ?_, ?_, ?_, fun hidle => ?_, fun hscanning => ?_, ?_⟩
      · rw [hw, scheduler]
        exact h.interval
      · rw [htimes _ (by simp), hbegun, h.started]
      · rw [htimes _ (by simp), hrounds, h.ended]
      · rw [hphase] at hidle
        rw [hw, scheduler, hclock]
        exact h.resting hidle
      · rw [hphase] at hscanning
        obtain ⟨hbegins, hends, hslots⟩ := h.scanning hscanning
        rw [hrounds, hclock, hw, slots]
        refine ⟨hbegins, hends, fun s₁ hs₁ => ?_⟩
        obtain ⟨s₀, hs₀, rfl⟩ := List.mem_map.mp hs₁
        dsimp only
        split
        · have hmem := Watch.mem_of_slot? hs
          have hsite : S.site r.watch.scheduler.rounds s' = S.site r.watch.scheduler.rounds s := by
            rw [Schedule.site, hturn.network, hturn.endpoints, Schedule.site]
          rw [hprobe, h.limit] at hturn
          rw [hsite]
          exact (hslots s hmem).turn (hcalm.crash? (hr.subset hS hmem)) rfl hm hle hturn
        · exact hslots s₀ hs₀
      · rw [hw, scheduler]
        exact h.stopped

theorem punctual_run (hb : registry.Built) (hr : r₁.Tidy registry) (hcalm : S.Calm)
    (hS : S.endpoints = registry.networks.flatMap (·.2)) (h : r₁.Punctual S)
    (hrun : Run Prompt r₁ steps r₂) (hprobe : r₁.ProbedBy S.probe steps)
    (hsole : ∀ st ∈ steps, st.action.ofCaller = false) : r₂.Punctual S := by
  induction hrun with
  | nil => exact h
  | cons st permitted _ ih =>
    obtain ⟨hst, hrest⟩ := List.forall_mem_cons.mp hsole
    obtain ⟨hfirst, hprobe⟩ := hprobe
    exact ih (hr.act hb st.env permitted hst) (h.act hb hr hcalm hS hfirst permitted hst) hprobe
      hrest

/-- Whether nothing has become of a scheduler yet. -/
structure Fresh (S : Schedule) (r : Relay) : Prop where
  limit : r.settings.probeTimeout = S.limit
  interval : r.watch.scheduler.interval = S.interval
  unstarted : r.watch.scheduler.Unstarted
  rounds : r.watch.scheduler.rounds = 0
  milestones : r.milestones = []

theorem Fresh.act (h : r.Fresh S) (hb : registry.Built) (hr : r.Tidy registry)
    (hp : r.Permits urgent a) (ha : a.ofCaller = false) (hstart : a ≠ .start) :
    (r.act env a).Fresh S := by
  have hbeat := hr.beat hb env hp ha
  have hsettings := act_settings r env a
  have hmilestones := milestones_act (a := a) env r
  generalize hw : (r.act env a).watch = w at hbeat
  cases hbeat with
  | rest ha =>
    refine ⟨hsettings ▸ h.limit, ?_, ?_, ?_, (hmilestones fun _ => ha _).trans h.milestones⟩
    · exact hw ▸ h.interval
    · exact hw ▸ h.unstarted
    · exact hw ▸ h.rounds
  | start => exact absurd rfl hstart
  | cancel =>
    refine ⟨hsettings ▸ h.limit, ?_, ?_, ?_, (hmilestones (by simp)).trans h.milestones⟩
    · exact hw ▸ h.interval
    · exact hw ▸ ⟨h.unstarted.phase, h.unstarted.wakeAt⟩
    · exact hw ▸ h.rounds
  | wake due =>
    cases due with
    | wake _ hwake => simp [h.unstarted.wakeAt] at hwake
  | conclude due =>
    cases due with
    | conclude hphase => simp [h.unstarted.phase] at hphase
  | terminate due =>
    cases due with
    | terminate _ hwake => simp [h.unstarted.wakeAt] at hwake
  | turn hs hm =>
    have hrest := hr.orderly.resting (by simp [h.unstarted.phase])
    rw [Slot.moves_eq_nil (hr.orderly.calls_nil hrest (Watch.mem_of_slot? hs))] at hm
    cases hm

theorem Fresh.start (h : r.Fresh S) (hfirst : S.first = r.clock) (env : Surroundings) :
    (r.act env .start).Punctual S := by
  have hstart : r.watch.scheduler.start r.clock =
      { r.watch.scheduler with wakeAt := some r.clock } :=
    if_pos ⟨h.unstarted.phase, by rw [h.unstarted.wakeAt]; rfl⟩
  have hscheduler : (r.act env .start).watch.scheduler =
      { r.watch.scheduler with wakeAt := some r.clock } := hstart
  have hmilestones : (r.act env .start).milestones = [] := h.milestones
  have hbegun : (r.act env .start).watch.scheduler.begun = 0 := by
    simp [hscheduler, Scheduler.begun, h.unstarted.phase, h.rounds]
  refine ⟨h.limit, ?_, ?_, ?_, fun _ => ?_, fun hscanning => ?_, fun hend => ?_⟩
  · rw [hscheduler]
    exact h.interval
  · rw [timesOf, hmilestones, hbegun]
    rfl
  · rw [timesOf, hmilestones, hscheduler]
    simp only [h.rounds]
    rfl
  · simp only [hscheduler, h.rounds, Schedule.begins, hfirst, true_and]
    exact fun _ => Nat.le_refl _
  · rw [hscheduler] at hscanning
    simp [h.unstarted.phase] at hscanning
  · rw [hscheduler] at hend
    simp [h.unstarted.phase] at hend

theorem fresh_run (hb : registry.Built) (hr : r₁.Tidy registry) (hcalm : S.Calm)
    (hS : S.endpoints = registry.networks.flatMap (·.2)) (h : r₁.Fresh S)
    (hrun : Run Prompt r₁ steps r₂) (hprobe : r₁.ProbedBy S.probe steps)
    (hsole : ∀ st ∈ steps, st.action.ofCaller = false) (hstart : r₁.startOf steps = some S.first) :
    r₂.Punctual S := by
  induction hrun with
  | nil => cases hstart
  | @cons r r' st rest permitted hrun ih =>
    obtain ⟨hst, hrest⟩ := List.forall_mem_cons.mp hsole
    obtain ⟨hfirst, hprobe⟩ := hprobe
    have hnext := hr.act hb st.env permitted hst
    obtain ⟨env, a⟩ := st
    by_cases ha : a = .start
    · subst ha
      have hclock : S.first = r.clock := (Option.some.inj hstart).symm
      exact punctual_run hb hnext hcalm hS (h.start hclock env) hrun hprobe hrest
    · have hrest_start : (r.act env a).startOf rest = some S.first := by
        rw [← hstart, startOf]
        split
        · rename_i hs
          exact absurd hs ha
        · rfl
      exact ih hnext (h.act hb hr permitted hst ha) hprobe hrest hrest_start

theorem ProbedBy.append {probe : Nat → Prober} {first rest : List Step}
    (hfirst : r₁.ProbedBy probe first) (hrun : Run urgent r₁ first r₂)
    (hrest : r₂.ProbedBy probe rest) : r₁.ProbedBy probe (first ++ rest) := by
  induction hrun with
  | nil => exact hrest
  | cons st _ _ ih => exact ⟨hfirst.1, ih hfirst.2 hrest⟩

theorem rounds_le_act (env : Surroundings) (hn : r.watch.networks.Nodup) (hp : r.Permits urgent a) :
    r.watch.scheduler.rounds ≤ (r.act env a).watch.scheduler.rounds := by
  cases act_follows env hn hp with
  | stays _ hrounds | starts _ _ hrounds | stops _ _ hrounds => exact Nat.le_of_eq hrounds.symm
  | ends _ _ hrounds => exact hrounds ▸ Nat.le_succ _

theorem rounds_le_run (hb : registry.Built) (hr : r₁.Tidy registry) (hrun : Run urgent r₁ steps r₂)
    (hsole : ∀ st ∈ steps, st.action.ofCaller = false) :
    r₁.watch.scheduler.rounds ≤ r₂.watch.scheduler.rounds := by
  induction hrun with
  | nil => exact Nat.le_refl _
  | cons st permitted _ ih =>
    obtain ⟨hst, hrest⟩ := List.forall_mem_cons.mp hsole
    exact Nat.le_trans (rounds_le_act st.env (hr.nodup_networks hb) permitted)
      (ih (hr.act hb st.env permitted hst) hrest)

theorem probedBy_of_rounds {probe : Nat → Prober} (hb : registry.Built) (hr : r₁.Tidy registry)
    (hrun : Run urgent r₁ steps r₂) (hsole : ∀ st ∈ steps, st.action.ofCaller = false)
    (hrounds : r₂.watch.scheduler.rounds = r₁.watch.scheduler.rounds)
    (hprobe : ∀ st ∈ steps, st.env.probe = probe r₁.watch.scheduler.rounds) :
    r₁.ProbedBy probe steps := by
  induction hrun with
  | nil => trivial
  | @cons r r' st rest permitted hrun ih =>
    obtain ⟨hst, hrest⟩ := List.forall_mem_cons.mp hsole
    have hnext := hr.act hb st.env permitted hst
    have hle := rounds_le_act st.env (hr.nodup_networks hb) permitted
    have hle' := rounds_le_run hb hnext hrun hrest
    have hsame : (r.act st.env st.action).watch.scheduler.rounds = r.watch.scheduler.rounds := by
      omega
    refine ⟨hprobe st List.mem_cons_self, ih hnext hrest (hrounds.trans hsame.symm) ?_⟩
    rw [hsame]
    exact fun st' hst' => hprobe st' (List.mem_cons_of_mem _ hst')

theorem Beat.cancelled_of_ofTime (h : Beat env r a w) (ha : a.ofTime = true) :
    w.scheduler.cancelled = r.watch.scheduler.cancelled := by
  cases h with
  | start => cases ha
  | cancel => cases ha
  | turn hs hm hle happly slots scheduler => rw [scheduler]
  | _ => rfl

theorem cancelled_run_ofTime (hb : registry.Built) (hr : r₁.Tidy registry)
    (hrun : Run urgent r₁ steps r₂) (htime : ∀ st ∈ steps, st.action.ofTime = true) :
    r₂.watch.scheduler.cancelled = r₁.watch.scheduler.cancelled := by
  induction hrun with
  | nil => rfl
  | cons st permitted _ ih =>
    obtain ⟨hst, hrest⟩ := List.forall_mem_cons.mp htime
    have hsole := Action.ofCaller_of_ofTime hst
    exact (ih (hr.act hb st.env permitted hsole) hrest).trans
      ((hr.beat hb st.env permitted hsole).cancelled_of_ofTime hst)

theorem next_starts (hb : registry.Built) (env : Surroundings) (hr : r.Tidy registry)
    (hphase : r.watch.scheduler.phase = .idle) {t : Nat}
    (hwake : r.watch.scheduler.wakeAt = some t) (hcancelled : r.watch.scheduler.cancelled = false) :
    ∃ steps r', Run Prompt r steps r' ∧ (∀ st ∈ steps, st.env = env ∧ st.action.ofTime = true) ∧
      r'.watch.scheduler.phase = .scanning ∧
      r'.watch.scheduler.rounds = r.watch.scheduler.rounds := by
  have hwakes : (t, WatchMove.scheduler .wake) ∈ r.watch.moves :=
    Watch.mem_moves_scheduler.mpr (.wake hphase hwake hcancelled)
  obtain ⟨due, m, steps, hmem, hsteps, hrun⟩ :=
    exists_prompt_move env (List.ne_nil_of_mem hwakes)
  cases m with
  | slot n m =>
    obtain ⟨s, hs, hm⟩ := (Watch.mem_moves_slot (hr.nodup_networks hb)).mp hmem
    have hrest := hr.orderly.resting (by simp [hphase])
    rw [Slot.moves_eq_nil (hr.orderly.calls_nil hrest (Watch.mem_of_slot? hs))] at hm
    cases hm
  | scheduler m =>
    cases Watch.mem_moves_scheduler.mp hmem with
    | wake => exact ⟨steps, _, hrun, hsteps, rfl, rfl⟩
    | conclude hscanning => simp [hphase] at hscanning
    | terminate _ _ hnot => simp [hcancelled] at hnot

theorem round_concludes (hb : registry.Built) (env : Surroundings) (hr : r.Tidy registry)
    {probe : Nat → Prober} (hprobe : env.probe = probe r.watch.scheduler.rounds)
    (hphase : r.watch.scheduler.phase = .scanning) :
    ∃ steps r', Run Prompt r steps r' ∧ (∀ st ∈ steps, st.action.ofTime = true) ∧
      r.ProbedBy probe steps ∧ r'.watch.scheduler.phase = .idle ∧
      r'.watch.scheduler.rounds = r.watch.scheduler.rounds + 1 := by
  obtain ⟨steps, r', hrun, hsteps, hdue, hrounds⟩ := round_settles hb env hr hphase
  have hconclude : r'.Permits Prompt (.move (.watch (.scheduler .conclude))) := by
    refine ⟨0, Nat.zero_le _, watch_mem_moves.mpr (Watch.mem_moves_scheduler.mpr hdue)⟩
  have hprobed : r.ProbedBy probe steps := by
    apply probedBy_of_rounds hb hr hrun _ hrounds
    · exact fun st hst => (hsteps st hst).1 ▸ hprobe
    · exact fun st hst => Action.ofCaller_of_ofTime (hsteps st hst).2
  refine ⟨steps ++ [⟨env, .move (.watch (.scheduler .conclude))⟩], _,
    hrun.append (.single hconclude), ?_, hprobed.append hrun ⟨hrounds ▸ hprobe, trivial⟩, rfl,
    congrArg (· + 1) hrounds⟩
  intro st hst
  cases List.mem_append.mp hst with
  | inl hst => exact (hsteps st hst).2
  | inr hst =>
    cases List.mem_singleton.mp hst
    rfl

/-- A scheduler that keeps to a schedule and is not cancelled gets through one round more. -/
theorem Punctual.next (h : r.Punctual S) (hb : registry.Built) (hr : r.Tidy registry)
    (hcancelled : r.watch.scheduler.cancelled = false) :
    ∃ steps r', Run Prompt r steps r' ∧ (∀ st ∈ steps, st.action.ofTime = true) ∧
      r.ProbedBy S.probe steps ∧ r'.watch.scheduler.phase = .idle ∧
      r'.watch.scheduler.rounds = r.watch.scheduler.rounds + 1 := by
  let env : Surroundings := ⟨fun _ _ _ _ => .silent, S.probe r.watch.scheduler.rounds⟩
  cases hphase : r.watch.scheduler.phase with
  | scanning => exact round_concludes hb env hr rfl hphase
  | terminated => simp [h.stopped hphase] at hcancelled
  | idle =>
    obtain ⟨first, r₁, hrun, hsteps, hscanning, hrounds⟩ :=
      next_starts hb env hr hphase (h.resting hphase).1 hcancelled
    have htime := fun st hst => (hsteps st hst).2
    have hsole := fun st hst => Action.ofCaller_of_ofTime (htime st hst)
    have hprobed : r.ProbedBy S.probe first := by
      apply probedBy_of_rounds hb hr hrun hsole hrounds
      exact fun st hst => congrArg Surroundings.probe (hsteps st hst).1
    have hprobe : env.probe = S.probe r₁.watch.scheduler.rounds := by rw [hrounds]
    obtain ⟨rest, r', hrun', htime', hprobed', hidle, hrounds'⟩ :=
      round_concludes hb env (hr.run hb hrun hsole) hprobe hscanning
    refine ⟨first ++ rest, r', hrun.append hrun', ?_, hprobed.append hrun hprobed', hidle,
      hrounds' ▸ hrounds ▸ rfl⟩
    exact fun st hst => (List.mem_append.mp hst).elim (htime st) (htime' st)

theorem Punctual.goes_on (h : r.Punctual S) (hb : registry.Built) (hr : r.Tidy registry)
    (hcalm : S.Calm) (hS : S.endpoints = registry.networks.flatMap (·.2))
    (hcancelled : r.watch.scheduler.cancelled = false) (j : Nat) :
    ∃ steps r', Run Prompt r steps r' ∧ (∀ st ∈ steps, st.action.ofTime = true) ∧
      r.ProbedBy S.probe steps ∧ r'.Punctual S ∧
      r'.watch.scheduler.rounds = r.watch.scheduler.rounds + j := by
  induction j with
  | zero => exact ⟨[], r, .nil r, by simp, trivial, h, rfl⟩
  | succ j ih =>
    obtain ⟨first, r₁, hrun, htime, hprobed, h₁, hrounds⟩ := ih
    have hr₁ := hr.run hb hrun fun st hst => Action.ofCaller_of_ofTime (htime st hst)
    have hcancelled₁ := (cancelled_run_ofTime hb hr hrun htime).trans hcancelled
    obtain ⟨rest, r', hrun', htime', hprobed', -, hrounds'⟩ := h₁.next hb hr₁ hcancelled₁
    have h' := punctual_run hb hr₁ hcalm hS h₁ hrun' hprobed' fun st hst =>
      Action.ofCaller_of_ofTime (htime' st hst)
    refine ⟨first ++ rest, r', hrun.append hrun', ?_, hprobed.append hrun hprobed', h', by omega⟩
    exact fun st hst => (List.mem_append.mp hst).elim (htime st) (htime' st)

theorem Punctual.not_late (h : r.Punctual S) (hcancelled : r.watch.scheduler.cancelled = false)
    (j : Nat) : (S.begins j < r.clock → j < r.watch.scheduler.begun) ∧
      (S.ends j < r.clock → j < r.watch.scheduler.rounds) := by
  have hends : ∀ i, S.ends i ≤ S.begins (i + 1) := fun i => Nat.le_add_right _ _
  cases hphase : r.watch.scheduler.phase with
  | idle =>
    have hclock := (h.resting hphase).2 hcancelled
    have hbegun : r.watch.scheduler.begun = r.watch.scheduler.rounds := by
      simp [Scheduler.begun, hphase]
    rw [hbegun]
    have hlate : S.begins j < r.clock → j < r.watch.scheduler.rounds := by
      intro hlt
      by_contra hge
      have hmono : S.begins r.watch.scheduler.rounds ≤ S.begins j :=
        Schedule.begins_mono (Nat.not_lt.mp hge)
      omega
    exact ⟨hlate, fun hlt => hlate (Nat.lt_of_le_of_lt Schedule.begins_le_ends hlt)⟩
  | scanning =>
    obtain ⟨-, hclock, -⟩ := h.scanning hphase
    have hbegun : r.watch.scheduler.begun = r.watch.scheduler.rounds + 1 := by
      simp [Scheduler.begun, hphase]
    rw [hbegun]
    have hnext := hends r.watch.scheduler.rounds
    constructor
    · intro hlt
      by_contra hge
      have hmono : S.begins (r.watch.scheduler.rounds + 1) ≤ S.begins j :=
        Schedule.begins_mono (Nat.not_lt.mp hge)
      omega
    · intro hlt
      by_contra hge
      have hmono : S.ends r.watch.scheduler.rounds ≤ S.ends j := by
        cases Nat.lt_or_eq_of_le (Nat.not_lt.mp hge) with
        | inl hless =>
          have hbegins : S.begins (r.watch.scheduler.rounds + 1) ≤ S.begins j :=
            Schedule.begins_mono hless
          have hle : S.begins j ≤ S.ends j := Schedule.begins_le_ends
          omega
        | inr heq => exact Nat.le_of_eq (congrArg S.ends heq)
      omega
  | terminated => simp [h.stopped hphase] at hcancelled

def every (interval : Nat) (settings : Settings) (registry : Registry) (traffic : Traffic) :
    Relay :=
  ⟨settings, 0, .new registry.networks interval, traffic, []⟩

theorem new_eq_every (c : Config) (registry : Registry) (epoch : Moment) :
    Relay.new c registry epoch = every c.refreshInterval.millis
      ⟨c.probeTimeoutMs.toNat, c.attemptTimeoutMs.toNat, epoch⟩ registry
      (.new c.maxIdleForwarders.toNat) := rfl

/-- Where the scheduler alone refreshes and no probe crashes, the first round starts when the
scheduler does. A round takes as long as its longest probe, of all networks together, where none
takes longer than the limit, and the next one starts an interval after its end. So a round starts no
earlier than if the ones before it took no time, and no later than if their probes all hung. Until
it is cancelled, no round is late, and there is always a next one. -/
theorem rounds_on_schedule {interval start : Nat} {settings : Settings} {traffic : Traffic}
    {probe : Nat → Prober} (hb : registry.Built)
    (hrun : Run Prompt (.every interval settings registry traffic) steps r)
    (hsole : ∀ st ∈ steps, st.action.ofCaller = false)
    (hstart : (Relay.every interval settings registry traffic).startOf steps = some start)
    (hprobe : (Relay.every interval settings registry traffic).ProbedBy probe steps)
    (hcalm : Schedule.Calm ⟨registry.networks.flatMap (·.2), probe, settings.probeTimeout, interval,
      start⟩) :
    let S : Schedule :=
      ⟨registry.networks.flatMap (·.2), probe, settings.probeTimeout, interval, start⟩
    r.timesOf .wake = (List.range r.watch.scheduler.begun).map S.begins ∧
    r.timesOf .conclude = (List.range r.watch.scheduler.rounds).map S.ends ∧
    (∀ j, S.begins (j + 1) = S.ends j + interval ∧
      start + j * interval ≤ S.begins j ∧
      S.begins j ≤ start + j * (interval + settings.probeTimeout)) ∧
    (r.watch.scheduler.cancelled = false →
      (∀ j, (S.begins j < r.clock → j < r.watch.scheduler.begun) ∧
        (S.ends j < r.clock → j < r.watch.scheduler.rounds)) ∧
      ∀ j, ∃ more r', Run Prompt r more r' ∧ (∀ st ∈ more, st.action.ofTime = true) ∧
        r.ProbedBy probe more ∧
        r'.timesOf .conclude = (List.range (r.watch.scheduler.rounds + j)).map S.ends) := by
  intro S
  have hnew : (Relay.every interval settings registry traffic).Tidy registry := .fresh rfl
  have hfresh : (Relay.every interval settings registry traffic).Fresh S :=
    ⟨rfl, rfl, ⟨rfl, rfl⟩, rfl, rfl⟩
  have h : r.Punctual S := fresh_run hb hnew hcalm rfl hfresh hrun hprobe hsole hstart
  have hr := hnew.run hb hrun hsole
  refine ⟨h.started, h.ended, fun j => ⟨rfl, Schedule.begins_bounds S j⟩, fun hcancelled =>
    ⟨h.not_late hcancelled, fun j => ?_⟩⟩
  obtain ⟨more, r', hmore, htime, hprobed, h', hrounds⟩ := h.goes_on hb hr hcalm rfl hcancelled j
  exact ⟨more, r', hmore, htime, hprobed, hrounds ▸ h'.ended⟩

def stepsIn (surroundings : Nat → Surroundings) (r : Relay) : List Action → List Step
  | [] => []
  | a :: rest =>
    let env := surroundings r.watch.scheduler.rounds
    ⟨env, a⟩ :: (r.act env a).stepsIn surroundings rest

theorem stepsIn_probedBy (surroundings : Nat → Surroundings) (r : Relay) (actions : List Action) :
    r.ProbedBy (fun k => (surroundings k).probe) (r.stepsIn surroundings actions) := by
  induction actions generalizing r with
  | nil => trivial
  | cons a rest ih => exact ⟨rfl, ih _⟩

theorem map_action_stepsIn (surroundings : Nat → Surroundings) (r : Relay)
    (actions : List Action) : (r.stepsIn surroundings actions).map (·.action) = actions := by
  induction actions generalizing r with
  | nil => rfl
  | cons a rest ih => exact congrArg (a :: ·) (ih _)

def recovering (k : Nat) : Surroundings where
  post _ _ _ _ := .silent
  probe e _ :=
    if k = 0 then
      if e.url = "http://[::2]" then .silent
      else if e.url = "http://[::3]" then .answers 4 (.ok (.ofMillis 4))
      else .answers 3 (.ok (.ofMillis 3))
    else .answers 1 (.ok (.ofMillis 1))

def twoRounds : List Action :=
  [.start, .move (.watch (.scheduler .wake)), .move (.watch (.slot ⟨2⟩ .takeUp)),
    .move (.watch (.slot ⟨1⟩ .takeUp)), .wait 3, .move (.watch (.slot ⟨1⟩ (.settle 0))), .wait 4,
    .move (.watch (.slot ⟨2⟩ (.settle 0))), .move (.watch (.slot ⟨2⟩ .publish)), .wait 10,
    .move (.watch (.slot ⟨1⟩ (.settle 1))), .move (.watch (.slot ⟨1⟩ .publish)),
    .move (.watch (.scheduler .conclude)), .wait 17, .move (.watch (.scheduler .wake)),
    .move (.watch (.slot ⟨1⟩ .takeUp)), .move (.watch (.slot ⟨2⟩ .takeUp)), .wait 18,
    .move (.watch (.slot ⟨1⟩ (.settle 1))), .move (.watch (.slot ⟨1⟩ (.settle 0))),
    .move (.watch (.slot ⟨2⟩ (.settle 0))), .move (.watch (.slot ⟨2⟩ .publish)),
    .move (.watch (.slot ⟨1⟩ .publish)), .move (.watch (.scheduler .conclude))]

theorem rounds_on_schedule_recovering :
    ∃ r : Relay, r.timesOf .wake = [0, 17] ∧ r.timesOf .conclude = [10, 18] ∧
      ∃ more r', Run Prompt r more r' ∧ r'.timesOf .conclude = [10, 18, 26] := by
  let new := Relay.every 7 ⟨10, 10, ⟨0, 0⟩⟩ neighbours (.new 1)
  let steps := new.stepsIn recovering twoRounds
  have hrun : Run Prompt new steps (new.after steps) := run_after (by decide +kernel)
  have hsole : ∀ st ∈ steps, st.action.ofCaller = false := by
    have hactions : ∀ a ∈ steps.map (·.action), a.ofCaller = false := by
      rw [map_action_stepsIn]
      decide
    exact fun st hst => hactions _ (List.mem_map_of_mem hst)
  have hcalm : Schedule.Calm ⟨neighbours.networks.flatMap (·.2), fun k => (recovering k).probe, 10,
      7, 0⟩ := by
    intro k e _ d _
    simp only [recovering]
    split
    · split
      · simp
      · split <;> simp
    · simp
  obtain ⟨hwake, hconclude, -, hon⟩ := rounds_on_schedule neighbours_built hrun hsole
    (by decide +kernel) (stepsIn_probedBy recovering new twoRounds) hcalm
  have hbegun : (new.after steps).watch.scheduler.begun = 2 := by decide +kernel
  have hrounds : (new.after steps).watch.scheduler.rounds = 2 := by decide +kernel
  obtain ⟨more, r', hmore, -, -, hnext⟩ := (hon (by decide +kernel)).2 1
  rw [hbegun] at hwake
  rw [hrounds] at hconclude hnext
  exact ⟨new.after steps, hwake.trans (by decide +kernel), hconclude.trans (by decide +kernel),
    more, r', hmore, hnext.trans (by decide +kernel)⟩

end Relay

end RankedRelay
