import RankedRelay.Proofs.Isolation
import RankedRelay.Proofs.Scheduler

namespace RankedRelay

def SlotEvent.isCrash : SlotEvent → Bool
  | .crashed _ => true
  | _ => false

/-- A network's part in a round of the scheduler: what it showed when the round started, and whether
its refresh has crashed. -/
structure Lap where
  before : Except RequestError Ranking
  crashed : Bool

namespace Lap

def crash (l : Lap) : Lap := { l with crashed := true }

end Lap

namespace Slot

variable {probe : Prober} {limit now : Nat} {moment : Moment} {s s' : Slot} {m : SlotMove}
  {events : List SlotEvent} {ls : List Lap}

/-- What a lap has come to at the slot of its network. -/
inductive Ran (s : Slot) (l : Lap) : Prop
  | running (calls : s.calls ≠ []) (crashed : l.crashed = false) (before : l.before = .ok s.ranking)
  | crashed (calls : s.calls = []) (crashed : l.crashed = true) (before : l.before = .ok s.ranking)
  | published {last : Ranking} (calls : s.calls = []) (crashed : l.crashed = false)
      (before : l.before = .ok last) (round : s.ranking.round = last.round + 1)

/-- Whether the laps of a network, the latest first, add up to what its slot shows. -/
structure Paced (s : Slot) (ls : List Lap) : Prop where
  round : s.ranking.round = s.round
  count : s.round + ls.countP (·.crashed) + s.calls.length = ls.length
  last : ∀ l ∈ ls.head?, s.Ran l

theorem new_paced (n : NetworkId) (es : List Endpoint) : (Slot.new n es).Paced [] :=
  ⟨rfl, rfl, by simp⟩

theorem Paced.enqueue (h : s.Paced ls) (hcalls : s.calls = []) (call : CallId) :
    (s.enqueue call).Paced (⟨.ok s.ranking, false⟩ :: ls) where
  round := h.round
  count := by
    have hcount := h.count
    rw [hcalls] at hcount
    rw [calls_enqueue, hcalls, List.countP_cons_of_neg (by simp)]
    show s.round + _ + 1 = ls.length + 1
    rw [List.length_nil, Nat.add_zero] at hcount
    rw [hcount]
  last := by
    intro l hl
    cases hl
    exact .running (by simp [calls_enqueue]) rfl rfl

theorem Turn.ran (h : s.Turn probe limit now moment m s' events) :
    (events.any SlotEvent.isCrash = false ∧ s'.calls = s.calls ∧ s'.ranking = s.ranking ∧
      s'.round = s.round) ∨
    ∃ call, s.calls = call :: s'.calls ∧
      ((events.any SlotEvent.isCrash = true ∧ s'.ranking = s.ranking ∧ s'.round = s.round) ∨
        (events.any SlotEvent.isCrash = false ∧ s'.ranking.round = s.round + 1 ∧
          s'.round = s.round + 1)) := by
  have hcalls := h.calls
  cases h with
  | idle => exact .inl ⟨rfl, rfl, rfl, rfl⟩
  | takeUp hr hw =>
    refine .inl ⟨?_, by simp [Slot.calls, hr, hw], rfl, rfl⟩
    simp [SlotEvent.isCrash]
  | settle hr hp ho => exact .inl ⟨rfl, by simp [Slot.calls, hr], rfl, rfl⟩
  | crash hr hp ho => exact .inr ⟨_, hcalls, .inl ⟨rfl, rfl, rfl⟩⟩
  | publish hr ho => exact .inr ⟨_, hcalls, .inr ⟨rfl, rfl, rfl⟩⟩

theorem Paced.turn (h : s.Paced ls) (hsingle : s.calls.length ≤ 1)
    (ht : s.Turn probe limit now moment m s' events) :
    s'.Paced (if events.any SlotEvent.isCrash then ls.modifyHead .crash else ls) := by
  obtain ⟨hround, hcount, hlast⟩ := h
  rcases ht.ran with ⟨hevents, hcalls, hranking, hsame⟩ | ⟨call, hcalls, hends⟩
  · rw [hevents]
    refine ⟨by rw [hranking, hsame, hround], by rw [hsame, hcalls]; exact hcount, fun l hl => ?_⟩
    cases hlast l hl with
    | running hne hcrashed hbefore =>
      exact .running (hcalls ▸ hne) hcrashed (hranking ▸ hbefore)
    | crashed hnil hcrashed hbefore =>
      exact .crashed (hcalls ▸ hnil) hcrashed (hranking ▸ hbefore)
    | published hnil hcrashed hbefore hnext =>
      exact .published (hcalls ▸ hnil) hcrashed hbefore (hranking ▸ hnext)
  · -- There is only one call, so the slot is free again and its lap is over.
    rw [hcalls] at hsingle hcount
    have hfree : s'.calls = [] := List.eq_nil_of_length_eq_zero (by simpa using hsingle)
    rw [hfree] at hcount
    cases ls with
    | nil => simp at hcount
    | cons l rest =>
      cases hlast l rfl with
      | crashed hnil => simp [hnil] at hcalls
      | published hnil => simp [hnil] at hcalls
      | running hne hcrashed hbefore =>
        rw [List.countP_cons_of_neg (by simp [hcrashed])] at hcount
        simp only [List.length_cons, List.length_nil] at hcount
        rcases hends with ⟨hevents, hranking, hsame⟩ | ⟨hevents, hnext, hsame⟩
        · rw [hevents, if_pos rfl, List.modifyHead_cons]
          refine ⟨by rw [hranking, hsame, hround], ?_, fun l hl => ?_⟩
          · rw [List.countP_cons_of_pos rfl, hfree, hsame]
            simp only [List.length_cons, List.length_nil]
            omega
          · cases hl
            exact .crashed hfree rfl (hranking ▸ hbefore)
        · rw [hevents]
          refine ⟨by rw [hnext, hsame], ?_, fun l hl => ?_⟩
          · rw [if_neg (by simp), List.countP_cons_of_neg (by simp [hcrashed]), hfree, hsame]
            simp only [List.length_cons, List.length_nil]
            omega
          · cases hl
            exact .published hfree hcrashed hbefore (by rw [hnext, hround])

end Slot

def Watch.Busy (w : Watch) (n : NetworkId) : Prop :=
  ∃ call ∈ w.scheduler.pending, w.Holds n call

theorem Watch.Orderly.busy_iff {w : Watch} {n : NetworkId} {s : Slot} (h : w.Orderly)
    (hn : w.networks.Nodup) (hs : w.slot? n = some s) : w.Busy n ↔ s.calls ≠ [] := by
  constructor
  · rintro ⟨call, -, s', hs', hcall⟩
    rw [hs] at hs'
    cases hs'
    exact List.ne_nil_of_mem hcall
  · intro hne
    obtain ⟨call, hcall⟩ := List.exists_mem_of_ne_nil _ hne
    exact ⟨call, (h.mem_pending hn).mpr ⟨n, s, hs, hcall⟩, s, hs, hcall⟩

structure Watch.Paced (n : NetworkId) (w : Watch) (ls : List Lap) : Prop where
  started : ls.length = w.scheduler.rounds + if w.scheduler.phase = .scanning then 1 else 0
  slot : ∃ s, w.slot? n = some s ∧ s.Paced ls

namespace Watch

variable {w : Watch} {n : NetworkId} {ls : List Lap}

theorem Paced.adds_up (h : w.Paced n ls) (hn : w.networks.Nodup) (ho : w.Orderly) :
    ∃ ranking, w.ranking n = .ok ranking ∧
      (w.scheduler.phase ≠ .scanning →
        ranking.round + ls.countP (·.crashed) = w.scheduler.rounds) ∧
      (w.scheduler.phase = .scanning → w.Busy n →
        ranking.round + ls.countP (·.crashed) = w.scheduler.rounds) ∧
      (w.scheduler.phase = .scanning → ¬w.Busy n →
        ranking.round + ls.countP (·.crashed) = w.scheduler.rounds + 1) ∧
      ∀ l ∈ ls.head?, ∃ before, l.before = .ok before ∧
        (w.Busy n ∧ l.crashed = false ∧ ranking = before ∨
          ¬w.Busy n ∧ l.crashed = true ∧ ranking = before ∨
          ¬w.Busy n ∧ l.crashed = false ∧ ranking.round = before.round + 1) := by
  obtain ⟨hstarted, s, hs, hround, hcount, hlast⟩ := h
  have hbusy := ho.busy_iff hn hs
  have hsingle := ho.single s (mem_of_slot? hs)
  refine ⟨s.ranking, by rw [ranking, hs], fun hphase => ?_, fun hphase hb => ?_,
    fun hphase hb => ?_, fun l hl => ?_⟩
  · rw [ho.calls_nil (ho.resting hphase) (mem_of_slot? hs), List.length_nil] at hcount
    rw [if_neg hphase] at hstarted
    omega
  · have hpos := List.length_pos_iff.mpr (hbusy.mp hb)
    rw [if_pos hphase] at hstarted
    omega
  · rw [not_ne_iff.mp (mt hbusy.mpr hb), List.length_nil] at hcount
    rw [if_pos hphase] at hstarted
    omega
  · cases hlast l hl with
    | running hne hcrashed hbefore =>
      exact ⟨_, hbefore, .inl ⟨hbusy.mpr hne, hcrashed, rfl⟩⟩
    | crashed hnil hcrashed hbefore =>
      exact ⟨_, hbefore, .inr (.inl ⟨fun hb => hbusy.mp hb hnil, hcrashed, rfl⟩)⟩
    | published hnil hcrashed hbefore hnext =>
      exact ⟨_, hbefore, .inr (.inr ⟨fun hb => hbusy.mp hb hnil, hcrashed, hnext⟩)⟩

theorem Paced.ended (h : w.Paced n ls) (hn : w.networks.Nodup) (ho : w.Orderly)
    (hphase : w.scheduler.phase ≠ .scanning) (hrounds : 0 < w.scheduler.rounds) :
    ∃ l before after, ls.head? = some l ∧ l.before = .ok before ∧ w.ranking n = .ok after ∧
      (l.crashed = true ∧ after = before ∨
        l.crashed = false ∧ after.round = before.round + 1) := by
  have hnot : ¬w.Busy n := by
    rintro ⟨call, hcall, -⟩
    rw [ho.resting hphase] at hcall
    cases hcall
  obtain ⟨after, hafter, -, -, -, hlast⟩ := h.adds_up hn ho
  have hlength := h.started
  cases ls with
  | nil =>
    rw [List.length_nil] at hlength
    omega
  | cons l rest =>
    obtain ⟨before, hbefore, ⟨hb, -⟩ | ⟨-, hcrashed, heq⟩ | ⟨-, hcrashed, hnext⟩⟩ := hlast l rfl
    · exact absurd hb hnot
    · exact ⟨l, before, after, rfl, hbefore, hafter, .inl ⟨hcrashed, heq⟩⟩
    · exact ⟨l, before, after, rfl, hbefore, hafter, .inr ⟨hcrashed, hnext⟩⟩

end Watch

namespace Relay

variable {n : NetworkId} {env : Surroundings} {urgent : Move → Prop} {r r₁ r₂ : Relay}
  {steps more : List Step} {ls : List Lap} {c : Config} {registry : Registry}
  {es : List Endpoint} {epoch : Moment}

def crashes (n : NetworkId) (r : Relay) (st : Step) : Bool :=
  match st.action with
  | .move (.watch (.slot k m)) => k == n && (r.watch.slot? k).any fun s =>
      (s.apply st.env.probe r.settings.probeTimeout r.clock r.moment m).2.any SlotEvent.isCrash
  | _ => false

def lap (n : NetworkId) (r : Relay) (ls : List Lap) (st : Step) : List Lap :=
  match st.action with
  | .move (.watch (.scheduler .wake)) => ⟨r.watch.ranking n, false⟩ :: ls
  | _ => if r.crashes n st then ls.modifyHead .crash else ls

def lapsFrom (n : NetworkId) (r : Relay) (ls : List Lap) : List Step → List Lap
  | [] => ls
  | st :: rest => (r.act st.env st.action).lapsFrom n (r.lap n ls st) rest

/-- The laps of a network in a run, one for each round that was started, the latest first. -/
def laps (n : NetworkId) (r : Relay) (steps : List Step) : List Lap := r.lapsFrom n [] steps

theorem lap_of_rest {a : Action} (ha : ∀ m, a ≠ .move (.watch m)) :
    r.lap n ls ⟨env, a⟩ = ls := by
  simp only [lap, crashes]
  split
  · exact absurd rfl (ha _)
  · split
    · exact absurd rfl (ha _)
    · rfl

theorem lap_of_turn {k : NetworkId} {m : SlotMove} {s s' : Slot} {events : List SlotEvent}
    (hs : r.watch.slot? k = some s)
    (happly : s.apply env.probe r.settings.probeTimeout r.clock r.moment m = (s', events)) :
    r.lap n ls ⟨env, .move (.watch (.slot k m))⟩ =
      if k = n ∧ events.any SlotEvent.isCrash = true then ls.modifyHead .crash else ls := by
  simp [lap, crashes, hs, happly]

theorem Beat.paced {a : Action} {w : Watch} (h : Beat env r a w) (ho : r.watch.Orderly)
    (hp : r.watch.Paced n ls) : w.Paced n (r.lap n ls ⟨env, a⟩) := by
  obtain ⟨hstarted, s, hs, hpaced⟩ := hp
  cases h with
  | rest ha => exact lap_of_rest ha ▸ ⟨hstarted, s, hs, hpaced⟩
  | start =>
    rw [lap_of_rest (by simp)]
    exact ⟨by simpa using hstarted, s, hs, hpaced⟩
  | cancel => exact ⟨hstarted, s, hs, hpaced⟩
  | wake due =>
    cases due with
    | wake hphase =>
      have hcalls := ho.calls_nil (ho.resting (by simp [hphase])) (Watch.mem_of_slot? hs)
      have hranking : r.watch.ranking n = .ok s.ranking := by rw [Watch.ranking, hs]
      refine ⟨?_, _, by rw [Watch.slot?_wake, hs, Option.map_some], ?_⟩
      · rw [hphase] at hstarted
        exact congrArg (· + 1) hstarted
      · simp only [lap, hranking]
        exact hpaced.enqueue hcalls _
  | conclude due =>
    cases due with
    | conclude hphase =>
      rw [hphase] at hstarted
      exact ⟨hstarted, s, hs, hpaced⟩
  | terminate due =>
    cases due with
    | terminate hphase =>
      rw [hphase] at hstarted
      exact ⟨hstarted, s, hs, hpaced⟩
  | @turn k m due s₀ s' events w hs₀ hm hle happly slots scheduler =>
    rw [lap_of_turn hs₀ happly]
    have hslot := Watch.slot?_of_turn hs₀ (Slot.turn_of_apply happly) slots n
    refine ⟨?_, ?_⟩
    · rw [scheduler, ← hstarted]
      split
      · exact List.length_modifyHead
      · rfl
    · by_cases hnk : n = k
      · subst hnk
        rw [hs] at hs₀
        cases hs₀
        rw [if_pos rfl] at hslot
        have hsingle := ho.single s (Watch.mem_of_slot? hs)
        have hturn := hpaced.turn hsingle (Slot.turn_of_apply happly)
        exact ⟨s', hslot, by simpa only [true_and] using hturn⟩
      · rw [if_neg hnk] at hslot
        rw [if_neg fun h => hnk h.1.symm]
        exact ⟨s, hslot.trans hs, hpaced⟩

theorem paced_run (hb : registry.Built) (h : Sole c registry r₁) (hp : r₁.watch.Paced n ls)
    (hrun : Run urgent r₁ steps r₂) (hsole : ∀ st ∈ steps, st.action.ofCaller = false) :
    r₂.watch.Paced n (r₁.lapsFrom n ls steps) := by
  induction hrun generalizing ls with
  | nil => exact hp
  | @cons r r' st rest permitted _ ih =>
    obtain ⟨hst, hrest⟩ := List.forall_mem_cons.mp hsole
    exact ih (h.act st.env permitted hst)
      ((h.beat hb st.env permitted hst).paced (h.orderly hb) hp) hrest

theorem new_paced (hb : registry.Built) (hes : registry.endpoints? n = some es) :
    (Relay.new c registry epoch).watch.Paced n [] where
  started := rfl
  slot := by
    obtain ⟨s, hs, -⟩ := (new_sole c registry epoch).reachable.slot hb hes
    obtain ⟨p, _, rfl⟩ := List.mem_map.mp (Watch.mem_of_slot? hs)
    exact ⟨_, hs, Slot.new_paced _ _⟩

theorem laps_paced (hb : registry.Built) (hes : registry.endpoints? n = some es)
    (hrun : Run urgent (.new c registry epoch) steps r)
    (hsole : ∀ st ∈ steps, st.action.ofCaller = false) :
    r.watch.Paced n ((Relay.new c registry epoch).laps n steps) :=
  paced_run hb (new_sole c registry epoch) (new_paced hb hes) hrun hsole

theorem probe_of_crashes {st : Step} (h : r.crashes n st = true) :
    ∃ s refresh i e f, st.action = .move (.watch (.slot n (.settle i))) ∧
      r.watch.slot? n = some s ∧ s.running = some refresh ∧
      refresh.probes[i]? = some (e, .inFlight f) ∧ f.ending = .crashed := by
  obtain ⟨env, a⟩ := st
  simp only [crashes] at h
  split at h
  · rename_i k m
    obtain ⟨hk, hany⟩ := Bool.and_eq_true_iff.mp h
    obtain rfl := eq_of_beq hk
    obtain ⟨s, hs⟩ : ∃ s, r.watch.slot? k = some s := by
      cases hs : r.watch.slot? k with
      | none => simp [hs] at hany
      | some s => exact ⟨s, rfl⟩
    have hcrash : (s.apply env.probe r.settings.probeTimeout r.clock r.moment m).2.any
        SlotEvent.isCrash = true := by simpa [hs] using hany
    have ht := Slot.apply_turn env.probe r.settings.probeTimeout r.clock r.moment s m
    generalize s.apply env.probe r.settings.probeTimeout r.clock r.moment m = out at ht hcrash
    obtain ⟨s', events⟩ := out
    cases ht with
    | crash hr hp ho =>
      refine ⟨s, _, _, _, _, rfl, hs, hr, hp, ?_⟩
      simp only [Refresh.outcome?] at ho
      split at ho
      · cases ho
      · assumption
      · cases ho
    | takeUp => simp [SlotEvent.isCrash] at hcrash
    | _ => cases hcrash
  · cases h

/-- As long as nobody else calls for refreshes, the rounds of a network and its crashes add up to
the rounds of the scheduler, and to one more where the network is done with the current round. It
has then crashed, at one of its own probes, and shows what it did before, or has published its next
ranking. The scheduler goes from round to round until it stops between two of them, and a round
always comes to its end, for every network, whichever of them have crashed. -/
theorem rounds_accounted (hb : registry.Built) (hes : registry.endpoints? n = some es)
    (hrun : Run (fun _ => False) (.new c registry epoch) steps r)
    (hsole : ∀ st ∈ steps, st.action.ofCaller = false)
    (hls : (Relay.new c registry epoch).laps n steps = ls) :
    (∃ ranking, r.watch.ranking n = .ok ranking ∧
      (r.watch.scheduler.phase ≠ .scanning →
        ranking.round + ls.countP (·.crashed) = r.watch.scheduler.rounds) ∧
      (r.watch.scheduler.phase = .scanning → r.watch.Busy n →
        ranking.round + ls.countP (·.crashed) = r.watch.scheduler.rounds) ∧
      (r.watch.scheduler.phase = .scanning → ¬r.watch.Busy n →
        ranking.round + ls.countP (·.crashed) = r.watch.scheduler.rounds + 1) ∧
      ∀ l ∈ ls.head?, ∃ before, l.before = .ok before ∧
        (r.watch.Busy n ∧ l.crashed = false ∧ ranking = before ∨
          ¬r.watch.Busy n ∧ l.crashed = true ∧ ranking = before ∨
          ¬r.watch.Busy n ∧ l.crashed = false ∧ ranking.round = before.round + 1)) ∧
    ls.length =
      r.watch.scheduler.rounds + (if r.watch.scheduler.phase = .scanning then 1 else 0) ∧
    (∀ st : Step, r.Permits (fun _ => False) st.action →
      r.watch.scheduler.Follows (r.act st.env st.action).watch.scheduler) ∧
    (∀ st : Step, r.crashes n st = true →
      ∃ s refresh i e f, st.action = .move (.watch (.slot n (.settle i))) ∧
        r.watch.slot? n = some s ∧ s.running = some refresh ∧
        refresh.probes[i]? = some (e, .inFlight f) ∧ f.ending = .crashed) ∧
    (r.watch.scheduler.phase = .scanning → ∀ env, ∃ more r',
      Run Prompt r more r' ∧ (∀ st ∈ more, st.env = env ∧ st.action.ofTime = true) ∧
      r'.watch.scheduler.phase = .idle ∧
      r'.watch.scheduler.rounds = r.watch.scheduler.rounds + 1 ∧
      ∀ k es', registry.endpoints? k = some es' → ∃ l before after,
        ((Relay.new c registry epoch).laps k (steps ++ more)).head? = some l ∧
        l.before = .ok before ∧ r'.watch.ranking k = .ok after ∧
        (l.crashed = true ∧ after = before ∨
          l.crashed = false ∧ after.round = before.round + 1)) := by
  have hr : Sole c registry r := ⟨epoch, steps, hrun, hsole⟩
  have hn := hr.nodup_networks hb
  have hpaced := hls ▸ laps_paced hb hes hrun hsole
  refine ⟨hpaced.adds_up hn (hr.orderly hb), hpaced.started,
    fun st hp => act_follows st.env hn hp, fun st => probe_of_crashes, fun hphase env => ?_⟩
  obtain ⟨more, r', hmore, htime, hidle, hrounds⟩ := round_ends hb env hr hphase
  refine ⟨more, r', hmore, htime, hidle, hrounds, fun k es' hk => ?_⟩
  have hmore_sole : ∀ st ∈ more, st.action.ofCaller = false :=
    fun st hst => Action.ofCaller_of_ofTime (htime st hst).2
  have hr' := hr.run hmore hmore_sole
  have hpaced' := laps_paced hb hk (hrun.append (hmore.mono fun _ => False.elim)) fun st hst =>
    (List.mem_append.mp hst).elim (hsole st) (hmore_sole st)
  exact hpaced'.ended (hr'.nodup_networks hb) (hr'.orderly hb) (by simp [hidle]) (by omega)

def upset : List Step :=
  [.start, .move (.watch (.scheduler .wake)), .move (.watch (.slot ⟨2⟩ .takeUp)),
    .move (.watch (.slot ⟨1⟩ .takeUp)), .wait 5,
    .move (.watch (.slot ⟨2⟩ (.settle 0)))].map (⟨disturbed, ·⟩)

theorem rounds_accounted_crashing :
    ∃ (r r' : Relay) (ranking : Ranking) (more : List Step),
      r.watch.scheduler.phase = .scanning ∧ r.watch.scheduler.rounds = 0 ∧
      r.watch.ranking ⟨2⟩ = .ok ranking ∧ ranking.round + 1 = 1 ∧ Run Prompt r more r' ∧
      r'.watch.scheduler.phase = .idle ∧ r'.watch.scheduler.rounds = 1 := by
  let new := Relay.new (.withNetworks []) neighbours ⟨0, 0⟩
  let r := new.after upset
  have hrun : Run (fun _ => False) new upset r := run_after (by decide +kernel)
  obtain ⟨⟨ranking, hranking, -, -, hdone, -⟩, -, -, -, hends⟩ :=
    rounds_accounted (n := ⟨2⟩) neighbours_built rfl hrun (by simp [upset, Action.ofCaller]) rfl
  have hphase : r.watch.scheduler.phase = .scanning := by decide +kernel
  have hrounds : r.watch.scheduler.rounds = 0 := by decide +kernel
  have hcrashes : (new.laps ⟨2⟩ upset).countP (·.crashed) = 1 := by decide +kernel
  have hcalls : (r.watch.slot? ⟨2⟩).map Slot.calls = some [] := by decide +kernel
  have hfree : ¬r.watch.Busy ⟨2⟩ := by
    rintro ⟨call, -, s, hs, hcall⟩
    rw [hs] at hcalls
    rw [Option.some.inj hcalls] at hcall
    cases hcall
  obtain ⟨more, r', hmore, -, hidle, hcount, -⟩ := hends hphase disturbed
  have hadds := hdone hphase hfree
  rw [hcrashes, hrounds] at hadds
  rw [hrounds] at hcount
  exact ⟨r, r', ranking, more, hphase, hrounds, hranking, hadds, hmore, hidle, hcount⟩

end Relay

end RankedRelay
