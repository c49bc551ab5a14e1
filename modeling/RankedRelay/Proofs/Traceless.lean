import RankedRelay.Proofs.History

namespace RankedRelay

namespace Slot

variable {limit : Nat} {epoch : Moment} {s s' : Slot} {a : Act}
  {closed : List (CallId × CallResult)}

theorem History.of_toList {a? : Option Act} (h : History limit epoch s a?.toList s' closed) :
    (a? = none ∧ s' = s ∧ closed = []) ∨
      ∃ a, a? = some a ∧ s.Allows a ∧ s' = (s.undergo limit epoch a).1 ∧
        closed = (s.undergo limit epoch a).2 := by
  cases a? with
  | none =>
    cases h with
    | nil => exact .inl ⟨rfl, rfl, rfl⟩
  | some a =>
    cases h with
    | cons _ allowed rest =>
      cases rest with
      | nil => exact .inr ⟨a, rfl, allowed, rfl, List.append_nil _⟩

end Slot

namespace Relay

variable {env : Surroundings} {urgent : Move → Prop} {r r₁ r₂ r₃ : Relay} {n k : NetworkId}
  {s s' : Slot} {first st : Step} {steps more : List Step} {acts : List Slot.Act} {a : Slot.Act}
  {closed : List (CallId × CallResult)} {call : CallId} {c : Config} {registry : Registry}
  {w : Watch}

/-- Whether one of some steps is taken at a relay. -/
inductive Takes : Relay → List Step → Relay → Step → Prop
  | here {r : Relay} {st : Step} {rest : List Step} : Takes r (st :: rest) r st
  | later {r r' : Relay} {st st' : Step} {rest : List Step}
      (h : Takes (r.act st.env st.action) rest r' st') : Takes r (st :: rest) r' st'

theorem Takes.run (h : Takes r₁ steps r st) (hrun : Run urgent r₁ steps r₂) :
    (∃ before, Run urgent r₁ before r) ∧ r.Permits urgent st.action ∧
      ∃ after, Run urgent (r.act st.env st.action) after r₂ := by
  induction h with
  | here =>
    cases hrun with
    | cons st hp hrest => exact ⟨⟨[], .nil _⟩, hp, _, hrest⟩
  | later _ ih =>
    cases hrun with
    | cons _ hp hrest =>
      obtain ⟨⟨before, hbefore⟩, hlater⟩ := ih hrest
      exact ⟨⟨_ :: before, .cons _ hp hbefore⟩, hlater⟩

theorem actAt?_eq_none (hs : r.watch.slot? n = none) (st : Step) : r.actAt? n st = none := by
  obtain ⟨env, a⟩ := st
  cases a with
  | refresh k => simp [actAt?, Action.leaver?, Action.visitor?, hs]
  | abandon k call => simp [actAt?, Action.leaver?, Action.visitor?, hs]
  | move m =>
    cases m with
    | traffic m => rfl
    | watch m =>
      cases m with
      | slot k m => simp [actAt?, hs]
      | scheduler m => cases m <;> simp [actAt?, Action.leaver?, Action.visitor?, hs]
  | _ => rfl

theorem holds_of_actAt? (hn : r.watch.networks.Nodup) (hp : r.Permits urgent st.action)
    (h : r.actAt? n st = some a) :
    r.watch.Holds n a.call ∨ (r.act st.env st.action).watch.Holds n a.call := by
  cases hs : r.watch.slot? n with
  | none =>
    rw [actAt?_eq_none hs] at h
    cases h
  | some s =>
    obtain ⟨s', closed, hact⟩ := undergoes_act hn hs hp
    obtain ⟨hnone, -⟩ | ⟨a', ha', hallowed, rfl, -⟩ := hact.history.of_toList
    · rw [h] at hnone
      cases hnone
    · cases h.symm.trans ha'
      exact hallowed.held.imp (fun hheld => ⟨s, hs, hheld⟩) fun hheld => ⟨_, hact.slot, hheld⟩

/-- Whether a call is known and not at the slot of a network, to which it does not come any more. -/
structure Absent (n : NetworkId) (call : CallId) (w : Watch) : Prop where
  known : call < w.nextCall
  away : ¬w.Holds n call

theorem Absent.act (h : Absent n call r.watch) (env : Surroundings) (a : Action) :
    Absent n call (r.act env a).watch where
  known := Nat.lt_of_lt_of_le h.known (act_watch env r a).nextCall_le
  away hw := h.away ((act_watch env r a).holds h.known hw)

theorem Absent.run (h : Absent n call r₁.watch) (hrun : Run urgent r₁ steps r₂) :
    Absent n call r₂.watch := by
  induction hrun with
  | nil => exact h
  | cons st _ _ ih => exact ih (h.act st.env st.action)

theorem Absent.actsAt (hb : registry.Built) (hr : Reachable c registry r₁)
    (h : Absent n call r₁.watch) (hrun : Run urgent r₁ steps r₂) :
    ∀ a ∈ r₁.actsAt n steps, a.call ≠ call := by
  induction hrun with
  | nil =>
    intro a ha
    cases ha
  | @cons r _ st rest hp _ ih =>
    have hnext := h.act st.env st.action
    intro a ha
    cases List.mem_append.mp ha with
    | inl ha =>
      rintro rfl
      have hheld := holds_of_actAt? (hr.nodup_networks hb) hp (Option.mem_toList.mp ha)
      exact hheld.elim h.away hnext.away
    | inr ha => exact ih (hr.run (.single hp)) hnext a ha

theorem Homed.absent (h : Homed n call w) (hne : k ≠ n) : Absent k call w where
  known := h.known
  away hw := hne (h.held k hw)

theorem Homed.gone (h : Homed n call w) (hgone : ¬w.Holds n call) (k : NetworkId) :
    Absent k call w where
  known := h.known
  away hw := hgone (h.held k hw ▸ hw)

theorem Absent.inFlight (hn : r.watch.networks.Nodup) (h : Absent n call r.watch) :
    ∀ p ∈ r.watch.inFlight n, p.1 ≠ call := by
  rintro p hp rfl
  exact h.away (Watch.holds_of_holder? (Watch.holder?_of_inFlight hn hp))

theorem Absent.results (h : ∀ n, Absent n call r₁.watch) (hrun : Run urgent r₁ steps r₂)
    {result : CallResult} (hmem : (call, result) ∈ r₂.watch.results) :
    (call, result) ∈ r₁.watch.results := by
  induction hrun with
  | nil => exact hmem
  | @cons r _ st _ _ _ ih =>
    have hnext := ih (fun n => (h n).act st.env st.action) hmem
    obtain ⟨env, a⟩ := st
    have hchange := act_watch env r a
    generalize (r.act env a).watch = w at hchange hnext
    cases hchange with
    | quiet slots results => exact results ▸ hnext
    | enqueue => exact hnext
    | wake => exact hnext
    | abandon => exact hnext
    | @turn n m s s' events w hs ht slots results =>
      rw [results, List.mem_append, List.mem_reverse] at hnext
      refine hnext.resolve_left fun hclosing => (h n).away ⟨s, hs, ?_⟩
      rw [ht.calls]
      exact List.mem_append_left _ (List.mem_map_of_mem hclosing)

theorem exists_slot_of_visitor? {a : Action} (h : a.visitor? r n = some call) :
    ∃ s, r.watch.slot? n = some s := by
  simp only [Action.visitor?] at h
  split at h
  · obtain ⟨-, h⟩ := Option.ite_none_right_eq_some.mp h
    obtain ⟨s, hs, -⟩ := Option.map_eq_some_iff.mp h
    exact ⟨s, hs⟩
  · obtain ⟨s, hs, -⟩ := Option.map_eq_some_iff.mp h
    exact ⟨s, hs⟩
  · cases h

theorem comes_of_visitor? (hs : r.watch.slot? n = some s)
    (h : st.action.visitor? r n = some call) :
    r.watch.nextCall ≤ call ∧ (r.act st.env st.action).watch.Holds n call := by
  obtain ⟨env, a⟩ := st
  obtain ⟨s', events, hseen⟩ := seen env hs a
  have hslot := hseen.slot
  have hstep := hseen.step
  cases hstep with
  | aside hcomes =>
    rw [h] at hcomes
    cases hcomes
  | comes hcomes _ hfresh =>
    cases h.symm.trans hcomes
    exact ⟨hfresh, _, hslot, by simp [Slot.calls_enqueue]⟩
  | leaves => cases h
  | turn => cases h

theorem shown_act (hn : r.watch.networks.Nodup) (hp : r.Permits urgent st.action) :
    (r.act st.env st.action).watch.shown n = r.watch.shown n ∨
      ∃ call ranking, (r.actAt? n st).map Slot.Act.call = some call ∧
        (r.act st.env st.action).watch.published n = r.watch.published n ++ [(call, ranking)] := by
  obtain ⟨-, hsame⟩ | ⟨call, os, ranking, round, hshown, hpub, -⟩ :=
    (act_watch st.env r st.action).published n
  · exact .inl hsame
  · obtain ⟨s, hs, -⟩ := Option.map_eq_some_iff.mp hshown
    obtain ⟨s', closed, hact⟩ := undergoes_act hn hs hp
    have hclosed := List.append_cancel_left (hact.published.symm.trans hpub)
    refine .inr ⟨call, _, ?_, hpub⟩
    have hmem : (call, some (Ranking.ofOutcomes n os r.moment (round + 1))) ∈ closed := by
      obtain ⟨p, hp, hpublication⟩ := List.mem_filterMap.mp (hclosed ▸ List.mem_singleton_self _)
      exact (Watch.publication?_eq_some.mp hpublication).1 ▸ hp
    obtain ⟨-, -, rfl⟩ | ⟨a, ha, hallowed, -, rfl⟩ := hact.history.of_toList
    · cases hmem
    · rw [ha]
      exact congrArg some (hallowed.over hmem).symm

theorem holder?_act (hn : r.watch.networks.Nodup) (hp : r.Permits urgent st.action)
    (hholder : r.watch.holder? n = some call)
    (hgone : ¬(r.act st.env st.action).watch.Holds n call) :
    (r.act st.env st.action).watch.holder? n = none := by
  obtain ⟨s, hs, hrunning⟩ := Option.bind_eq_some_iff.mp hholder
  obtain ⟨refresh, hrefresh, rfl⟩ := Option.map_eq_some_iff.mp hrunning
  obtain ⟨s', closed, hact⟩ := undergoes_act hn hs hp
  -- Whatever happens, the slot is free now or still runs the same call, which is gone.
  have hsame : ∀ refresh', s'.running = some refresh' → refresh'.call = refresh.call := by
    intro refresh' hrefresh'
    obtain ⟨-, rfl, -⟩ | ⟨a, -, -, rfl, -⟩ := hact.history.of_toList
    · cases hrefresh.symm.trans hrefresh'
      rfl
    · exact Slot.undergo_running hrefresh hrefresh'
  cases hr' : s'.running with
  | none => simp [Watch.holder?, hact.slot, hr']
  | some refresh' =>
    refine absurd ⟨s', hact.slot, ?_⟩ hgone
    simp [Slot.calls, hr', hsame refresh' hr']

theorem holder?_takeUp (env : Surroundings) (hs : r.watch.slot? n = some s)
    (hr : s.running = none) (hw : s.waiting.head? = some call) :
    (r.act env (.move (.watch (.slot n .takeUp)))).watch.holder? n = some call := by
  obtain ⟨rest, hrest⟩ := List.head?_eq_some_iff.mp hw
  have hslot := (act_slot env hs (Slot.apply_takeUp hr hrest)).1
  simp [Watch.holder?, hslot]

theorem exists_turn (hb : registry.Built) (env : Surroundings) (hr : Reachable c registry r)
    (h : r.watch.Holds n call) :
    ∃ steps r', Run (OfSlot n) r steps r' ∧
      (∀ st ∈ steps, st.env = env ∧
        ((∃ t, st.action = .wait t) ∨ ∃ m, st.action = .move (.watch (.slot n m)))) ∧
      r'.watch.holder? n = some call := by
  obtain ⟨s, hs, hcall⟩ := h
  -- By induction on what is left to do at the slot, which each move makes less.
  induction hk : s.toDo using Nat.strongRecOn generalizing r s with
  | ind k ih =>
    by_cases hholder : s.running.map (·.call) = some call
    · exact ⟨[], r, .nil r, by simp, by simp [Watch.holder?, hs, hholder]⟩
    · obtain ⟨due, m, steps, hm, hsteps, hrun⟩ := exists_slot_move env (hr.nodup_networks hb) hs
        (Slot.moves_ne_nil (List.ne_nil_of_mem hcall))
      let late : Relay := { r with clock := max r.clock due }
      have hs' : late.watch.slot? n = some s := hs
      have hslot := (act_slot env hs' (m := m) rfl).1
      have ht := Slot.apply_turn env.probe late.settings.probeTimeout late.clock late.moment s m
      have hless := Slot.toDo_apply env.probe late.settings.probeTimeout late.clock late.moment hm
      -- A move ends no call but the one that is running.
      rw [ht.calls] at hcall
      obtain ⟨rest, r', hrest, hrests, hend⟩ := ih _ (hk ▸ hless) (hr.run hrun) _ hslot
        ((List.mem_append.mp hcall).resolve_left fun hclosing => hholder (ht.running hclosing)) rfl
      refine ⟨steps ++ rest, r', hrun.append hrest, fun st hst => ?_, hend⟩
      cases List.mem_append.mp hst with
      | inl hst => exact ⟨(hsteps st hst).1, (hsteps st hst).2.symm.imp_right fun ha => ⟨m, ha⟩⟩
      | inr hst => exact hrests st hst

/-- A history that a call has left nothing in is one without it. -/
theorem Undergoes.without (h : Undergoes n r₁ r₂ acts s s' closed) (hbefore : call ∉ s.calls)
    (hafter : call ∉ s'.calls) (hfails : ∀ ranking, (call, some ranking) ∉ closed) :
    Undergoes n r₁ r₂ (acts.filter (·.call != call)) s s' (closed.filter (·.1 != call)) where
  slot := h.slot
  history := by
    have hwithout := h.history.without hfails
    rwa [abandon_eq_self hbefore, abandon_eq_self hafter] at hwithout
  booked p hp := h.booked p (List.mem_filter.mp hp).1
  published := by
    rw [h.published, List.filterMap_filter]
    congr 1
    apply List.filterMap_congr
    rintro ⟨other, _ | ranking⟩ hp
    · simp [Watch.publication?]
    · have hne : other ≠ call := by
        rintro rfl
        exact hfails ranking hp
      simp [hne]

/-- Whether a call has come and gone between two relays without having published. -/
structure Failed (call : CallId) (r₁ r₂ : Relay) : Prop where
  new : ∀ n, ¬r₁.watch.Holds n call
  gone : ∀ n, Absent n call r₂.watch
  unpublished : ∀ ranking, (call, some ranking) ∉ r₂.watch.results

theorem homed_of_visitor? (hr : Reachable c registry r) (hp : r.Permits urgent st.action)
    (h : st.action.visitor? r n = some call) : Homed n call (r.act st.env st.action).watch := by
  obtain ⟨s, hs⟩ := exists_slot_of_visitor? h
  exact (hr.run (.single hp)).homed (comes_of_visitor? hs h).2

theorem failed_of_gone (hr : Reachable c registry r₁)
    (hmade : first.action.visitor? r₁ n = some call) (hrun : Run urgent r₁ (first :: steps) r₂)
    (hgone : ¬r₂.watch.Holds n call)
    (hfailed : ∀ ranking, r₂.watch.result? call ≠ some (some ranking)) : Failed call r₁ r₂ where
  new k hk := by
    obtain ⟨s, hs⟩ := exists_slot_of_visitor? hmade
    exact Nat.not_lt.mpr (comes_of_visitor? hs hmade).1 (hr.distinct.known k call hk)
  gone := by
    cases hrun with
    | cons _ hp hrest => exact (homed_run hrest (homed_of_visitor? hr hp hmade)).gone hgone
  unpublished ranking hmem :=
    hfailed ranking (Watch.result?_of_mem (hr.run hrun).distinct.closed hmem)

theorem Failed.shown (h : Failed call r₁ r₂) (hb : registry.Built) (hr : Reachable c registry r₁)
    (hrun : Run urgent r₁ steps r₂) (htakes : Takes r₁ steps r st) :
    (r.act st.env st.action).watch.shown n = r.watch.shown n ∨
      ∃ other ranking, other ≠ call ∧ (r.actAt? n st).map Slot.Act.call = some other ∧
        (r.act st.env st.action).watch.published n =
          r.watch.published n ++ [(other, ranking)] := by
  obtain ⟨⟨before, hbefore⟩, hp, after, hafter⟩ := htakes.run hrun
  refine (shown_act ((hr.run hbefore).nodup_networks hb) hp).imp_right ?_
  rintro ⟨other, ranking, hact, hpub⟩
  refine ⟨other, ranking, ?_, hact, hpub⟩
  rintro rfl
  have hmem : (other, ranking) ∈ (r.act st.env st.action).watch.published n :=
    hpub ▸ List.mem_append_right _ (List.mem_singleton_self _)
  exact h.unpublished ranking ((results_run hafter).subset (Watch.mem_published.mp hmem).1)

theorem Failed.run (h : Failed call r₁ r₂) (hmore : Run urgent r₂ more r₃) :
    Failed call r₁ r₃ where
  new := h.new
  gone n := (h.gone n).run hmore
  unpublished ranking hmem := h.unpublished ranking (Absent.results h.gone hmore hmem)

theorem Failed.undergoes (h : Failed call r₁ r₂) (hb : registry.Built)
    (hr : Reachable c registry r₁) (hrun : Run urgent r₁ steps r₂)
    (hs : r₁.watch.slot? n = some s) :
    ∃ s' closed, Undergoes n r₁ r₂ (r₁.actsAt n steps) s s' closed ∧
      Undergoes n r₁ r₂ ((r₁.actsAt n steps).filter (·.call != call)) s s'
        (closed.filter (·.1 != call)) := by
  obtain ⟨s', closed, hall⟩ := undergoes_run hb hr hs hrun
  refine ⟨s', closed, hall, hall.without ?_ ?_ ?_⟩
  · exact fun hmem => h.new n ⟨s, hs, hmem⟩
  · exact fun hmem => (h.gone n).away ⟨s', hall.slot, hmem⟩
  · exact fun ranking hmem => h.unpublished ranking (hall.booked _ hmem)

theorem actsAt_elsewhere (hb : registry.Built) (hr : Reachable c registry r₁)
    (hmade : first.action.visitor? r₁ n = some call) (hnew : ∀ k, ¬r₁.watch.Holds k call)
    (hrun : Run urgent r₁ (first :: steps) r₂) (hne : k ≠ n) :
    ∀ a ∈ r₁.actsAt k (first :: steps), a.call ≠ call := by
  cases hrun with
  | cons _ hp hrest =>
    have habsent := (homed_of_visitor? hr hp hmade).absent hne
    intro a ha
    cases List.mem_append.mp ha with
    | inl ha =>
      rintro rfl
      have hacts := holds_of_actAt? (hr.nodup_networks hb) hp (Option.mem_toList.mp ha)
      exact hacts.elim (hnew k) habsent.away
    | inr ha => exact habsent.actsAt hb (hr.run (.single hp)) hrest a ha

/-- A call for a refresh that fails, be it that a probe of it crashes or that its caller walks away
at any time, leaves no trace. What its network shows changes only when other calls publish. If its
refresh was running, none is once the call is gone, and the first call that waits can run at once.
From then on the call is nowhere, does nothing and has no probe on its way, and any call that is
made gets its turn. Each network has the history that it has without the call, in which the other
calls publish the same rounds; for other networks this is the history itself. -/
theorem failed_call_traceless (hb : registry.Built) (hr : Reachable c registry r₁)
    (hmade : first.action.visitor? r₁ n = some call) (hrun : Run urgent r₁ (first :: steps) r₂)
    (hgone : ¬r₂.watch.Holds n call)
    (hfailed : ∀ ranking, r₂.watch.result? call ≠ some (some ranking)) :
    (∀ r st, Takes r₁ (first :: steps) r st →
      (r.act st.env st.action).watch.shown n = r.watch.shown n ∨
      ∃ other ranking, other ≠ call ∧ (r.actAt? n st).map Slot.Act.call = some other ∧
        (r.act st.env st.action).watch.published n = r.watch.published n ++ [(other, ranking)]) ∧
    (∀ r st, Takes r₁ (first :: steps) r st → r.watch.holder? n = some call →
      ¬(r.act st.env st.action).watch.Holds n call →
      (r.act st.env st.action).watch.holder? n = none) ∧
    (∀ more r₃, Run urgent r₂ more r₃ →
      (∀ ranking, r₃.watch.result? call ≠ some (some ranking)) ∧
      (∀ k, ¬r₃.watch.Holds k call ∧ (∀ p ∈ r₃.watch.inFlight k, p.1 ≠ call) ∧
        ∀ a ∈ r₂.actsAt k more, a.call ≠ call) ∧
      (∀ s other, r₃.watch.slot? n = some s → s.running = none → s.waiting.head? = some other →
        r₃.Permits urgent (.move (.watch (.slot n .takeUp))) ∧
        ∀ env, (r₃.act env (.move (.watch (.slot n .takeUp)))).watch.holder? n = some other) ∧
      ∀ other env, r₃.watch.Holds n other →
        ∃ turns r₄, Run (OfSlot n) r₃ turns r₄ ∧
          (∀ st ∈ turns, st.env = env ∧
            ((∃ t, st.action = .wait t) ∨ ∃ m, st.action = .move (.watch (.slot n m)))) ∧
          r₄.watch.holder? n = some other) ∧
    ∀ k s, r₁.watch.slot? k = some s →
      ∃ s' closed, Undergoes k r₁ r₂ (r₁.actsAt k (first :: steps)) s s' closed ∧
        Undergoes k r₁ r₂ ((r₁.actsAt k (first :: steps)).filter (·.call != call)) s s'
          (closed.filter (·.1 != call)) ∧
        (k ≠ n → ∀ a ∈ r₁.actsAt k (first :: steps), a.call ≠ call) := by
  have h := failed_of_gone hr hmade hrun hgone hfailed
  refine ⟨fun r st htakes => h.shown hb hr hrun htakes, ?_, ?_, ?_⟩
  · intro r st htakes hholder hleft
    obtain ⟨⟨before, hbefore⟩, hp, -⟩ := htakes.run hrun
    exact holder?_act ((hr.run hbefore).nodup_networks hb) hp hholder hleft
  · intro more r₃ hmore
    have hr₂ := hr.run hrun
    have hr₃ := hr₂.run hmore
    have h₃ := h.run hmore
    refine ⟨fun ranking hresult => ?_, fun k => ?_, fun s other hs hrunning hw => ?_,
      fun other env hother => exists_turn hb env hr₃ hother⟩
    · exact h₃.unpublished ranking (Watch.mem_of_result? hresult)
    · exact ⟨(h₃.gone k).away, (h₃.gone k).inFlight (hr₃.nodup_networks hb),
        (h.gone k).actsAt hb hr₂ hmore⟩
    · exact ⟨permits_takeUp hs hrunning hw, fun env => holder?_takeUp env hs hrunning hw⟩
  · intro k s hs
    obtain ⟨s', closed, hall, hwithout⟩ := h.undergoes hb hr hrun hs
    exact ⟨s', closed, hall, hwithout, actsAt_elsewhere hb hr hmade h.new hrun⟩

def brittle : Surroundings where
  post := uneven.post
  probe e t := if e.url = "http://[::1]" then .crashes 30 else uneven.probe e t

def overtaking : List Step :=
  [⟨brittle, .refresh ⟨1⟩⟩, ⟨brittle, .move (.watch (.slot ⟨1⟩ .takeUp))⟩, ⟨brittle, .wait 10⟩,
    ⟨brittle, .move (.watch (.slot ⟨1⟩ (.settle 1)))⟩, ⟨brittle, .wait 30⟩,
    ⟨brittle, .move (.watch (.slot ⟨1⟩ (.settle 0)))⟩,
    ⟨uneven, .move (.watch (.slot ⟨1⟩ .takeUp))⟩, ⟨uneven, .wait 60⟩,
    ⟨uneven, .move (.watch (.slot ⟨1⟩ (.settle 1)))⟩,
    ⟨uneven, .move (.watch (.slot ⟨1⟩ (.settle 0)))⟩, ⟨uneven, .move (.watch (.slot ⟨1⟩ .publish))⟩]

theorem failed_call_traceless_crashing :
    ∃ (r₁ r₂ : Relay) (acts : List Slot.Act) (s s' : Slot) (closed : List (CallId × CallResult)),
      r₂.watch.result? 0 = some none ∧
      (r₂.watch.published ⟨1⟩).map (fun p => (p.1, p.2.round)) = [(1, 1)] ∧
      acts.map Slot.Act.call = [1, 1, 1, 1, 1] ∧ Undergoes ⟨1⟩ r₁ r₂ acts s s' closed := by
  let r₁ := Relay.new (.withNetworks []) .loopback ⟨0, 0⟩
  let first : Step := ⟨brittle, .refresh ⟨1⟩⟩
  let r₂ := r₁.after (first :: overtaking)
  have hr : Reachable (.withNetworks []) .loopback r₁ := ⟨⟨0, 0⟩, [], .nil _⟩
  have hrun : Run (fun _ => False) r₁ (first :: overtaking) r₂ := run_after (by decide +kernel)
  have hresult : r₂.watch.result? 0 = some none := by decide +kernel
  have hcalls : (r₂.watch.slot? ⟨1⟩).map Slot.calls = some [] := by decide +kernel
  have hgone : ¬r₂.watch.Holds ⟨1⟩ 0 := by
    rintro ⟨s, hs, hmem⟩
    rw [hs, Option.map_some, Option.some.injEq] at hcalls
    rw [hcalls] at hmem
    cases hmem
  have hmade : first.action.visitor? r₁ ⟨1⟩ = some 0 := rfl
  obtain ⟨-, -, -, hhistory⟩ :=
    failed_call_traceless Registry.loopback_built hr hmade hrun hgone (by simp [hresult])
  obtain ⟨s', closed, -, hwithout, -⟩ := hhistory ⟨1⟩ _ rfl
  exact ⟨r₁, r₂, _, _, s', _, hresult, by decide +kernel, by decide +kernel, hwithout⟩

end Relay

end RankedRelay
