import RankedRelay.Relay.Setup

namespace RankedRelay

/-- One thing that happens to a relay. -/
inductive Action where
  | wait (time : Nat)
  | move (m : Move)
  | refresh (network : NetworkId)
  | abandon (network : NetworkId) (call : CallId)
  | start
  | cancel
  | submit (o : Order)
  | acquire
  | submitOn (loan : LoanId) (o : Order)
  | release (loan : LoanId)
  | drop (id : RequestId)

/-- What happens, and how calls to upstreams and probes of them go at that point. -/
structure Step where
  env : Surroundings
  action : Action

namespace Relay

def act (env : Surroundings) (r : Relay) : Action → Relay
  | .wait t => { r with clock := t }
  | .move m => r.apply env m
  | .refresh network =>
    match r.refresh network with
    | .ok c => c.2
    | .error _ => r
  | .abandon network call => { r with watch := r.watch.abandon network call }
  | .start => r.start
  | .cancel => r.cancel
  | .submit o => (r.submit env o).2
  | .acquire => { r with traffic := r.traffic.acquire.2 }
  | .submitOn loan o =>
    match r.submitOn? env loan o with
    | some s => s.2
    | none => r
  | .release loan =>
    match r.traffic.release? loan with
    | some t => { r with traffic := t }
    | none => r
  | .drop id => r.apply env (.traffic (.drop id))

/-- A move has to be due. The clock does not pass a move that is urgent. -/
def Permits (urgent : Move → Prop) (r : Relay) : Action → Prop
  | .wait t => r.clock ≤ t ∧ ∀ m ∈ r.moves, urgent m.2 → t ≤ m.1
  | .move m => ∃ due ≤ r.clock, (due, m) ∈ r.moves
  | _ => True

/-- What can happen to a relay one after the other, and where it leads. -/
inductive Run (urgent : Move → Prop) : Relay → List Step → Relay → Prop
  | nil (r : Relay) : Run urgent r [] r
  | cons {r r' : Relay} (s : Step) {steps : List Step} (permitted : r.Permits urgent s.action)
      (rest : Run urgent (r.act s.env s.action) steps r') : Run urgent r (s :: steps) r'

variable {urgent : Move → Prop} {r r₁ r₂ r₃ : Relay} {steps steps₁ steps₂ : List Step}

theorem Run.append (h₁ : Run urgent r₁ steps₁ r₂) (h₂ : Run urgent r₂ steps₂ r₃) :
    Run urgent r₁ (steps₁ ++ steps₂) r₃ := by
  induction h₁ with
  | nil => exact h₂
  | cons s permitted _ ih => exact .cons s permitted (ih h₂)

theorem Run.single {s : Step} (h : r.Permits urgent s.action) :
    Run urgent r [s] (r.act s.env s.action) := .cons s h (.nil _)

theorem Permits.mono {urgent' : Move → Prop} (hu : ∀ m, urgent' m → urgent m) {a : Action}
    (h : r.Permits urgent a) : r.Permits urgent' a := by
  cases a with
  | wait t => exact ⟨h.1, fun m hm hum => h.2 m hm (hu _ hum)⟩
  | _ => exact h

theorem Run.mono {urgent' : Move → Prop} (hu : ∀ m, urgent' m → urgent m)
    (h : Run urgent r₁ steps r₂) : Run urgent' r₁ steps r₂ := by
  induction h with
  | nil r => exact .nil r
  | cons s permitted _ ih => exact .cons s (permitted.mono hu) ih

theorem Run.keeps {P : Relay → Prop} {E : Step → Prop}
    (hstep : ∀ r (s : Step), P r → E s → r.Permits urgent s.action → P (r.act s.env s.action))
    (h : Run urgent r₁ steps r₂) (hsteps : ∀ s ∈ steps, E s) (h₁ : P r₁) : P r₂ := by
  induction h with
  | nil => exact h₁
  | cons s permitted _ ih =>
    exact ih (fun s' hs => hsteps s' (List.mem_cons_of_mem _ hs))
      (hstep _ s h₁ (hsteps s List.mem_cons_self) permitted)

/-- A relay that something has led to from a new one, however late. -/
def Reachable (c : Config) (registry : Registry) (r : Relay) : Prop :=
  ∃ (epoch : Moment) (steps : List Step), Run (fun _ => False) (.new c registry epoch) steps r

theorem Reachable.run {c : Config} {registry : Registry} (h : Reachable c registry r₁)
    (hrun : Run urgent r₁ steps r₂) : Reachable c registry r₂ := by
  obtain ⟨epoch, before, hbefore⟩ := h
  exact ⟨epoch, before ++ steps, hbefore.append (hrun.mono fun _ => False.elim)⟩

theorem Reachable.act {c : Config} {registry : Registry} (h : Reachable c registry r)
    (env : Surroundings) {a : Action} (hp : r.Permits (fun _ => False) a) :
    Reachable c registry (r.act env a) :=
  h.run (.single (s := ⟨env, a⟩) hp)

theorem Reachable.keeps {c : Config} {registry : Registry} {P : Relay → Prop}
    (hnew : ∀ epoch, P (.new c registry epoch))
    (hstep : ∀ r (s : Step), P r → r.Permits (fun _ => False) s.action → P (r.act s.env s.action))
    (h : Reachable c registry r) : P r := by
  obtain ⟨epoch, steps, hrun⟩ := h
  exact hrun.keeps (E := fun _ => True) (fun r s hr _ => hstep r s hr) (fun _ _ => trivial)
    (hnew epoch)

@[simp] theorem log_settings (r : Relay) (es : List Event) : (r.log es).settings = r.settings := rfl

@[simp] theorem log_clock (r : Relay) (es : List Event) : (r.log es).clock = r.clock := rfl

@[simp] theorem log_watch (r : Relay) (es : List Event) : (r.log es).watch = r.watch := rfl

@[simp] theorem log_traffic (r : Relay) (es : List Event) : (r.log es).traffic = r.traffic := rfl

@[simp] theorem act_settings (r : Relay) (env : Surroundings) (a : Action) :
    (r.act env a).settings = r.settings := by
  cases a with
  | move m => cases m <;> rfl
  | refresh n =>
    simp only [act, refresh]
    cases r.watch.request n <;> rfl
  | submitOn loan o =>
    simp only [act, submitOn?]
    cases r.traffic.submitOn? env.post r.settings.attemptTimeout r.clock
      (r.watch.ranking o.network) loan o <;> rfl
  | release loan =>
    simp only [act]
    cases r.traffic.release? loan <;> rfl
  | _ => rfl

theorem settings_run (h : Run urgent r₁ steps r₂) : r₂.settings = r₁.settings := by
  induction h with
  | nil => rfl
  | cons s _ _ ih => rw [ih, act_settings]

theorem act_clock (r : Relay) (env : Surroundings) {a : Action} (ha : ∀ t, a ≠ .wait t) :
    (r.act env a).clock = r.clock := by
  cases a with
  | wait t => exact absurd rfl (ha t)
  | move m => cases m <;> rfl
  | refresh n =>
    simp only [act, refresh]
    cases r.watch.request n <;> rfl
  | submitOn loan o =>
    simp only [act, submitOn?]
    cases r.traffic.submitOn? env.post r.settings.attemptTimeout r.clock
      (r.watch.ranking o.network) loan o <;> rfl
  | release loan =>
    simp only [act]
    cases r.traffic.release? loan <;> rfl
  | _ => rfl

theorem clock_le_act (env : Surroundings) {a : Action} (h : r.Permits urgent a) :
    r.clock ≤ (r.act env a).clock := by
  cases a with
  | wait t => exact h.1
  | _ => exact Nat.le_of_eq (act_clock _ _ (by simp)).symm

theorem log_events (r : Relay) (es : List Event) :
    (r.log es).events = es.reverse.map (r.clock, ·) ++ r.events := rfl

theorem events_act (r : Relay) (env : Surroundings) (a : Action) :
    r.events <:+ (r.act env a).events := by
  cases a with
  | move m => cases m <;> exact List.suffix_append _ _
  | drop id => exact List.suffix_append _ _
  | submit o => exact List.suffix_append _ _
  | refresh n =>
    simp only [act, refresh]
    cases r.watch.request n <;> exact List.suffix_refl _
  | submitOn loan o =>
    simp only [act, submitOn?]
    cases r.traffic.submitOn? env.post r.settings.attemptTimeout r.clock
      (r.watch.ranking o.network) loan o with
    | none => exact List.suffix_refl _
    | some t => exact List.suffix_append _ _
  | release loan =>
    simp only [act]
    cases r.traffic.release? loan <;> exact List.suffix_refl _
  | _ => exact List.suffix_refl _

theorem earliest_eq_none {α : Type} {l : List (Nat × α)} (h : earliest l = none) : l = [] := by
  cases l with
  | nil => rfl
  | cons a rest =>
    simp only [earliest] at h
    split at h
    · cases h
    · split at h <;> cases h

theorem earliest_spec {α : Type} {l : List (Nat × α)} {m : Nat × α} (h : earliest l = some m) :
    m ∈ l ∧ ∀ n ∈ l, m.1 ≤ n.1 := by
  induction l generalizing m with
  | nil => cases h
  | cons a rest ih =>
    simp only [earliest] at h
    cases hrest : earliest rest with
    | none =>
      rw [hrest] at h
      cases h
      rw [earliest_eq_none hrest]
      simp
    | some n =>
      obtain ⟨hn, hle⟩ := ih hrest
      rw [hrest] at h
      by_cases han : a.1 ≤ n.1
      · simp only [if_pos han] at h
        cases h
        refine ⟨List.mem_cons_self, fun k hk => ?_⟩
        rcases List.mem_cons.mp hk with rfl | hk
        · exact Nat.le_refl _
        · exact Nat.le_trans han (hle k hk)
      · simp only [if_neg han] at h
        cases h
        refine ⟨List.mem_cons_of_mem _ hn, fun k hk => ?_⟩
        rcases List.mem_cons.mp hk with rfl | hk
        · omega
        · exact hle k hk

/-- Waiting for a move that is due before all urgent ones, and making it, makes nothing late. -/
theorem moveAt_isRun (urgent : Move → Prop) (env : Surroundings) {due : Nat} {m : Move}
    (hm : (due, m) ∈ r.moves) (hfirst : ∀ n ∈ r.moves, urgent n.2 → due ≤ n.1) :
    ∃ steps, (∀ s ∈ steps, s.env = env ∧ (s.action = .move m ∨ ∃ t, s.action = .wait t)) ∧
      Run urgent r steps (r.moveAt env due m) := by
  by_cases hlate : due ≤ r.clock
  · refine ⟨[⟨env, .move m⟩], by simp, ?_⟩
    have hr : ({ r with clock := max r.clock due } : Relay) = r := by
      rw [Nat.max_eq_left hlate]
    rw [moveAt, hr]
    exact .single ⟨due, hlate, hm⟩
  · refine ⟨[⟨env, .wait due⟩, ⟨env, .move m⟩], by simp, ?_⟩
    have hdue : max r.clock due = due := by omega
    rw [moveAt, hdue]
    have hwait : r.Permits urgent (.wait due) := ⟨by omega, hfirst⟩
    exact .cons ⟨env, .wait due⟩ hwait (.single ⟨due, Nat.le_refl _, hm⟩)

/-- The clock makes one of the runs in which nothing is late. -/
theorem run_isRun (env : Surroundings) (goal : Relay → Bool) (limit : Option Nat) (fuel : Nat)
    (r : Relay) :
    ∃ steps, (∀ s ∈ steps, s.env = env) ∧
      Run (fun _ => True) r steps (r.run env goal limit fuel) := by
  induction fuel generalizing r with
  | zero => exact ⟨[], by simp, .nil r⟩
  | succ fuel ih =>
    simp only [run]
    split
    · exact ⟨[], by simp, .nil r⟩
    · cases hnext : r.next? with
      | none => exact ⟨[], by simp, .nil r⟩
      | some next =>
        obtain ⟨due, m⟩ := next
        simp only
        split
        · obtain ⟨hm, hleast⟩ := earliest_spec hnext
          obtain ⟨first, hfirst, hmove⟩ :=
            moveAt_isRun (fun _ => True) env hm fun n hn _ => hleast n hn
          obtain ⟨steps, hsteps, hrest⟩ := ih (r.moveAt env due m)
          refine ⟨first ++ steps, ?_, hmove.append hrest⟩
          intro s hs
          exact (List.mem_append.mp hs).elim (fun hs => (hfirst s hs).1) (hsteps s)
        · exact ⟨[], by simp, .nil r⟩

def after (r : Relay) : List Step → Relay
  | [] => r
  | s :: rest => (r.act s.env s.action).after rest

theorem permits_move_iff {m : Move} :
    r.Permits urgent (.move m) ↔ r.moves.any (fun p => p.1 ≤ r.clock && p.2 == m) = true := by
  simp only [Permits, List.any_eq_true, Bool.and_eq_true, decide_eq_true_eq, beq_iff_eq]
  constructor
  · rintro ⟨due, hle, hmem⟩
    exact ⟨_, hmem, hle, rfl⟩
  · rintro ⟨⟨due, m⟩, hmem, hle, rfl⟩
    exact ⟨due, hle, hmem⟩

instance [DecidablePred urgent] (r : Relay) (a : Action) : Decidable (r.Permits urgent a) :=
  match a with
  | .wait _ => inferInstanceAs (Decidable (_ ∧ _))
  | .move _ => decidable_of_iff' _ permits_move_iff
  | .refresh _ | .abandon _ _ | .start | .cancel | .submit _ | .acquire | .submitOn _ _
  | .release _ | .drop _ => inferInstanceAs (Decidable True)

def permitsAll (urgent : Move → Prop) [DecidablePred urgent] (r : Relay) : List Step → Bool
  | [] => true
  | s :: rest => decide (r.Permits urgent s.action) &&
    (r.act s.env s.action).permitsAll urgent rest

theorem run_after [DecidablePred urgent] (h : r.permitsAll urgent steps = true) :
    Run urgent r steps (r.after steps) := by
  induction steps generalizing r with
  | nil => exact .nil r
  | cons s rest ih =>
    obtain ⟨hpermits, hrest⟩ := Bool.and_eq_true_iff.mp h
    exact .cons s (of_decide_eq_true hpermits) (ih hrest)

end Relay

end RankedRelay
