import RankedRelay.Proofs.Registry
import RankedRelay.Proofs.Run
import RankedRelay.Proofs.Slot

namespace RankedRelay

def SlotEvent.closing? : SlotEvent → Option (CallId × CallResult)
  | .published call ranking => some (call, some ranking)
  | .crashed call => some (call, none)
  | _ => none

namespace Watch

variable {w w' : Watch} {n : NetworkId} {s s' s₀ : Slot}

def config (w : Watch) : List (NetworkId × List Endpoint) :=
  w.slots.map fun s => (s.network, s.endpoints)

theorem network_of_slot? (h : w.slot? n = some s) : s.network = n := by
  simpa using List.find?_some h

theorem mem_of_slot? (h : w.slot? n = some s) : s ∈ w.slots := List.mem_of_find?_eq_some h

theorem eq_of_mem (hn : w.networks.Nodup) (h₀ : w.slot? n = some s₀) (h : s ∈ w.slots)
    (hsn : s.network = n) : s = s₀ := by
  have h₀n := network_of_slot? h₀
  obtain ⟨i, hi, rfl⟩ := List.getElem_of_mem h
  obtain ⟨j, hj, rfl⟩ := List.getElem_of_mem (mem_of_slot? h₀)
  have hi' : i < w.networks.length := by simpa [networks] using hi
  have hj' : j < w.networks.length := by simpa [networks] using hj
  have hget : w.networks[i] = w.networks[j] := by
    simp only [networks, List.getElem_map]
    rw [hsn, h₀n]
  have hij : i = j := (List.getElem_inj hn).mp hget
  subst hij
  rfl

theorem slot?_of_mem (hn : w.networks.Nodup) (h : s ∈ w.slots) : w.slot? s.network = some s := by
  cases h₀ : w.slot? s.network with
  | none => exact absurd (beq_self_eq_true s.network) (List.find?_eq_none.mp h₀ s h)
  | some s₀ => rw [eq_of_mem hn h₀ h rfl]

theorem networks_eq_config (w : Watch) : w.networks = w.config.map (·.1) := by
  simp [networks, config, Function.comp_def]

theorem find?_config (w : Watch) (n : NetworkId) :
    (w.config.find? (·.1 == n)).map (·.2) = (w.slot? n).map (·.endpoints) := by
  simp only [config, slot?, List.find?_map, Option.map_map, Function.comp_def]

theorem slot?_modify (f : Slot → Slot) (hf : ∀ s ∈ w.slots, s.network = n → (f s).network = n)
    (k : NetworkId) :
    (w.modify n f).slot? k = if k = n then (w.slot? n).map f else w.slot? k := by
  obtain ⟨slots, scheduler, nextCall, results⟩ := w
  simp only [modify, slot?] at hf ⊢
  induction slots with
  | nil => simp
  | cons s rest ih =>
    have hs := hf s List.mem_cons_self
    have ih' := ih fun s' h' => hf s' (List.mem_cons_of_mem _ h')
    simp only [List.map_cons, List.find?_cons]
    by_cases hsn : s.network = n
    · have hfs : (f s).network = n := hs hsn
      by_cases hk : k = n
      · subst hk
        simp [hsn, hfs]
      · have hnk : (n == k) = false := by simpa using Ne.symm hk
        simp only [hsn, beq_self_eq_true, if_true, hfs, hnk, ih', if_neg hk]
    · have hb : (s.network == n) = false := by simpa using hsn
      simp only [hb, Bool.false_eq_true, if_false, ih']
      by_cases hk : k = n
      · subst hk
        simp only [if_true, hb]
      · simp only [if_neg hk]

theorem slot?_of_turn {probe : Prober} {limit now : Nat} {moment : Moment} {m : SlotMove}
    {events : List SlotEvent} (hs : w.slot? n = some s)
    (ht : s.Turn probe limit now moment m s' events)
    (slots : w'.slots = (w.modify n fun _ => s').slots) (k : NetworkId) :
    w'.slot? k = if k = n then some s' else w.slot? k := by
  have hs' : s'.network = n := ht.network.trans (network_of_slot? hs)
  have hf := slot?_modify (w := w) (n := n) (fun _ => s') (fun _ _ _ => hs') k
  rw [hs] at hf
  rw [slot?, slots]
  exact hf

theorem config_modify (f : Slot → Slot)
    (hf : ∀ s ∈ w.slots, s.network = n → ((f s).network, (f s).endpoints) = (n, s.endpoints)) :
    (w.modify n f).config = w.config := by
  simp only [config, modify, List.map_map]
  apply List.map_congr_left
  intro s hs
  by_cases hsn : s.network = n <;> simp_all

theorem find?_enqueueAll (call : CallId) (slots : List Slot) (n : NetworkId) :
    (enqueueAll call slots).find? (·.network == n) =
      (slots.find? (·.network == n)).map
        (·.enqueue (call + (slots.map (·.network)).idxOf n)) := by
  induction slots generalizing call with
  | nil => rfl
  | cons s rest ih =>
    simp only [enqueueAll, List.find?_cons, Slot.enqueue, List.map_cons]
    by_cases hs : s.network = n
    · simp [hs]
    · have hb : (s.network == n) = false := by simpa using hs
      simp only [hb, ih, List.idxOf_cons, cond_false]
      congr 2
      funext s'
      simp only [Slot.enqueue, Nat.succ_add_eq_add_succ, Nat.succ_eq_add_one]

theorem slot?_wake (w : Watch) (n : NetworkId) :
    w.wake.slot? n = (w.slot? n).map (·.enqueue (w.nextCall + w.networks.idxOf n)) :=
  find?_enqueueAll w.nextCall w.slots n

theorem config_wake (w : Watch) : w.wake.config = w.config := by
  have h : ∀ (call : CallId) (slots : List Slot),
      (enqueueAll call slots).map (fun s => (s.network, s.endpoints)) =
        slots.map (fun s => (s.network, s.endpoints)) := by
    intro call slots
    induction slots generalizing call with
    | nil => rfl
    | cons s rest ih => simp [enqueueAll, Slot.enqueue, ih]
  exact h w.nextCall w.slots

@[simp] theorem foldl_book_slots (events : List SlotEvent) (w : Watch) :
    (events.foldl book w).slots = w.slots := by
  induction events generalizing w with
  | nil => rfl
  | cons e rest ih =>
    rw [List.foldl_cons, ih]
    cases e <;> rfl

@[simp] theorem foldl_book_nextCall (events : List SlotEvent) (w : Watch) :
    (events.foldl book w).nextCall = w.nextCall := by
  induction events generalizing w with
  | nil => rfl
  | cons e rest ih =>
    rw [List.foldl_cons, ih]
    cases e <;> rfl

theorem foldl_book_results (events : List SlotEvent) (w : Watch) :
    (events.foldl book w).results = (events.filterMap SlotEvent.closing?).reverse ++ w.results := by
  induction events generalizing w with
  | nil => rfl
  | cons e rest ih =>
    rw [List.foldl_cons, ih]
    cases e <;> simp [book, close, SlotEvent.closing?, List.filterMap_cons]

end Watch

namespace Relay

/-- What an action makes of the watch of a relay. -/
inductive Change (env : Surroundings) (r : Relay) : Action → Watch → Prop
  | quiet {a : Action} {w : Watch} (slots : w.slots = r.watch.slots)
      (results : w.results = r.watch.results) (nextCall : w.nextCall = r.watch.nextCall) :
      Change env r a w
  | enqueue {n : NetworkId} {s : Slot} (hs : r.watch.slot? n = some s) :
      Change env r (.refresh n)
        { r.watch.modify n (·.enqueue r.watch.nextCall) with nextCall := r.watch.nextCall + 1 }
  | wake : Change env r (.move (.watch (.scheduler .wake))) r.watch.wake
  | abandon (n : NetworkId) (call : CallId) :
      Change env r (.abandon n call) (r.watch.abandon n call)
  | turn {n : NetworkId} {m : SlotMove} {s s' : Slot} {events : List SlotEvent} {w : Watch}
      (hs : r.watch.slot? n = some s)
      (ht : s.Turn env.probe r.settings.probeTimeout r.clock r.moment m s' events)
      (slots : w.slots = (r.watch.modify n fun _ => s').slots)
      (results : w.results = (events.filterMap SlotEvent.closing?).reverse ++ r.watch.results)
      (nextCall : w.nextCall = r.watch.nextCall) :
      Change env r (.move (.watch (.slot n m))) w

variable {env : Surroundings} {r : Relay} {a : Action} {n : NetworkId} {s : Slot} {w : Watch}

theorem act_watch (env : Surroundings) (r : Relay) (a : Action) :
    Change env r a (r.act env a).watch := by
  cases a with
  | move m =>
    cases m with
    | traffic m => exact .quiet rfl rfl rfl
    | watch m =>
      cases m with
      | scheduler m =>
        cases m with
        | wake => exact .wake
        | conclude => exact .quiet rfl rfl rfl
        | terminate => exact .quiet rfl rfl rfl
      | slot n m =>
        simp only [act, apply, withWatch, log_watch, Watch.apply, Watch.applySlot]
        cases hs : r.watch.slot? n with
        | none => exact .quiet rfl rfl rfl
        | some s =>
          exact .turn hs (Slot.apply_turn _ _ _ _ s m) (Watch.foldl_book_slots _ _)
            (Watch.foldl_book_results _ _) (Watch.foldl_book_nextCall _ _)
  | refresh n =>
    simp only [act, refresh, Watch.request]
    cases hs : r.watch.slot? n with
    | none => exact .quiet rfl rfl rfl
    | some s => exact .enqueue hs
  | abandon n call => exact .abandon n call
  | submitOn loan o =>
    simp only [act, submitOn?]
    cases r.traffic.submitOn? env.post r.settings.attemptTimeout r.clock
      (r.watch.ranking o.network) loan o <;> exact .quiet rfl rfl rfl
  | release loan =>
    simp only [act]
    cases r.traffic.release? loan <;> exact .quiet rfl rfl rfl
  | _ => exact .quiet rfl rfl rfl

theorem Change.config (hn : r.watch.networks.Nodup) (h : Change env r a w) :
    w.config = r.watch.config := by
  cases h with
  | quiet slots => rw [Watch.config, slots, Watch.config]
  | enqueue hs => exact Watch.config_modify _ fun s _ hsn => by simp [Slot.enqueue, hsn]
  | wake => exact Watch.config_wake _
  | abandon n call => exact Watch.config_modify _ fun s _ hsn => by simp [Slot.abandon, hsn]
  | turn hs ht slots =>
    rw [Watch.config, slots]
    refine Watch.config_modify _ fun s₁ h₁ hn₁ => ?_
    rw [Watch.eq_of_mem hn hs h₁ hn₁, ht.network, ht.endpoints, Watch.network_of_slot? hs]

/-- What an action makes of the slot of a network. -/
inductive SlotChange (env : Surroundings) (r : Relay) (n : NetworkId) (a : Action) (s : Slot) :
    Slot → Prop
  | keep : SlotChange env r n a s s
  | enqueue {call : CallId} (hcall : r.watch.nextCall ≤ call) :
      SlotChange env r n a s (s.enqueue call)
  | abandon {call : CallId} (ha : a = .abandon n call) : SlotChange env r n a s (s.abandon call)
  | turn {m : SlotMove} {s' : Slot} {events : List SlotEvent}
      (ha : a = .move (.watch (.slot n m)))
      (ht : s.Turn env.probe r.settings.probeTimeout r.clock r.moment m s' events) :
      SlotChange env r n a s s'

theorem Change.slot? (h : Change env r a w) (hs : r.watch.slot? n = some s) :
    ∃ s', w.slot? n = some s' ∧ SlotChange env r n a s s' := by
  cases h with
  | quiet slots => exact ⟨s, by rw [Watch.slot?, slots]; exact hs, .keep⟩
  | @enqueue k s₀ hk =>
    have hf := Watch.slot?_modify (w := r.watch) (n := k) (·.enqueue r.watch.nextCall)
      (fun _ _ h => h) n
    by_cases hnk : n = k
    · subst hnk
      rw [if_pos rfl, hs] at hf
      exact ⟨_, hf, .enqueue (Nat.le_refl _)⟩
    · rw [if_neg hnk, hs] at hf
      exact ⟨s, hf, .keep⟩
  | wake =>
    have hf := Watch.slot?_wake r.watch n
    rw [hs] at hf
    exact ⟨_, hf, .enqueue (Nat.le_add_right _ _)⟩
  | abandon k call =>
    have hf := Watch.slot?_modify (w := r.watch) (n := k) (·.abandon call) (fun _ _ h => h) n
    by_cases hnk : n = k
    · subst hnk
      rw [if_pos rfl, hs] at hf
      exact ⟨_, hf, .abandon rfl⟩
    · rw [if_neg hnk, hs] at hf
      exact ⟨s, hf, .keep⟩
  | @turn k m s₀ s' events w hk ht slots =>
    have hf := Watch.slot?_of_turn hk ht slots n
    by_cases hnk : n = k
    · subst hnk
      rw [hs] at hk
      cases hk
      rw [if_pos rfl] at hf
      exact ⟨s', hf, .turn rfl ht⟩
    · rw [if_neg hnk, hs] at hf
      exact ⟨s, hf, .keep⟩

theorem Change.slot?_none (h : Change env r a w) (hs : r.watch.slot? n = none) :
    w.slot? n = none := by
  cases h with
  | quiet slots => rwa [Watch.slot?, slots]
  | @enqueue k s₀ hk =>
    refine (Watch.slot?_modify (·.enqueue r.watch.nextCall) (fun _ _ h => h) n).trans ?_
    split
    · rename_i hnk
      rw [← hnk, hs, Option.map_none]
    · exact hs
  | wake => rw [Watch.slot?_wake, hs, Option.map_none]
  | abandon k call =>
    refine (Watch.slot?_modify (·.abandon call) (fun _ _ h => h) n).trans ?_
    split
    · rename_i hnk
      rw [← hnk, hs, Option.map_none]
    · exact hs
  | @turn k m s₀ s' events w hk ht slots =>
    rw [Watch.slot?_of_turn hk ht slots]
    split
    · rename_i hnk
      rw [← hnk, hs] at hk
      cases hk
    · exact hs

def OfSlot (n : NetworkId) : Move → Prop
  | .watch (.slot k _) => k = n
  | _ => False

instance (n : NetworkId) : DecidablePred (OfSlot n)
  | .watch (.slot k _) => inferInstanceAs (Decidable (k = n))
  | .watch (.scheduler _) => .isFalse id
  | .traffic _ => .isFalse id

theorem mem_moves_of_slot (hs : r.watch.slot? n = some s) {due : Nat} {m : SlotMove}
    (hm : (due, m) ∈ s.moves) : (due, .watch (.slot n m)) ∈ r.moves := by
  rw [moves, List.mem_append]
  refine .inl (List.mem_map.mpr ⟨(due, .slot n m), ?_, rfl⟩)
  rw [Watch.moves, List.mem_append]
  refine .inl (List.mem_flatMap.mpr ⟨s, Watch.mem_of_slot? hs, ?_⟩)
  rw [Watch.network_of_slot? hs]
  exact List.mem_map.mpr ⟨_, hm, rfl⟩

theorem slot_of_mem_moves (hn : r.watch.networks.Nodup) (hs : r.watch.slot? n = some s)
    {due : Nat} {m : SlotMove} (hm : (due, .watch (.slot n m)) ∈ r.moves) :
    (due, m) ∈ s.moves := by
  rw [moves, List.mem_append] at hm
  rcases hm with hm | hm
  · obtain ⟨⟨_, _⟩, hp, heq⟩ := List.mem_map.mp hm
    cases heq
    rw [Watch.moves, List.mem_append] at hp
    rcases hp with hp | hp
    · obtain ⟨s', hs', hp⟩ := List.mem_flatMap.mp hp
      obtain ⟨⟨_, _⟩, hq, heq⟩ := List.mem_map.mp hp
      cases heq
      rw [← Watch.eq_of_mem hn hs hs' rfl]
      exact hq
    · obtain ⟨⟨_, _⟩, _, heq⟩ := List.mem_map.mp hp
      cases heq
  · obtain ⟨⟨_, _⟩, _, heq⟩ := List.mem_map.mp hm
    cases heq

theorem first_of_slot (hn : r.watch.networks.Nodup) (hs : r.watch.slot? n = some s) {due : Nat}
    (hfirst : ∀ q ∈ s.moves, due ≤ q.1) : ∀ p ∈ r.moves, OfSlot n p.2 → due ≤ p.1 := by
  rintro ⟨due', k | k⟩ hk hof
  · cases k with
    | scheduler => cases hof
    | slot n k =>
      cases hof
      exact hfirst _ (slot_of_mem_moves hn hs hk)
  · cases hof

theorem exists_slot_move (env : Surroundings) (hn : r.watch.networks.Nodup)
    (hs : r.watch.slot? n = some s) (h : s.moves ≠ []) :
    ∃ due m steps, (due, m) ∈ s.moves ∧
      (∀ st ∈ steps, st.env = env ∧
        (st.action = .move (.watch (.slot n m)) ∨ ∃ t, st.action = .wait t)) ∧
      Run (OfSlot n) r steps (r.moveAt env due (.watch (.slot n m))) := by
  cases hfirst : earliest s.moves with
  | none => exact absurd (earliest_eq_none hfirst) h
  | some first =>
    obtain ⟨due, m⟩ := first
    obtain ⟨hm, hleast⟩ := earliest_spec hfirst
    obtain ⟨steps, hsteps, hrun⟩ :=
      moveAt_isRun (OfSlot n) env (mem_moves_of_slot hs hm) (first_of_slot hn hs hleast)
    exact ⟨due, m, steps, hm, hsteps, hrun⟩

theorem permits_takeUp {urgent : Move → Prop} {call : CallId} (hs : r.watch.slot? n = some s)
    (hr : s.running = none) (hw : s.waiting.head? = some call) :
    r.Permits urgent (.move (.watch (.slot n .takeUp))) := by
  refine ⟨0, Nat.zero_le _, mem_moves_of_slot hs ?_⟩
  rw [Slot.moves_waiting hr hw]
  exact List.mem_singleton_self _

/-- What a move of a slot makes of the slot, the results and the log. -/
theorem act_slot (env : Surroundings) (hs : r.watch.slot? n = some s) {m : SlotMove} {s' : Slot}
    {events : List SlotEvent}
    (hout : s.apply env.probe r.settings.probeTimeout r.clock r.moment m = (s', events)) :
    (r.act env (.move (.watch (.slot n m)))).watch.slot? n = some s' ∧
    (r.act env (.move (.watch (.slot n m)))).watch.results =
      (events.filterMap SlotEvent.closing?).reverse ++ r.watch.results ∧
    (r.act env (.move (.watch (.slot n m)))).events =
      (events.map fun e => Event.watch (.slot e)).reverse.map (r.clock, ·) ++ r.events := by
  have ht := Slot.apply_turn env.probe r.settings.probeTimeout r.clock r.moment s m
  rw [hout] at ht
  have hw : r.watch.apply env.probe r.settings.probeTimeout r.clock r.moment (.slot n m) =
      (events.foldl Watch.book (r.watch.modify n fun _ => s'), events.map .slot) := by
    simp only [Watch.apply, Watch.applySlot, hs, hout]
  have hslot := Watch.slot?_of_turn hs ht (Watch.foldl_book_slots events _) n
  rw [if_pos rfl] at hslot
  simp only [act, apply, hw, withWatch, log_watch, log_events]
  exact ⟨hslot, Watch.foldl_book_results _ _, by simp⟩

theorem Change.results (h : Change env r a w) : r.watch.results <:+ w.results := by
  cases h with
  | quiet slots results => exact results ▸ List.suffix_refl _
  | enqueue => exact List.suffix_refl _
  | wake => exact List.suffix_refl _
  | abandon => exact List.suffix_refl _
  | turn hs ht slots results => exact results ▸ List.suffix_append _ _

variable {c : Config} {registry : Registry} {es : List Endpoint}

theorem Reachable.config (hb : registry.Built) (hr : Reachable c registry r) :
    r.watch.config = registry.networks := by
  refine hr.keeps (P := fun r => r.watch.config = registry.networks) (fun epoch => ?_) ?_
  · simp [new, Watch.new, Watch.config, Slot.new, Function.comp_def]
  · intro r s hconfig _
    have hn : r.watch.networks.Nodup := by
      rw [Watch.networks_eq_config, hconfig]
      exact hb.nodup_networks
    rw [(act_watch s.env r s.action).config hn, hconfig]

theorem Reachable.nodup_networks (hb : registry.Built) (hr : Reachable c registry r) :
    r.watch.networks.Nodup := by
  rw [Watch.networks_eq_config, hr.config hb]
  exact hb.nodup_networks

theorem Reachable.endpoints?_eq (hb : registry.Built) (hr : Reachable c registry r)
    (n : NetworkId) : registry.endpoints? n = (r.watch.slot? n).map (·.endpoints) := by
  rw [← Watch.find?_config, hr.config hb, Registry.endpoints?]

theorem Reachable.slot (hb : registry.Built) (hr : Reachable c registry r)
    (hes : registry.endpoints? n = some es) :
    ∃ s, r.watch.slot? n = some s ∧ s.endpoints = es := by
  rw [hr.endpoints?_eq hb n] at hes
  exact Option.map_eq_some_iff.mp hes

theorem Reachable.settings (hr : Reachable c registry r) :
    r.settings.probeTimeout = c.probeTimeoutMs.toNat ∧
      r.settings.attemptTimeout = c.attemptTimeoutMs.toNat := by
  obtain ⟨epoch, steps, hrun⟩ := hr
  rw [settings_run hrun]
  exact ⟨rfl, rfl⟩

end Relay

end RankedRelay
