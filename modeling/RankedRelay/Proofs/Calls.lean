import Mathlib.Data.List.Nodup
import RankedRelay.Proofs.Watch

namespace RankedRelay

namespace Slot

variable {probe : Prober} {limit now : Nat} {moment : Moment} {s s' : Slot} {m : SlotMove}
  {events : List SlotEvent}

theorem calls_enqueue (s : Slot) (call : CallId) : (s.enqueue call).calls = s.calls ++ [call] := by
  simp [calls, enqueue]

theorem calls_abandon (s : Slot) (call : CallId) :
    (s.abandon call).calls = s.calls.filter (· != call) := by
  cases hr : s.running with
  | none => simp [calls, abandon, hr]
  | some refresh =>
    by_cases hc : refresh.call = call <;> simp [calls, abandon, hr, hc, Option.filter]

theorem Turn.calls (h : s.Turn probe limit now moment m s' events) :
    s.calls = (events.filterMap SlotEvent.closing?).map (·.1) ++ s'.calls := by
  cases h with
  | idle => rfl
  | takeUp hr hw =>
    have hnone : (s.endpoints.map SlotEvent.probed).filterMap SlotEvent.closing? = [] := by
      simp [List.filterMap_map, Function.comp_def, SlotEvent.closing?]
    rw [hnone]
    simp [Slot.calls, hr, hw]
  | settle hr hp ho => simp [Slot.calls, hr, SlotEvent.closing?]
  | crash hr hp ho => simp [Slot.calls, hr, SlotEvent.closing?]
  | publish hr ho => simp [Slot.calls, hr, SlotEvent.closing?]

end Slot

namespace Watch

def Holds (w : Watch) (n : NetworkId) (call : CallId) : Prop :=
  ∃ s, w.slot? n = some s ∧ call ∈ s.calls

def closed (w : Watch) : List CallId := w.results.map (·.1)

/-- Whether calls are told apart by their numbers. -/
structure Distinct (w : Watch) : Prop where
  closed : w.closed.Nodup
  queues : ∀ n s, w.slot? n = some s → s.calls.Nodup
  apart : ∀ n k call, w.Holds n call → w.Holds k call → n = k
  pending : ∀ n call, w.Holds n call → call ∉ w.closed
  known : ∀ n call, w.Holds n call → call < w.nextCall
  known_closed : ∀ call ∈ w.closed, call < w.nextCall

variable {w w' : Watch}

/-- What is booked for a call is its result, since a call is over once. -/
theorem result?_of_mem (h : w.closed.Nodup) {p : CallId × CallResult} (hp : p ∈ w.results) :
    w.result? p.1 = some p.2 := by
  obtain ⟨_, _, _, results⟩ := w
  simp only [closed, result?] at h hp ⊢
  induction results with
  | nil => cases hp
  | cons q rest ih =>
    obtain ⟨hq, hrest⟩ := List.nodup_cons.mp h
    rw [List.find?_cons]
    rcases List.mem_cons.mp hp with rfl | hp
    · simp
    · have hne : (q.1 == p.1) = false := by
        rw [beq_eq_false_iff_ne]
        intro heq
        exact hq (List.mem_map.mpr ⟨p, hp, heq.symm⟩)
      rw [hne]
      exact ih hrest hp

theorem mem_of_result? {call : CallId} {result : CallResult} (h : w.result? call = some result) :
    (call, result) ∈ w.results := by
  obtain ⟨p, hp, rfl⟩ := Option.map_eq_some_iff.mp h
  have hcall : p.1 = call := by simpa using List.find?_some hp
  exact hcall ▸ List.mem_of_find?_eq_some hp

theorem Distinct.grow (h : w.Distinct) (hclosed : w'.closed = w.closed)
    (hnext : w.nextCall ≤ w'.nextCall) (new : NetworkId → Option CallId)
    (hnew : ∀ n call, new n = some call → w.nextCall ≤ call)
    (hbound : ∀ n call, w'.Holds n call → new n = some call → call < w'.nextCall)
    (hinj : ∀ n k call, w'.Holds n call → new n = some call → new k = some call → n = k)
    (hslot : ∀ n s', w'.slot? n = some s' →
      ∃ s, w.slot? n = some s ∧ s'.calls = s.calls ++ (new n).toList) : w'.Distinct := by
  -- Old calls are below the counter and new ones are not, so none is both.
  have hsplit : ∀ n call, w'.Holds n call → w.Holds n call ∨ new n = some call := by
    rintro n call ⟨s', hs', hmem⟩
    obtain ⟨s, hs, hcalls⟩ := hslot n s' hs'
    rw [hcalls, List.mem_append, Option.mem_toList] at hmem
    exact hmem.imp (fun hm => ⟨s, hs, hm⟩) id
  refine ⟨hclosed ▸ h.closed, ?_, ?_, ?_, ?_, ?_⟩
  · intro n s' hs'
    obtain ⟨s, hs, hcalls⟩ := hslot n s' hs'
    rw [hcalls, List.nodup_append]
    refine ⟨h.queues n s hs, by cases new n <;> simp, ?_⟩
    intro a ha b hb hab
    have hlt := h.known n a ⟨s, hs, ha⟩
    have hle := hnew n b (Option.mem_toList.mp hb)
    exact Nat.lt_irrefl b (Nat.lt_of_lt_of_le (hab ▸ hlt) hle)
  · intro n k call hn hk
    rcases hsplit n call hn with hn' | hn'
    · rcases hsplit k call hk with hk' | hk'
      · exact h.apart n k call hn' hk'
      · exact absurd (h.known n call hn') (Nat.not_lt.mpr (hnew k call hk'))
    · rcases hsplit k call hk with hk' | hk'
      · exact absurd (h.known k call hk') (Nat.not_lt.mpr (hnew n call hn'))
      · exact hinj n k call hn hn' hk'
  · intro n call hn hmem
    rw [hclosed] at hmem
    rcases hsplit n call hn with hn' | hn'
    · exact h.pending n call hn' hmem
    · exact absurd (h.known_closed call hmem) (Nat.not_lt.mpr (hnew n call hn'))
  · intro n call hn
    rcases hsplit n call hn with hn' | hn'
    · exact Nat.lt_of_lt_of_le (h.known n call hn') hnext
    · exact hbound n call hn hn'
  · intro call hmem
    rw [hclosed] at hmem
    exact Nat.lt_of_lt_of_le (h.known_closed call hmem) hnext

theorem Distinct.shrink (h : w.Distinct) {ended : List CallId}
    (hclosed : w'.closed = ended ++ w.closed) (hnext : w'.nextCall = w.nextCall)
    (hended : ended.Nodup) (hheld : ∀ call ∈ ended, ∃ n, w.Holds n call)
    (hgone : ∀ call ∈ ended, ∀ n, ¬w'.Holds n call)
    (hslot : ∀ n s', w'.slot? n = some s' → ∃ s, w.slot? n = some s ∧ s'.calls.Sublist s.calls) :
    w'.Distinct := by
  have hback : ∀ n call, w'.Holds n call → w.Holds n call := by
    rintro n call ⟨s', hs', hmem⟩
    obtain ⟨s, hs, hsub⟩ := hslot n s' hs'
    exact ⟨s, hs, hsub.subset hmem⟩
  refine ⟨?_, ?_, ?_, ?_, ?_, ?_⟩
  · rw [hclosed, List.nodup_append]
    refine ⟨hended, h.closed, ?_⟩
    intro a ha b hb hab
    obtain ⟨n, hn⟩ := hheld a ha
    exact h.pending n a hn (hab ▸ hb)
  · intro n s' hs'
    obtain ⟨s, hs, hsub⟩ := hslot n s' hs'
    exact hsub.nodup (h.queues n s hs)
  · exact fun n k call hn hk => h.apart n k call (hback n call hn) (hback k call hk)
  · intro n call hn hmem
    rw [hclosed, List.mem_append] at hmem
    rcases hmem with hmem | hmem
    · exact hgone call hmem n hn
    · exact h.pending n call (hback n call hn) hmem
  · intro n call hn
    rw [hnext]
    exact h.known n call (hback n call hn)
  · intro call hmem
    rw [hclosed, List.mem_append] at hmem
    rw [hnext]
    rcases hmem with hmem | hmem
    · obtain ⟨n, hn⟩ := hheld call hmem
      exact h.known n call hn
    · exact h.known_closed call hmem

theorem Distinct.congr (h : w.Distinct) (slots : w'.slots = w.slots)
    (results : w'.results = w.results) (nextCall : w'.nextCall = w.nextCall) : w'.Distinct := by
  have hclosed : w'.closed = [] ++ w.closed := by
    rw [Watch.closed, results]
    rfl
  refine h.shrink hclosed nextCall .nil (by simp) (by simp) ?_
  intro n s' hs'
  rw [slot?, slots] at hs'
  exact ⟨s', hs', .refl _⟩

theorem Distinct.enqueue (h : w.Distinct) {n₀ : NetworkId} {s₀ : Slot}
    (h₀ : w.slot? n₀ = some s₀) :
    Distinct { w.modify n₀ (·.enqueue w.nextCall) with nextCall := w.nextCall + 1 } := by
  have hslot : ∀ n s', (w.modify n₀ (·.enqueue w.nextCall)).slot? n = some s' →
      ∃ s, w.slot? n = some s ∧
        s'.calls = s.calls ++ (if n = n₀ then some w.nextCall else none).toList := by
    intro n s' hs'
    rw [slot?_modify (·.enqueue w.nextCall) (fun _ _ h => h) n] at hs'
    by_cases hn : n = n₀
    · subst hn
      rw [if_pos rfl, h₀, Option.map_some] at hs'
      cases hs'
      exact ⟨s₀, h₀, by simp [Slot.calls_enqueue]⟩
    · rw [if_neg hn] at hs'
      exact ⟨s', hs', by simp [hn]⟩
  have hnew : ∀ n call, (if n = n₀ then some w.nextCall else none) = some call →
      n = n₀ ∧ call = w.nextCall := by
    intro n call hcall
    split at hcall
    · rename_i hn
      exact ⟨hn, (Option.some.inj hcall).symm⟩
    · cases hcall
  refine h.grow rfl (Nat.le_succ _) (fun n => if n = n₀ then some w.nextCall else none)
    ?_ ?_ ?_ hslot
  · exact fun n call hcall => Nat.le_of_eq (hnew n call hcall).2.symm
  · intro n call _ hcall
    rw [(hnew n call hcall).2]
    exact Nat.lt_succ_self _
  · exact fun n k call _ hn hk => (hnew n call hn).1.trans (hnew k call hk).1.symm

theorem Distinct.wake (h : w.Distinct) : w.wake.Distinct := by
  have hslot : ∀ n s', w.wake.slot? n = some s' →
      ∃ s, w.slot? n = some s ∧
        s'.calls = s.calls ++ (some (w.nextCall + w.networks.idxOf n)).toList := by
    intro n s' hs'
    rw [slot?_wake] at hs'
    obtain ⟨s, hs, rfl⟩ := Option.map_eq_some_iff.mp hs'
    exact ⟨s, hs, by simp [Slot.calls_enqueue]⟩
  have hmem : ∀ n call, w.wake.Holds n call → n ∈ w.networks := by
    rintro n call ⟨s', hs', _⟩
    obtain ⟨s, hs, _⟩ := hslot n s' hs'
    exact List.mem_map.mpr ⟨s, mem_of_slot? hs, network_of_slot? hs⟩
  refine h.grow rfl (Nat.le_add_right _ _) (fun n => some (w.nextCall + w.networks.idxOf n))
    ?_ ?_ ?_ hslot
  · intro n call hcall
    cases hcall
    exact Nat.le_add_right _ _
  · intro n call hn hcall
    cases hcall
    have hlt := List.idxOf_lt_length_of_mem (hmem n _ hn)
    simp only [networks, List.length_map] at hlt
    exact Nat.add_lt_add_left hlt _
  · intro n k call hn hcall hk
    cases hcall
    have heq := Nat.add_left_cancel (Option.some.inj hk)
    exact (List.idxOf_inj (hmem n _ hn)).mp heq.symm

theorem Distinct.abandon (h : w.Distinct) (n₀ : NetworkId) (call₀ : CallId) :
    (w.abandon n₀ call₀).Distinct := by
  have hclosed : (w.abandon n₀ call₀).closed = [] ++ w.closed := rfl
  refine h.shrink hclosed rfl .nil (by simp) (by simp) ?_
  intro n s' hs'
  rw [Watch.abandon, slot?_modify (·.abandon call₀) (fun _ _ h => h) n] at hs'
  split at hs'
  · rename_i hn
    obtain ⟨s, hs, rfl⟩ := Option.map_eq_some_iff.mp hs'
    rw [Slot.calls_abandon]
    exact ⟨s, hn ▸ hs, List.filter_sublist⟩
  · exact ⟨s', hs', .refl _⟩

theorem Distinct.turn (h : w.Distinct) {probe : Prober} {limit now : Nat} {moment : Moment}
    {n₀ : NetworkId} {s₀ s₁ : Slot} {m : SlotMove} {events : List SlotEvent}
    (h₀ : w.slot? n₀ = some s₀) (ht : s₀.Turn probe limit now moment m s₁ events)
    (slots : w'.slots = (w.modify n₀ fun _ => s₁).slots)
    (results : w'.results = (events.filterMap SlotEvent.closing?).reverse ++ w.results)
    (nextCall : w'.nextCall = w.nextCall) : w'.Distinct := by
  have hcalls := ht.calls
  have hnodup := h.queues n₀ s₀ h₀
  rw [hcalls, List.nodup_append] at hnodup
  have hslot := slot?_of_turn h₀ ht slots
  have hclosed : w'.closed =
      ((events.filterMap SlotEvent.closing?).map (·.1)).reverse ++ w.closed := by
    simp only [Watch.closed, results, List.map_append, List.map_reverse]
  have hheld : ∀ call ∈ ((events.filterMap SlotEvent.closing?).map (·.1)).reverse,
      w.Holds n₀ call := fun call hcall =>
    ⟨s₀, h₀, hcalls ▸ List.mem_append_left _ (List.mem_reverse.mp hcall)⟩
  refine h.shrink hclosed nextCall (List.nodup_reverse.mpr hnodup.1)
    (fun call hcall => ⟨n₀, hheld call hcall⟩) ?_ ?_
  · rintro call hcall n ⟨s', hs', hmem⟩
    rw [hslot] at hs'
    split at hs'
    · cases hs'
      exact hnodup.2.2 call (List.mem_reverse.mp hcall) call hmem rfl
    · rename_i hn
      exact hn (h.apart n n₀ call ⟨s', hs', hmem⟩ (hheld call hcall))
  · intro n s' hs'
    rw [hslot] at hs'
    split at hs'
    · rename_i hn
      cases hs'
      exact ⟨s₀, hn ▸ h₀, hcalls ▸ List.sublist_append_right _ _⟩
    · exact ⟨s', hs', .refl _⟩

theorem new_distinct (networks : List (NetworkId × List Endpoint)) (interval : Nat) :
    (new networks interval).Distinct := by
  have hempty : ∀ n call, ¬(new networks interval).Holds n call := by
    rintro n call ⟨s, hs, hmem⟩
    obtain ⟨p, _, rfl⟩ := List.mem_map.mp (mem_of_slot? hs)
    cases hmem
  refine ⟨.nil, ?_, ?_, ?_, ?_, ?_⟩
  · intro n s hs
    obtain ⟨p, _, rfl⟩ := List.mem_map.mp (mem_of_slot? hs)
    exact .nil
  · exact fun n _ call hn => absurd hn (hempty n call)
  · exact fun n call hn => absurd hn (hempty n call)
  · exact fun n call hn => absurd hn (hempty n call)
  · intro call hmem
    cases hmem

end Watch

namespace Relay

variable {env : Surroundings} {r : Relay} {a : Action} {w : Watch} {n : NetworkId}

theorem Change.distinct (h : Change env r a w) (hd : r.watch.Distinct) : w.Distinct := by
  cases h with
  | quiet slots results nextCall => exact hd.congr slots results nextCall
  | enqueue hs => exact hd.enqueue hs
  | wake => exact hd.wake
  | abandon n call => exact hd.abandon n call
  | turn hs ht slots results nextCall => exact hd.turn hs ht slots results nextCall

theorem Reachable.distinct {c : Config} {registry : Registry} (hr : Reachable c registry r) :
    r.watch.Distinct :=
  hr.keeps (fun _ => Watch.new_distinct _ _) fun r s h _ => (act_watch s.env r s.action).distinct h

theorem result?_of_holds {c : Config} {registry : Registry} {call : CallId}
    (hr : Reachable c registry r) (h : r.watch.Holds n call) : r.watch.result? call = none := by
  cases hresult : r.watch.result? call with
  | none => rfl
  | some result =>
    have hmem := Watch.mem_of_result? hresult
    exact absurd (List.mem_map_of_mem hmem) (hr.distinct.pending n call h)

end Relay

end RankedRelay
