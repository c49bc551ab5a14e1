import RankedRelay.Ranking

namespace RankedRelay

section SortBy

variable {α : Type} {key : α → Nat} {a b : α} {xs : List α}

/-- The entries of a list by a number that each of them has; equal ones stay in order. -/
def sortBy (key : α → Nat) (xs : List α) : List α := xs.mergeSort fun a b => key a ≤ key b

theorem key_le_trans (a b c : α) (hab : decide (key a ≤ key b) = true)
    (hbc : decide (key b ≤ key c) = true) : decide (key a ≤ key c) = true := by
  simp only [decide_eq_true_eq] at *
  exact Nat.le_trans hab hbc

theorem key_le_total (a b : α) :
    (decide (key a ≤ key b) || decide (key b ≤ key a)) = true := by
  simpa using Nat.le_total (key a) (key b)

theorem sortBy_perm (key : α → Nat) (xs : List α) : (sortBy key xs).Perm xs :=
  List.mergeSort_perm _ _

theorem mem_sortBy : a ∈ sortBy key xs ↔ a ∈ xs := List.mem_mergeSort

theorem sortBy_pairwise (key : α → Nat) (xs : List α) :
    (sortBy key xs).Pairwise (fun a b => key a ≤ key b) :=
  (List.pairwise_mergeSort key_le_trans key_le_total xs).imp of_decide_eq_true

theorem filter_sortBy (key : α → Nat) (xs : List α) (n : Nat) :
    (sortBy key xs).filter (key · = n) = xs.filter (key · = n) := by
  have hsorted : (xs.filter (key · = n)).Pairwise (fun a b => decide (key a ≤ key b)) := by
    rw [List.pairwise_filter]
    refine List.pairwise_of_forall fun a b ha hb => ?_
    simp only [decide_eq_true_eq] at *
    omega
  have hsub : (xs.filter (key · = n)).Sublist (sortBy key xs) :=
    List.sublist_mergeSort key_le_trans key_le_total hsorted List.filter_sublist
  -- A sublist that is as long as the list is the list.
  have hsub' := hsub.filter (key · = n)
  rw [List.filter_filter] at hsub'
  simp only [Bool.and_self] at hsub'
  exact (hsub'.eq_of_length ((sortBy_perm key xs).filter _).length_eq.symm).symm

theorem sublist_of_sortBy (h : [a, b].Sublist (sortBy key xs)) (hab : key a = key b) :
    [a, b].Sublist xs := by
  have hf := h.filter (key · = key b)
  rw [filter_sortBy] at hf
  have hpair : [a, b].filter (key · = key b) = [a, b] := by simp [hab]
  rw [hpair] at hf
  exact hf.trans List.filter_sublist

end SortBy

theorem Record.sort_eq (rs : List Record) : Record.sort rs = sortBy Record.nanos rs := rfl

theorem idxOf_pairwise {es : List Endpoint} (h : es.Nodup) :
    es.Pairwise (fun a b => es.idxOf a < es.idxOf b) := by
  rw [List.pairwise_iff_getElem]
  intro i j hi hj hij
  rw [h.idxOf_getElem i hi, h.idxOf_getElem j hj]
  exact hij

/-- The faster of two records comes first, and of two that are equally fast the one that was
configured first. -/
def Record.Before (es : List Endpoint) (a b : Record) : Prop :=
  ∃ x y : Span, a.latency = some x ∧ b.latency = some y ∧
    (x.nanos < y.nanos ∨ x = y ∧ es.idxOf a.endpoint < es.idxOf b.endpoint)

namespace Ranking

/-- Whether a ranking comes from one round of probes of a network's endpoints. -/
structure OfRound (es : List Endpoint) (moment : Moment) (r : Ranking) : Prop where
  refreshedAt : r.refreshedAt = some moment
  arranged : ∃ fast slow, r.records = fast ++ slow ∧
    (∀ a ∈ fast, a.healthy = true) ∧ fast.Pairwise (Record.Before es) ∧
    (∀ a ∈ slow, a.healthy = false) ∧
    slow.Pairwise (fun a b => es.idxOf a.endpoint < es.idxOf b.endpoint)
  latency : ∀ a ∈ r.records, a.healthy = true ↔ a.latency.isSome = true
  failure : ∀ a ∈ r.records, a.healthy = true ↔ a.failure = none
  probedAt : ∀ a ∈ r.records, a.probedAt = r.refreshedAt

variable {os : List Outcome} {n : NetworkId} {moment : Moment} {round : Nat}

@[simp] theorem ofOutcome_endpoint (moment : Moment) (o : Outcome) :
    (Record.ofOutcome moment o).endpoint = o.1 := by
  obtain ⟨e, outcome⟩ := o
  cases outcome <;> rfl

theorem ofOutcomes_records_perm :
    (ofOutcomes n os moment round).records.Perm (os.map (Record.ofOutcome moment)) :=
  ((sortBy_perm Record.nanos _).append_right _).trans
    (List.filter_append_perm (·.healthy) (os.map (Record.ofOutcome moment)))

theorem mem_ofOutcomes_records {a : Record} (h : a ∈ (ofOutcomes n os moment round).records) :
    ∃ o ∈ os, Record.ofOutcome moment o = a :=
  List.mem_map.mp (ofOutcomes_records_perm.mem_iff.mp h)

theorem ofOutcomes_endpoints_perm :
    (ofOutcomes n os moment round).endpoints.Perm (os.map (·.1)) := by
  have hrecords : (ofOutcomes n os moment round).records.Perm (os.map (Record.ofOutcome moment)) :=
    ofOutcomes_records_perm
  have h := hrecords.map (·.endpoint)
  simpa only [endpoints, List.map_map, Function.comp_def, ofOutcome_endpoint] using h

theorem records_pairwise (h : (os.map (·.1)).Nodup) :
    (os.map (Record.ofOutcome moment)).Pairwise
      (fun a b => (os.map (·.1)).idxOf a.endpoint < (os.map (·.1)).idxOf b.endpoint) := by
  have hp := idxOf_pairwise h
  rw [List.pairwise_map] at hp ⊢
  simpa only [ofOutcome_endpoint] using hp

theorem ofOutcome_latency {o : Outcome} (h : (Record.ofOutcome moment o).healthy = true) :
    ∃ x : Span, (Record.ofOutcome moment o).latency = some x := by
  obtain ⟨e, outcome⟩ := o
  cases outcome with
  | ok x => exact ⟨x, rfl⟩
  | error err => cases h

theorem sorted_before (h : (os.map (·.1)).Nodup) :
    (Record.sort ((os.map (Record.ofOutcome moment)).filter (·.healthy))).Pairwise
      (Record.Before (os.map (·.1))) := by
  rw [Record.sort_eq, List.pairwise_iff_forall_sublist]
  intro a b hab
  have hle : a.nanos ≤ b.nanos :=
    List.pairwise_iff_forall_sublist.mp (sortBy_pairwise Record.nanos _) hab
  have hmem : ∀ r ∈ [a, b], ∃ x : Span, r.latency = some x := by
    intro r hr
    have hr' := List.mem_filter.mp (mem_sortBy.mp (hab.subset hr))
    obtain ⟨o, _, rfl⟩ := List.mem_map.mp hr'.1
    exact ofOutcome_latency hr'.2
  obtain ⟨x, hx⟩ := hmem a (by simp)
  obtain ⟨y, hy⟩ := hmem b (by simp)
  refine ⟨x, y, hx, hy, ?_⟩
  have hxa : a.nanos = x.nanos := by simp [Record.nanos, hx]
  have hyb : b.nanos = y.nanos := by simp [Record.nanos, hy]
  by_cases heq : a.nanos = b.nanos
  · refine .inr ⟨?_, ?_⟩
    · cases x
      cases y
      simp_all
    · have hsub := (sublist_of_sortBy hab heq).trans List.filter_sublist
      exact List.pairwise_iff_forall_sublist.mp (records_pairwise h) hsub
  · exact .inl (by omega)

theorem ofOutcomes_ofRound (h : (os.map (·.1)).Nodup) :
    (ofOutcomes n os moment round).OfRound (os.map (·.1)) moment where
  refreshedAt := rfl
  arranged := by
    refine ⟨_, _, rfl, ?_, sorted_before h, ?_, (records_pairwise h).filter _⟩
    · intro a ha
      exact (List.mem_filter.mp (mem_sortBy.mp ha)).2
    · intro a ha
      simpa using (List.mem_filter.mp ha).2
  latency := by
    intro a ha
    obtain ⟨⟨e, outcome⟩, _, rfl⟩ := mem_ofOutcomes_records ha
    cases outcome <;> simp [Record.ofOutcome]
  failure := by
    intro a ha
    obtain ⟨⟨e, outcome⟩, _, rfl⟩ := mem_ofOutcomes_records ha
    cases outcome <;> simp [Record.ofOutcome]
  probedAt := by
    intro a ha
    obtain ⟨⟨e, outcome⟩, _, rfl⟩ := mem_ofOutcomes_records ha
    cases outcome <;> rfl

end Ranking

end RankedRelay
