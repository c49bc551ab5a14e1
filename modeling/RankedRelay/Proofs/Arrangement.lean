import Mathlib.Data.List.Sort
import RankedRelay.Proofs.Ranking

namespace RankedRelay

abbrev Entry := Outcome × Nat

namespace Entry

/-- Whether the first of two entries comes first: a success before a failure, of two successes the
faster one, and otherwise the one that came first in the list. -/
def Precedes (a b : Entry) : Prop :=
  match a.1.2, b.1.2 with
  | .ok x, .ok y => x.nanos < y.nanos ∨ x.nanos = y.nanos ∧ a.2 < b.2
  | .ok _, .error _ => True
  | .error _, .ok _ => False
  | .error _, .error _ => a.2 < b.2

variable {a b : Entry} {es : List Entry} {moment : Moment}

theorem Precedes.asymm (hab : a.Precedes b) (hba : b.Precedes a) : False := by
  obtain ⟨⟨e, x⟩, i⟩ := a
  obtain ⟨⟨f, y⟩, j⟩ := b
  cases x <;> cases y <;> simp only [Precedes] at hab hba <;> omega

def record (moment : Moment) (a : Entry) : Record := Record.ofOutcome moment a.1

theorem precedes_of_healthy (moment : Moment) (ha : (a.record moment).healthy = true)
    (hb : (b.record moment).healthy = true)
    (hle : (a.record moment).nanos ≤ (b.record moment).nanos)
    (htie : (a.record moment).nanos = (b.record moment).nanos → a.2 < b.2) : a.Precedes b := by
  obtain ⟨⟨e, x⟩, i⟩ := a
  obtain ⟨⟨f, y⟩, j⟩ := b
  cases x with
  | error err => cases ha
  | ok x =>
    cases y with
    | error err => cases hb
    | ok y =>
      have hx : (record moment ((e, .ok x), i)).nanos = x.nanos := rfl
      have hy : (record moment ((f, .ok y), j)).nanos = y.nanos := rfl
      rw [hx, hy] at hle htie
      by_cases heq : x.nanos = y.nanos
      · exact .inr ⟨heq, htie heq⟩
      · exact .inl (by omega)

theorem precedes_of_unhealthy (moment : Moment) (ha : (a.record moment).healthy = false)
    (hb : (b.record moment).healthy = false) (hlt : a.2 < b.2) : a.Precedes b := by
  obtain ⟨⟨e, x⟩, i⟩ := a
  obtain ⟨⟨f, y⟩, j⟩ := b
  cases x with
  | ok x => cases ha
  | error err =>
    cases y with
    | ok y => cases hb
    | error err' => exact hlt

theorem precedes_of_healthy_unhealthy (moment : Moment) (ha : (a.record moment).healthy = true)
    (hb : (b.record moment).healthy = false) : a.Precedes b := by
  obtain ⟨⟨e, x⟩, i⟩ := a
  obtain ⟨⟨f, y⟩, j⟩ := b
  cases x with
  | error err => cases ha
  | ok x =>
    cases y with
    | ok y => cases hb
    | error err => trivial

def arranged (moment : Moment) (es : List Entry) : List Entry :=
  sortBy (fun a => (a.record moment).nanos) (es.filter fun a => (a.record moment).healthy) ++
    es.filter (fun a => !(a.record moment).healthy)

theorem arranged_perm : (arranged moment es).Perm es :=
  ((sortBy_perm _ _).append_right _).trans (List.filter_append_perm _ _)

theorem arranged_pairwise (h : es.Pairwise (fun a b => a.2 < b.2)) :
    (arranged moment es).Pairwise Precedes := by
  rw [arranged, List.pairwise_append]
  refine ⟨?_, ?_, ?_⟩
  · rw [List.pairwise_iff_forall_sublist]
    intro a b hab
    have hhealthy : ∀ c ∈ [a, b], (c.record moment).healthy = true := fun c hc =>
      (List.mem_filter.mp (mem_sortBy.mp (hab.subset hc))).2
    apply precedes_of_healthy moment (hhealthy a (by simp)) (hhealthy b (by simp))
    · have hsorted := sortBy_pairwise (fun a => (record moment a).nanos)
        (es.filter fun a => (a.record moment).healthy)
      exact List.pairwise_iff_forall_sublist.mp hsorted hab
    · intro htie
      have hsub := (sublist_of_sortBy hab htie).trans List.filter_sublist
      exact List.pairwise_iff_forall_sublist.mp h hsub
  · rw [List.pairwise_filter]
    refine h.imp fun hlt ha hb => ?_
    apply precedes_of_unhealthy moment _ _ hlt
    · simpa using ha
    · simpa using hb
  · intro a ha b hb
    apply precedes_of_healthy_unhealthy moment
    · exact (List.mem_filter.mp (mem_sortBy.mp ha)).2
    · simpa using (List.mem_filter.mp hb).2

end Entry

/-- Whether a list of entries is an arrangement of the outcomes in which each entry precedes all
that come behind it. -/
structure Arranges (os : List Outcome) (es : List Entry) : Prop where
  entries : es.Perm os.zipIdx
  order : es.Pairwise Entry.Precedes

/-- Two entries never precede each other, so the order of an arrangement is fixed by what it
arranges. -/
theorem Arranges.unique {os : List Outcome} {es fs : List Entry} (hes : Arranges os es)
    (hfs : Arranges os fs) : es = fs :=
  (hes.entries.trans hfs.entries.symm).eq_of_pairwise
    (fun _ _ _ _ hab hba => (hab.asymm hba).elim) hes.order hfs.order

/-- What the record of an outcome says: it names the outcome's endpoint, has the latency of a
success or the kind of a failure, and the moment of the round. -/
structure Record.Describes (moment : Moment) (o : Outcome) (r : Record) : Prop where
  endpoint : r.endpoint = o.1
  latency : ∀ x, r.latency = some x ↔ o.2 = .ok x
  failure : ∀ kind, r.failure = some kind ↔ ∃ err, o.2 = .error err ∧ kind = err.kind
  healthy : r.healthy = true ↔ ∃ x, o.2 = .ok x
  probedAt : r.probedAt = some moment

namespace Ranking

variable {os : List Outcome} {es : List Entry} {n : NetworkId} {moment : Moment} {round : Nat}

theorem zipIdx_pairwise (os : List Outcome) : os.zipIdx.Pairwise (fun a b => a.2 < b.2) := by
  rw [List.pairwise_iff_getElem]
  intro i j hi hj hij
  simpa only [List.getElem_zipIdx, Nat.zero_add] using hij

theorem arranges_arranged (moment : Moment) (os : List Outcome) :
    Arranges os (Entry.arranged moment os.zipIdx) :=
  ⟨Entry.arranged_perm, Entry.arranged_pairwise (zipIdx_pairwise os)⟩

theorem map_record_arranged :
    (Entry.arranged moment os.zipIdx).map (Entry.record moment) =
      (ofOutcomes n os moment round).records := by
  have hzip : os.zipIdx.map (Entry.record moment) = os.map (Record.ofOutcome moment) := by
    have h : Entry.record moment = Record.ofOutcome moment ∘ Prod.fst := rfl
    rw [h, ← List.map_map, List.zipIdx_map_fst]
  have hsort : ∀ fs : List Entry,
      (sortBy (fun a => (a.record moment).nanos) fs).map (Entry.record moment) =
        Record.sort (fs.map (Entry.record moment)) := fun _ =>
    List.map_mergeSort fun _ _ _ _ => rfl
  rw [Entry.arranged, List.map_append, hsort, ofOutcomes, ← hzip, List.filter_map,
    List.filter_map]
  rfl

theorem ofOutcome_describes (moment : Moment) (o : Outcome) :
    (Record.ofOutcome moment o).Describes moment o := by
  obtain ⟨e, outcome⟩ := o
  cases outcome with
  | ok x =>
    refine ⟨rfl, ?_, ?_, ?_, rfl⟩ <;> simp [Record.ofOutcome]
  | error err =>
    refine ⟨rfl, ?_, ?_, ?_, rfl⟩ <;> simp [Record.ofOutcome, eq_comm]

theorem healthyCount_ofOutcomes :
    (ofOutcomes n os moment round).healthyCount = os.countP (·.2.isOk) := by
  have hperm : (ofOutcomes n os moment round).records.Perm (os.map (Record.ofOutcome moment)) :=
    ofOutcomes_records_perm
  rw [healthyCount, ← List.countP_eq_length_filter, hperm.countP_eq, List.countP_map]
  congr 1
  funext o
  obtain ⟨e, outcome⟩ := o
  cases outcome <;> rfl

/-- A ranking is the one arrangement of the outcomes in which the successes come first, the faster
ones before the slower ones, and which otherwise keeps their order; each record says what its own
outcome was. -/
theorem ofOutcomes_arranges (n : NetworkId) (os : List Outcome) (moment : Moment) (round : Nat) :
    ∃ es, Arranges os es ∧ (∀ fs, Arranges os fs → fs = es) ∧ (es.map Prod.fst).Perm os ∧
      List.Forall₂ (fun a r => Record.Describes moment a.1 r) es
        (ofOutcomes n os moment round).records ∧
      (ofOutcomes n os moment round).network = n ∧
      (ofOutcomes n os moment round).round = round ∧
      (ofOutcomes n os moment round).refreshedAt = some moment ∧
      (ofOutcomes n os moment round).healthyCount = os.countP (·.2.isOk) := by
  have harranges : Arranges os (Entry.arranged moment os.zipIdx) := arranges_arranged moment os
  refine ⟨_, harranges, fun fs hfs => hfs.unique harranges, ?_, ?_, rfl, rfl, rfl,
    healthyCount_ofOutcomes⟩
  · have hfst := harranges.entries.map Prod.fst
    rwa [List.zipIdx_map_fst] at hfst
  · rw [← map_record_arranged, List.forall₂_map_right_iff, List.forall₂_same]
    exact fun a _ => ofOutcome_describes moment a.1

end Ranking

end RankedRelay
