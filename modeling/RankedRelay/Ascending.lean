namespace RankedRelay

variable {κ α : Type} [LT κ] [DecidableLT κ] [DecidableEq κ]

/-- Inserts by key into an ascending list; an entry of the same key is replaced. -/
def insertSorted (key : κ) (v : α) : List (κ × α) → List (κ × α)
  | [] => [(key, v)]
  | (k, w) :: rest =>
    if key < k then (key, v) :: (k, w) :: rest
    else if key = k then (key, v) :: rest
    else (k, w) :: insertSorted key v rest

/-- Entries put together, each in place of an earlier one of the same key. -/
def collect (l : List (κ × α)) : List (κ × α) :=
  l.foldl (fun done p => insertSorted p.1 p.2 done) []

variable {key : κ} {v : α} {p : κ × α} {l : List (κ × α)}

theorem mem_of_mem_insertSorted (h : p ∈ insertSorted key v l) : p = (key, v) ∨ p ∈ l := by
  induction l with
  | nil => exact .inl (by simpa [insertSorted] using h)
  | cons q rest ih =>
    obtain ⟨k, w⟩ := q
    simp only [insertSorted] at h
    split at h
    · simpa using h
    · split at h
      · rcases List.mem_cons.mp h with h | h
        · exact .inl h
        · exact .inr (List.mem_cons_of_mem _ h)
      · rcases List.mem_cons.mp h with h | h
        · exact .inr (h ▸ List.mem_cons_self)
        · exact (ih h).imp_right (List.mem_cons_of_mem _)

theorem insertSorted_pairwise (htrans : ∀ a b c : κ, a < b → b < c → a < c)
    (htotal : ∀ a b : κ, ¬a < b → a ≠ b → b < a) (h : l.Pairwise (fun p q => p.1 < q.1)) :
    (insertSorted key v l).Pairwise (fun p q => p.1 < q.1) := by
  induction l with
  | nil => simp [insertSorted]
  | cons q rest ih =>
    obtain ⟨k, w⟩ := q
    obtain ⟨hk, hrest⟩ := List.pairwise_cons.mp h
    simp only [insertSorted]
    split
    · rename_i hlt
      refine List.pairwise_cons.mpr ⟨fun a ha => ?_, h⟩
      rcases List.mem_cons.mp ha with rfl | ha
      · exact hlt
      · exact htrans _ _ _ hlt (hk a ha)
    · rename_i hlt
      split
      · rename_i heq
        subst heq
        exact List.pairwise_cons.mpr ⟨hk, hrest⟩
      · rename_i hne
        refine List.pairwise_cons.mpr ⟨fun a ha => ?_, ih hrest⟩
        rcases mem_of_mem_insertSorted ha with rfl | ha
        · exact htotal _ _ hlt hne
        · exact hk a ha

theorem mem_keys_insertSorted {k : κ} :
    k ∈ (insertSorted key v l).map (·.1) ↔ k = key ∨ k ∈ l.map (·.1) := by
  induction l with
  | nil => simp [insertSorted]
  | cons q rest ih =>
    obtain ⟨k', w⟩ := q
    simp only [insertSorted]
    split
    · simp
    · split
      · rename_i heq
        simp [heq]
      · simp only [List.map_cons, List.mem_cons, ih]
        exact or_left_comm

theorem find?_insertSorted {k : κ} : (insertSorted key v l).find? (·.1 == k) =
    if k = key then some (key, v) else l.find? (·.1 == k) := by
  induction l with
  | nil =>
    by_cases hk : key = k
    · simp [insertSorted, hk]
    · simp [insertSorted, hk, Ne.symm hk]
  | cons q rest ih =>
    obtain ⟨k', w⟩ := q
    simp only [insertSorted]
    split
    · by_cases hk : key = k
      · simp [hk]
      · simp [hk, Ne.symm hk]
    · split
      · rename_i heq
        by_cases hk : key = k
        · simp [hk]
        · simp [← heq, hk, Ne.symm hk]
      · rename_i hne
        by_cases hk : k' = k
        · subst hk
          simp [Ne.symm hne]
        · simp [hk, ih]

theorem collect_pairwise (htrans : ∀ a b c : κ, a < b → b < c → a < c)
    (htotal : ∀ a b : κ, ¬a < b → a ≠ b → b < a) (l : List (κ × α)) :
    (collect l).Pairwise (fun p q => p.1 < q.1) := by
  suffices hall : ∀ done : List (κ × α), done.Pairwise (fun p q => p.1 < q.1) →
      (l.foldl (fun done p => insertSorted p.1 p.2 done) done).Pairwise (fun p q => p.1 < q.1) from
    hall [] .nil
  induction l with
  | nil => exact fun done hdone => hdone
  | cons p rest ih => exact fun done hdone => ih _ (insertSorted_pairwise htrans htotal hdone)

/-- The last entry of a key is the one that is found. -/
theorem find?_collect (l : List (κ × α)) (k : κ) :
    (collect l).find? (·.1 == k) = l.reverse.find? (·.1 == k) := by
  suffices hall : ∀ done : List (κ × α),
      (l.foldl (fun done p => insertSorted p.1 p.2 done) done).find? (·.1 == k) =
        (l.reverse ++ done).find? (·.1 == k) by
    rw [collect, hall, List.append_nil]
  induction l with
  | nil => exact fun done => rfl
  | cons p rest ih =>
    intro done
    rw [List.foldl_cons, ih, List.reverse_cons, List.append_assoc, List.find?_append,
      List.find?_append, find?_insertSorted, List.singleton_append, List.find?_cons]
    by_cases h : p.1 = k
    · rw [if_pos h.symm, beq_iff_eq.mpr h]
    · rw [if_neg (Ne.symm h), beq_eq_false_iff_ne.mpr h]

theorem insertSorted_append (hasymm : ∀ a b : κ, a < b → ¬b < a) (h : ∀ p ∈ l, p.1 < key) :
    insertSorted key v l = l ++ [(key, v)] := by
  induction l with
  | nil => rfl
  | cons p rest ih =>
    obtain ⟨hp, hrest⟩ := List.forall_mem_cons.mp h
    have hne : key ≠ p.1 := by
      rintro rfl
      exact hasymm _ _ hp hp
    rw [insertSorted, if_neg (hasymm _ _ hp), if_neg hne, ih hrest, List.cons_append]

theorem collect_of_pairwise (hasymm : ∀ a b : κ, a < b → ¬b < a)
    (h : l.Pairwise fun p q => p.1 < q.1) : collect l = l := by
  suffices hall : ∀ done : List (κ × α), (done ++ l).Pairwise (fun p q => p.1 < q.1) →
      l.foldl (fun done p => insertSorted p.1 p.2 done) done = done ++ l from
    hall [] h
  clear h
  induction l with
  | nil => exact fun done _ => (List.append_nil done).symm
  | cons p rest ih =>
    intro done hdone
    have hbefore : ∀ q ∈ done, q.1 < p.1 := fun q hq =>
      (List.pairwise_append.mp hdone).2.2 q hq p List.mem_cons_self
    rw [List.append_cons] at hdone ⊢
    rw [List.foldl_cons, insertSorted_append hasymm hbefore, ih _ hdone]

end RankedRelay
