import RankedRelay.Proofs.Pool
import RankedRelay.Proofs.Registry
import RankedRelay.Proofs.Traffic

namespace RankedRelay

theorem perm_cons_filter {α κ : Type} [DecidableEq κ] (key : α → κ) {l : List α} {x : α}
    (h : (l.map key).Nodup) (hx : x ∈ l) : l.Perm (x :: l.filter (key · != key x)) := by
  induction l with
  | nil => cases hx
  | cons y rest ih =>
    obtain ⟨hy, hrest⟩ := List.nodup_cons.mp h
    rcases List.mem_cons.mp hx with rfl | hx
    · have hkeep : rest.filter (key · != key x) = rest := by
        refine List.filter_eq_self.mpr fun z hz => ?_
        rw [bne_iff_ne]
        exact fun heq => hy (heq ▸ List.mem_map_of_mem hz)
      rw [List.filter_cons_of_neg (by simp), hkeep]
    · have hne : key y ≠ key x := fun heq => hy (heq ▸ List.mem_map_of_mem hx)
      rw [List.filter_cons_of_pos (by simpa using hne)]
      exact ((ih hrest hx).cons y).trans (.swap x y _)

def Owner.loan? : Owner → Option LoanId
  | .pool => none
  | .loan id => some id

namespace Traffic

/-- The forwarders that are on loan, with a caller or with a request. -/
def onLoan (t : Traffic) : List Forwarder := t.loans.map (·.2) ++ t.walks.map (·.forwarder)

def loanIds (t : Traffic) : List LoanId := t.loans.map (·.1) ++ t.walks.filterMap (·.owner.loan?)

structure Tidy (t : Traffic) : Prop where
  walks : (t.walks.map (·.id)).Nodup
  loans : t.loanIds.Nodup
  known : ∀ id ∈ t.loanIds, id < t.nextLoan

/-- A forwarder is taken from where it is, from a request or from a caller. -/
inductive Taken (t : Traffic) : Forwarder → Owner → Traffic → Prop
  | walk {w : Walk} (hw : w ∈ t.walks) : Taken t w.forwarder w.owner (t.withoutWalk w.id)
  | loan {id : LoanId} {f : Forwarder} (hf : (id, f) ∈ t.loans) :
    Taken t f (.loan id) (t.withoutLoan id)

/-- A forwarder is put somewhere: a request keeps it, a caller gets it, or the pool does. -/
inductive Housed (t : Traffic) (id : RequestId) (f : Forwarder) :
    Owner → List Handover → Traffic → Prop
  | walk {w : Walk} {owner : Owner} {t' : Traffic} (number : w.id = id) (owned : w.owner = owner)
      (forwarder : w.forwarder = f) (walks : t'.walks = t.walks ++ [w]) (loans : t'.loans = t.loans)
      (pool : t'.pool = t.pool) (next : t.nextLoan ≤ t'.nextLoan) : Housed t id f owner [] t'
  | loan {k : LoanId} {t' : Traffic} (walks : t'.walks = t.walks)
      (loans : t'.loans = (k, f) :: t.loans) (pool : t'.pool = t.pool)
      (next : t.nextLoan ≤ t'.nextLoan) : Housed t id f (.loan k) [] t'
  | pool {t' : Traffic} (walks : t'.walks = t.walks) (loans : t'.loans = t.loans)
      (pool : t'.pool = t.pool.release f) (next : t.nextLoan ≤ t'.nextLoan) :
      Housed t id f .pool [.returned f] t'

variable {t t₁ t' : Traffic} {f : Forwarder} {owner : Owner} {id : RequestId} {ops : List Handover}

theorem Taken.pool (h : t.Taken f owner t₁) : t₁.pool = t.pool := by
  cases h <;> rfl

theorem Taken.perm (h : t.Taken f owner t₁) (ht : t.Tidy) :
    t.onLoan.Perm (f :: t₁.onLoan) ∧ t.loanIds.Perm (owner.loan?.toList ++ t₁.loanIds) ∧
      (t₁.walks.map (·.id)).Sublist (t.walks.map (·.id)) := by
  cases h with
  | @walk w hw =>
    have hperm := perm_cons_filter (·.id) ht.walks hw
    refine ⟨?_, ?_, List.filter_sublist.map _⟩
    · exact ((hperm.map _).append_left _).trans List.perm_middle
    · have hids : (t.walks.filterMap (·.owner.loan?)).Perm (w.owner.loan?.toList ++
          (t.withoutWalk w.id).walks.filterMap (·.owner.loan?)) := by
        refine (hperm.filterMap _).trans (.of_eq ?_)
        rw [List.filterMap_cons]
        cases w.owner.loan? <;> rfl
      exact (hids.append_left _).trans (List.perm_append_comm_assoc _ _ _)
  | @loan k f hf =>
    have hkeys : (t.loans.map (·.1)).Nodup := (List.nodup_append.mp ht.loans).1
    have hperm := perm_cons_filter (·.1) hkeys hf
    exact ⟨(hperm.map _).append_right _, (hperm.map _).append_right _, .refl _⟩

theorem Taken.tidy (h : t.Taken f owner t₁) (ht : t.Tidy) :
    t₁.Tidy ∧ ∀ k ∈ owner.loan?, k ∉ t₁.loanIds ∧ k < t₁.nextLoan := by
  obtain ⟨-, hloans, hwalks⟩ := h.perm ht
  have hnext : t₁.nextLoan = t.nextLoan := by
    cases h <;> rfl
  have hnodup := hloans.nodup_iff.mp ht.loans
  have hknown : ∀ k ∈ owner.loan?.toList ++ t₁.loanIds, k < t₁.nextLoan := fun k hk =>
    hnext ▸ ht.known k (hloans.mem_iff.mpr hk)
  refine ⟨⟨hwalks.nodup ht.walks, (List.nodup_append.mp hnodup).2.1,
    fun k hk => hknown k (List.mem_append_right _ hk)⟩, fun k hk => ⟨fun hmem => ?_, ?_⟩⟩
  · exact (List.nodup_append.mp hnodup).2.2 k (Option.mem_toList.mpr hk) k hmem rfl
  · exact hknown k (List.mem_append_left _ (Option.mem_toList.mpr hk))

theorem Housed.perm (h : t.Housed id f owner ops t') :
    t'.loanIds.Perm (owner.loan?.toList ++ t.loanIds) ∧
      (t'.walks.map (·.id)).Sublist (t.walks.map (·.id) ++ [id]) ∧ t.nextLoan ≤ t'.nextLoan := by
  cases h with
  | @walk w _ _ number owned forwarder walks loans pool next =>
    refine ⟨?_, ?_, next⟩
    · have happend : t'.loanIds = t.loanIds ++ owner.loan?.toList := by
        rw [loanIds, loanIds, walks, loans, List.filterMap_append, ← List.append_assoc, ← owned]
        cases hloan : w.owner.loan? <;> simp [hloan]
      rw [happend]
      exact List.perm_append_comm
    · rw [walks, List.map_append, List.map_singleton, number]
  | @loan k _ walks loans pool next =>
    refine ⟨.of_eq ?_, ?_, next⟩
    · rw [loanIds, walks, loans]
      rfl
    · rw [walks]
      exact List.sublist_append_left _ _
  | pool walks loans pool next =>
    refine ⟨.of_eq ?_, ?_, next⟩
    · rw [loanIds, walks, loans]
      rfl
    · rw [walks]
      exact List.sublist_append_left _ _

theorem Housed.tidy (h : t.Housed id f owner ops t') (ht : t.Tidy)
    (hid : ∀ w ∈ t.walks, w.id ≠ id) (howner : ∀ k ∈ owner.loan?, k ∉ t.loanIds ∧ k < t'.nextLoan) :
    t'.Tidy := by
  obtain ⟨hloans, hwalks, hnext⟩ := h.perm
  refine ⟨hwalks.nodup ?_, hloans.nodup_iff.mpr ?_, fun k hk => ?_⟩
  · rw [List.nodup_append]
    refine ⟨ht.walks, by simp, fun a ha b hb hab => ?_⟩
    obtain ⟨w, hw, rfl⟩ := List.mem_map.mp ha
    exact hid w hw (hab.trans (List.mem_singleton.mp hb))
  · rw [List.nodup_append]
    refine ⟨by cases owner.loan? <;> simp, ht.loans, fun a ha b hb hab => ?_⟩
    exact (howner a (Option.mem_toList.mp ha)).1 (hab ▸ hb)
  · rcases List.mem_append.mp (hloans.mem_iff.mp hk) with hk | hk
    · exact (howner k (Option.mem_toList.mp hk)).2
    · exact Nat.lt_of_lt_of_le (ht.known k hk) hnext

end Traffic

def Owner.handovers (f : Forwarder) : Owner → List Handover
  | .pool => [.returned f]
  | .loan _ => []

def Strides.handovers (s : Strides) (f : Forwarder) (owner : Owner) : List Handover :=
  match s.stand with
  | .trying _ => []
  | .done _ => owner.handovers { f with failures := s.failures }

namespace Traffic

theorem close_housed (t : Traffic) (id : RequestId) (f : Forwarder) (owner : Owner)
    (result : RequestResult) :
    t.Housed id f owner (owner.handovers f) (t.close id f owner result) := by
  cases owner with
  | pool => exact .pool rfl rfl rfl (Nat.le_refl _)
  | loan k => exact .loan rfl rfl rfl (Nat.le_refl _)

theorem settle_housed (t : Traffic) (w : Walk) (s : Strides) :
    t.Housed w.id { w.forwarder with failures := s.failures } w.owner
      (s.handovers w.forwarder w.owner) (t.settle w s) := by
  simp only [settle, Strides.handovers]
  cases s.stand with
  | trying trying =>
    let w' := { w with forwarder := { w.forwarder with failures := s.failures }, trying := trying }
    exact .walk (w := w') rfl rfl rfl rfl rfl rfl (Nat.le_refl _)
  | done result => exact close_housed _ _ _ _ _

theorem launch_housed (t : Traffic) (post : Transport) (limit now : Nat)
    (ranking : Except RequestError Ranking) (o : Order) (f : Forwarder) (owner : Owner) :
    let s := Walk.begin post limit ranking o.network o.payload now
    t.Housed t.nextRequest { f with failures := s.failures } owner (s.handovers f owner)
      (t.launch post limit now ranking o f owner).1 := by
  intro s
  simp only [launch, Strides.handovers]
  cases s.stand with
  | trying trying => exact .walk rfl rfl rfl rfl rfl rfl (Nat.le_refl _)
  | done result =>
    cases owner with
    | pool => exact .pool rfl rfl rfl (Nat.le_refl _)
    | loan k => exact .loan rfl rfl rfl (Nat.le_refl _)

end Traffic

def Action.borrows : Action → Bool
  | .acquire => true
  | .submit _ => true
  | _ => false

namespace Relay

def handovers (env : Surroundings) (r : Relay) : Action → List Handover
  | .acquire => [.lent]
  | .release loan => ((r.traffic.loan? loan).map .returned).toList
  | .submit o =>
    .lent :: (Walk.begin env.post r.settings.attemptTimeout (r.watch.ranking o.network) o.network
      o.payload r.clock).handovers r.traffic.pool.acquire.1 .pool
  | .move (.traffic (.resume id)) =>
    match r.traffic.walks.find? (·.id == id) with
    | none => []
    | some w => (Walk.resume env.post r.settings.attemptTimeout w.network w.payload r.clock w.trying
        w.forwarder.failures).handovers w.forwarder w.owner
  | .move (.traffic (.drop id)) | .drop id =>
    match r.traffic.walks.find? (·.id == id) with
    | none => []
    | some w => w.owner.handovers w.forwarder
  | _ => []

/-- What an action makes of the forwarders: nothing, one leaves the pool and goes somewhere, or one
goes from one place to another. -/
inductive Lends (t : Traffic) : List Handover → Traffic → Prop
  | quiet {t' : Traffic} (walks : t'.walks = t.walks) (loans : t'.loans = t.loans)
      (pool : t'.pool = t.pool) (next : t'.nextLoan = t.nextLoan) : Lends t [] t'
  | lent {id : RequestId} {failures : List Attempt} {owner : Owner} {ops : List Handover}
      {t' : Traffic} (hid : ∀ w ∈ t.walks, w.id ≠ id)
      (howner : ∀ k ∈ owner.loan?, k = t.nextLoan ∧ k < t'.nextLoan)
      (h : Traffic.Housed { t with pool := t.pool.acquire.2 } id
        { t.pool.acquire.1 with failures := failures } owner ops t') : Lends t (.lent :: ops) t'
  | moved {f : Forwarder} {owner owner' : Owner} {t₁ : Traffic} {id : RequestId}
      {failures : List Attempt} {ops : List Handover} {t' : Traffic} (taken : t.Taken f owner t₁)
      (hid : ∀ w ∈ t₁.walks, w.id ≠ id) (howner : ∀ k ∈ owner'.loan?, k ∈ owner.loan?)
      (h : t₁.Housed id { f with failures := failures } owner' ops t') : Lends t ops t'

variable {env : Surroundings} {r : Relay} {a : Action} {id : RequestId} {loan : LoanId}

theorem drop_lends (env : Surroundings) (r : Relay) (id : RequestId) :
    Lends r.traffic (r.handovers env (.drop id)) (r.act env (.drop id)).traffic := by
  simp only [handovers, act, apply, withTraffic, log_traffic, Traffic.apply]
  cases hw : r.traffic.walks.find? (·.id == id) with
  | none => exact .quiet rfl rfl rfl rfl
  | some w =>
    obtain rfl : w.id = id := by simpa using List.find?_some hw
    exact .moved (.walk (List.mem_of_find?_eq_some hw)) Traffic.withoutWalk_gone
      (fun _ hk => hk) (Traffic.close_housed _ _ _ _ _)

theorem act_lends (env : Surroundings) (hr : r.traffic.Known) (a : Action) :
    Lends r.traffic (r.handovers env a) (r.act env a).traffic := by
  have hfresh : ∀ w ∈ r.traffic.walks, w.id ≠ r.traffic.nextRequest := fun w hw =>
    Nat.ne_of_lt (hr.walks w hw)
  have hloan : ∀ {k f}, r.traffic.loan? k = some f → (k, f) ∈ r.traffic.loans := by
    intro k f hf
    obtain ⟨p, hp, rfl⟩ := Option.map_eq_some_iff.mp hf
    obtain rfl : p.1 = k := by simpa using List.find?_some hp
    exact List.mem_of_find?_eq_some hp
  cases a with
  | move m =>
    cases m with
    | watch m => exact .quiet rfl rfl rfl rfl
    | traffic m =>
      cases m with
      | drop id => exact drop_lends env r id
      | resume id =>
        simp only [handovers, act, apply, withTraffic, log_traffic, Traffic.apply]
        cases hw : r.traffic.walks.find? (·.id == id) with
        | none => exact .quiet rfl rfl rfl rfl
        | some w =>
          obtain rfl : w.id = id := by simpa using List.find?_some hw
          exact .moved (.walk (List.mem_of_find?_eq_some hw)) Traffic.withoutWalk_gone
            (fun _ hk => hk) (Traffic.settle_housed _ _ _)
  | drop id => exact drop_lends env r id
  | refresh n =>
    simp only [act, refresh]
    cases r.watch.request n <;> exact .quiet rfl rfl rfl rfl
  | acquire =>
    have hhoused : Traffic.Housed { r.traffic with pool := r.traffic.pool.acquire.2 }
        r.traffic.nextRequest r.traffic.pool.acquire.1 (.loan r.traffic.nextLoan) []
        (r.act env .acquire).traffic := .loan rfl rfl rfl (Nat.le_succ _)
    refine .lent hfresh (fun k hk => ?_) hhoused
    cases hk
    exact ⟨rfl, Nat.lt_succ_self _⟩
  | submit o =>
    have hhoused := Traffic.launch_housed { r.traffic with pool := r.traffic.pool.acquire.2 }
      env.post r.settings.attemptTimeout r.clock (r.watch.ranking o.network) o
      r.traffic.pool.acquire.1 .pool
    exact .lent hfresh (fun k hk => by cases hk) hhoused
  | submitOn loan o =>
    simp only [act, submitOn?, Traffic.submitOn?]
    cases hf : r.traffic.loan? loan with
    | none => exact .quiet rfl rfl rfl rfl
    | some f =>
      have hhoused := Traffic.launch_housed (r.traffic.withoutLoan loan) env.post
        r.settings.attemptTimeout r.clock (r.watch.ranking o.network) o f (.loan loan)
      have hnone : ∀ s : Strides, s.handovers f (.loan loan) = [] := by
        intro s
        rw [Strides.handovers]
        cases s.stand <;> rfl
      simp only [hnone] at hhoused
      exact .moved (.loan (hloan hf)) hfresh (fun _ hk => hk) hhoused
  | release loan =>
    simp only [handovers, act, Traffic.release?]
    cases hf : r.traffic.loan? loan with
    | none => exact .quiet rfl rfl rfl rfl
    | some f =>
      have hhoused : (r.traffic.withoutLoan loan).Housed r.traffic.nextRequest f .pool [.returned f]
          { r.traffic.withoutLoan loan with pool := r.traffic.pool.release f } :=
        .pool rfl rfl rfl (Nat.le_refl _)
      exact .moved (.loan (hloan hf)) hfresh (fun k hk => by cases hk) hhoused
  | _ => exact .quiet rfl rfl rfl rfl

theorem Lends.tidy {t t' : Traffic} {ops : List Handover} (h : Lends t ops t') (ht : t.Tidy) :
    t'.Tidy := by
  cases h with
  | quiet walks loans pool next =>
    have hids : t'.loanIds = t.loanIds := by rw [Traffic.loanIds, walks, loans, Traffic.loanIds]
    exact ⟨walks ▸ ht.walks, hids ▸ ht.loans, by rw [hids, next]; exact ht.known⟩
  | lent hid howner h =>
    refine h.tidy ⟨ht.walks, ht.loans, ht.known⟩ hid fun k hk => ?_
    obtain ⟨rfl, hlt⟩ := howner k hk
    exact ⟨fun hmem => Nat.lt_irrefl _ (ht.known _ hmem), hlt⟩
  | moved taken hid howner h =>
    obtain ⟨ht₁, hfree⟩ := taken.tidy ht
    refine h.tidy ht₁ hid fun k hk => ?_
    obtain ⟨hnew, hlt⟩ := hfree k (howner k hk)
    exact ⟨hnew, Nat.lt_of_lt_of_le hlt h.perm.2.2⟩

theorem Reachable.tidy {c : Config} {registry : Registry} (hr : Reachable c registry r) :
    r.traffic.Tidy := by
  have hboth := hr.keeps (P := fun r => r.traffic.Known ∧ r.traffic.Tidy)
    (fun _ => ⟨⟨by simp [new, Traffic.new], by simp [new, Traffic.new]⟩, .nil, .nil,
      by simp [new, Traffic.new, Traffic.loanIds]⟩)
    fun r s h _ => ⟨(act_known s.env h.1).1, (act_lends s.env h.1 s.action).tidy h.2⟩
  exact hboth.2

end Relay

/-- Whether the books fit: the pool is the one there is, and those on loan are out. -/
structure Ledger.Fits (l : Ledger) (t : Traffic) : Prop where
  balanced : l.Balanced
  pool : l.pool = t.pool
  onLoan : l.onLoan.Perm (t.onLoan.map (·.serial))

/-- The books fit again when a forwarder that was taken has been put somewhere. -/
theorem Traffic.Housed.fits {t t' : Traffic} {id : RequestId} {f : Forwarder} {owner : Owner}
    {ops : List Handover} {l : Ledger} (h : t.Housed id f owner ops t') (hl : l.Balanced)
    (hpool : l.pool = t.pool) (hloan : l.onLoan.Perm (f.serial :: t.onLoan.map (·.serial))) :
    (l.enterAll ops).Fits t' := by
  cases h with
  | walk number owned forwarder walks loans pool next =>
    refine ⟨hl, hpool.trans pool.symm, hloan.trans ?_⟩
    rw [onLoan, onLoan, walks, loans, ← forwarder, List.map_append, List.map_append,
      List.map_append, List.map_append, ← List.append_assoc]
    exact List.perm_append_singleton _ _ |>.symm
  | loan walks loans pool next =>
    refine ⟨hl, hpool.trans pool.symm, hloan.trans (.of_eq ?_)⟩
    rw [onLoan, onLoan, walks, loans]
    rfl
  | pool walks loans pool next =>
    refine ⟨hl.takeBack (hloan.mem_iff.mpr List.mem_cons_self), ?_, ?_⟩
    · rw [pool, ← hpool]
      rfl
    · have herase := hloan.erase f.serial
      rw [List.erase_cons_head] at herase
      rw [onLoan, walks, loans]
      exact herase

namespace Relay

theorem Lends.fits {t t' : Traffic} {ops : List Handover} {l : Ledger} (h : Lends t ops t')
    (ht : t.Tidy) (hl : l.Fits t) : (l.enterAll ops).Fits t' := by
  cases h with
  | quiet walks loans pool next =>
    refine ⟨hl.balanced, hl.pool.trans pool.symm, ?_⟩
    rw [Traffic.onLoan, walks, loans]
    exact hl.onLoan
  | lent hid howner h =>
    refine h.fits (l := l.enter .lent) hl.balanced.lend ?_ ?_
    · show l.pool.acquire.2 = t.pool.acquire.2
      rw [hl.pool]
    · show (l.pool.acquire.1.serial :: l.onLoan).Perm _
      rw [hl.pool]
      exact hl.onLoan.cons _
  | moved taken hid howner h =>
    exact h.fits hl.balanced (hl.pool.trans taken.pool.symm)
      (hl.onLoan.trans ((taken.perm ht).1.map _))

/-- The books after some steps, given those before. -/
def ledger (l : Ledger) (r : Relay) : List Step → Ledger
  | [] => l
  | s :: rest => (r.act s.env s.action).ledger (l.enterAll (r.handovers s.env s.action)) rest

theorem ledger_fits {urgent : Move → Prop} {r₁ r₂ : Relay} {steps : List Step} {l : Ledger}
    (hrun : Run urgent r₁ steps r₂) (hknown : r₁.traffic.Known) (htidy : r₁.traffic.Tidy)
    (hl : l.Fits r₁.traffic) : (r₁.ledger l steps).Fits r₂.traffic := by
  induction hrun generalizing l with
  | nil => exact hl
  | @cons r _ s _ _ _ ih =>
    have hlends := act_lends s.env hknown s.action
    exact ih (act_known s.env hknown).1 (hlends.tidy htidy) (hlends.fits htidy hl)

theorem ledger_maxIdle (l : Ledger) (r : Relay) (steps : List Step) :
    (r.ledger l steps).pool.maxIdle = l.pool.maxIdle := by
  induction steps generalizing l r with
  | nil => rfl
  | cons s rest ih => exact (ih _ _).trans (Ledger.enterAll_maxIdle _ _)

theorem countP_handovers (env : Surroundings) (r : Relay) (a : Action) :
    (r.handovers env a).countP (·.isLent) = if a.borrows then 1 else 0 := by
  have hback : ∀ (f : Forwarder) (owner : Owner),
      (owner.handovers f).countP (·.isLent) = 0 := by
    intro f owner
    cases owner <;> rfl
  have hstrides : ∀ (s : Strides) (f : Forwarder) (owner : Owner),
      (s.handovers f owner).countP (·.isLent) = 0 := by
    intro s f owner
    rw [Strides.handovers]
    cases s.stand with
    | trying t => rfl
    | done result => exact hback _ owner
  cases a with
  | move m =>
    cases m with
    | watch m => rfl
    | traffic m =>
      cases m <;> simp only [handovers] <;> split
      · rfl
      · exact hstrides _ _ _
      · rfl
      · exact hback _ _
  | drop id =>
    simp only [handovers]
    split
    · rfl
    · exact hback _ _
  | submit o =>
    simp only [handovers, Action.borrows, if_true]
    rw [List.countP_cons_of_pos rfl, hstrides]
  | release loan =>
    simp only [handovers]
    cases r.traffic.loan? loan <;> rfl
  | _ => rfl

theorem ledger_lent (l : Ledger) (r : Relay) (steps : List Step) :
    (r.ledger l steps).lent = l.lent + steps.countP (·.action.borrows) := by
  induction steps generalizing l r with
  | nil => rfl
  | cons s rest ih =>
    rw [ledger, ih, Ledger.enterAll_lent, countP_handovers, List.countP_cons, Nat.add_assoc,
      Nat.add_comm (List.countP _ rest)]

theorem ledger_new_fits {urgent : Move → Prop} {c : Config} {registry : Registry} {epoch : Moment}
    {steps : List Step} (hrun : Run urgent (.new c registry epoch) steps r) :
    ((Relay.new c registry epoch).ledger (.new c.maxIdleForwarders.toNat) steps).Fits
      r.traffic := by
  have hr : Reachable c registry (.new c registry epoch) := ⟨epoch, [], .nil _⟩
  exact ledger_fits hrun hr.known hr.tidy ⟨Ledger.new_balanced _, rfl, .refl _⟩

/-- However callers and requests borrow forwarders, and however they give them back or lose them:
no more are idle than may be, all idle ones are clean, and each that was ever built is idle, on loan
or was discarded, in one place only. None is discarded, and no more are built than were on loan at
one time, as long as these never are more than may be idle. -/
theorem forwarders_conserved {urgent : Move → Prop} {c : Config} {registry : Registry}
    {epoch : Moment} {steps : List Step} (hrun : Run urgent (.new c registry epoch) steps r) :
    let maxIdle := c.maxIdleForwarders.toNat
    let books := (Relay.new c registry epoch).ledger (.new maxIdle) steps
    let t := r.traffic
    (books.pool = t.pool ∧ books.onLoan.Perm (t.onLoan.map (·.serial))) ∧
    t.pool.idle.length ≤ maxIdle ∧
    t.pool.created + t.pool.reused = steps.countP (·.action.borrows) ∧
    t.pool.created = t.pool.idle.length + t.onLoan.length + books.discarded ∧
    (∀ f ∈ t.pool.idle, f.failures = []) ∧
    ((t.pool.idle ++ t.onLoan).map (·.serial)).Nodup ∧
    (books.peak ≤ maxIdle → books.discarded = 0 ∧ t.pool.created = books.peak) := by
  intro maxIdle books t
  have hfits : books.Fits t := ledger_new_fits hrun
  have hmax : t.pool.maxIdle = maxIdle := by
    rw [← hfits.pool]
    exact ledger_maxIdle _ _ _
  have hlent : books.lent = steps.countP (·.action.borrows) :=
    (ledger_lent _ _ _).trans (Nat.zero_add _)
  obtain ⟨hbounded, hborrowed, hconserved, hclean, hdistinct, -, hfrugal⟩ := hfits.balanced
  rw [hfits.pool] at hbounded hborrowed hconserved hclean hdistinct hfrugal
  rw [hfits.onLoan.length_eq, List.length_map] at hconserved
  refine ⟨⟨hfits.pool, hfits.onLoan⟩, hmax ▸ hbounded, hborrowed.trans hlent, hconserved, hclean,
    ?_, hmax ▸ hfrugal⟩
  rw [List.map_append]
  exact ((hfits.onLoan.append_left _).nodup_iff).mp hdistinct

def surplus : List Step :=
  let hanging : Surroundings := ⟨fun _ _ _ _ => .silent, fun _ _ => .silent⟩
  [⟨hanging, .acquire⟩, ⟨hanging, .submit ⟨⟨1⟩, [], none⟩⟩, ⟨hanging, .drop 0⟩,
    ⟨hanging, .release 0⟩]

theorem forwarders_conserved_surplus :
    ∃ (r : Relay) (books : Ledger), r.traffic.pool = ⟨1, [⟨1, []⟩], 2, 0⟩ ∧ books.peak = 2 ∧
      r.traffic.pool.created + r.traffic.pool.reused = surplus.countP (·.action.borrows) ∧
      r.traffic.pool.created =
        r.traffic.pool.idle.length + r.traffic.onLoan.length + books.discarded ∧
      books.discarded = 1 := by
  let c := { Config.withNetworks [] with maxIdleForwarders := 1 }
  let r₀ := Relay.new c .loopback ⟨0, 0⟩
  have hrun : Run (fun _ => False) r₀ surplus (r₀.after surplus) := run_after (by decide +kernel)
  obtain ⟨-, -, hborrowed, hconserved, -⟩ := forwarders_conserved hrun
  exact ⟨r₀.after surplus, r₀.ledger (.new 1) surplus, by decide +kernel, by decide +kernel,
    hborrowed, hconserved, by decide +kernel⟩

end Relay

end RankedRelay
