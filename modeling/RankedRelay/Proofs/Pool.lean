import Mathlib.Data.List.Nodup
import Mathlib.Data.List.Perm.Basic
import RankedRelay.Traffic.Pool

namespace RankedRelay

/-- A forwarder changes hands: the pool lends one, or gets one back. -/
inductive Handover where
  | lent
  | returned (f : Forwarder)

def Handover.isLent : Handover → Bool
  | .lent => true
  | .returned _ => false

/-- A pool, and what has happened to it so far. -/
structure Ledger where
  pool : Pool
  onLoan : List Nat
  lent : Nat
  discarded : Nat
  /-- How many forwarders were on loan when the most were. -/
  peak : Nat

namespace Ledger

def new (maxIdle : Nat) : Ledger := ⟨.new maxIdle, [], 0, 0, 0⟩

def enter (l : Ledger) : Handover → Ledger
  | .lent =>
    { l with
      pool := l.pool.acquire.2
      onLoan := l.pool.acquire.1.serial :: l.onLoan
      lent := l.lent + 1
      peak := max l.peak (l.onLoan.length + 1) }
  | .returned f =>
    let pool := l.pool.release f
    { l with
      pool := pool
      onLoan := l.onLoan.erase f.serial
      discarded := if f.serial ∈ pool.idle.map (·.serial) then l.discarded else l.discarded + 1 }

def enterAll (l : Ledger) (handovers : List Handover) : Ledger := handovers.foldl enter l

/-- Whether all forwarders are accounted for. -/
structure Balanced (l : Ledger) : Prop where
  bounded : l.pool.idle.length ≤ l.pool.maxIdle
  lent : l.pool.created + l.pool.reused = l.lent
  conserved : l.pool.created = l.pool.idle.length + l.onLoan.length + l.discarded
  clean : ∀ f ∈ l.pool.idle, f.failures = []
  distinct : (l.pool.idle.map (·.serial) ++ l.onLoan).Nodup
  known : ∀ k ∈ l.pool.idle.map (·.serial) ++ l.onLoan, k < l.pool.created
  frugal : l.peak ≤ l.pool.maxIdle → l.discarded = 0 ∧ l.pool.created = l.peak

variable {l : Ledger} {f : Forwarder}

theorem new_balanced (maxIdle : Nat) : (new maxIdle).Balanced where
  bounded := Nat.zero_le _
  lent := rfl
  conserved := rfl
  clean := by simp [new, Pool.new]
  distinct := .nil
  known := by simp [new, Pool.new]
  frugal := fun _ => ⟨rfl, rfl⟩

theorem Balanced.lend (h : l.Balanced) : (l.enter .lent).Balanced := by
  obtain ⟨⟨maxIdle, idle, created, reused⟩, onLoan, lent, discarded, peak⟩ := l
  obtain ⟨hbounded, hlent, hconserved, hclean, hdistinct, hknown, hfrugal⟩ := h
  simp only at hbounded hlent hconserved hclean hdistinct hknown hfrugal
  cases idle with
  | nil =>
    simp only [List.map_nil, List.nil_append, List.length_nil] at hconserved hdistinct hknown
    refine ⟨Nat.zero_le _, ?_, ?_, by simp [enter, Pool.acquire], ?_, ?_, ?_⟩
    · show created + 1 + reused = lent + 1
      omega
    · show created + 1 = 0 + (onLoan.length + 1) + discarded
      omega
    · have hnew : created ∉ onLoan := fun hmem => Nat.lt_irrefl _ (hknown _ hmem)
      exact List.nodup_cons.mpr ⟨hnew, hdistinct⟩
    · intro k hk
      rcases List.mem_cons.mp hk with rfl | hk
      · exact Nat.lt_succ_self _
      · exact Nat.lt_succ_of_lt (hknown k hk)
    · intro hpeak
      replace hpeak : max peak (onLoan.length + 1) ≤ maxIdle := hpeak
      obtain ⟨hnone, hpeakeq⟩ := hfrugal (by omega)
      refine ⟨hnone, ?_⟩
      show created + 1 = max peak (onLoan.length + 1)
      omega
  | cons f rest =>
    simp only [List.length_cons] at hbounded hconserved
    have hmoved : (rest.map (·.serial) ++ f.serial :: onLoan).Perm
        ((f :: rest).map (·.serial) ++ onLoan) := List.perm_middle
    refine ⟨Nat.le_of_succ_le hbounded, ?_, ?_, ?_, ?_, ?_, ?_⟩
    · show created + (reused + 1) = lent + 1
      omega
    · show created = rest.length + (onLoan.length + 1) + discarded
      omega
    · exact fun g hg => hclean g (List.mem_cons_of_mem _ hg)
    · exact hmoved.nodup_iff.mpr hdistinct
    · exact fun k hk => hknown k (hmoved.mem_iff.mp hk)
    · intro hpeak
      replace hpeak : max peak (onLoan.length + 1) ≤ maxIdle := hpeak
      obtain ⟨hnone, hpeakeq⟩ := hfrugal (by omega)
      refine ⟨hnone, ?_⟩
      -- What was idle makes one more than were on loan, so this loan sets no new peak.
      show created = max peak (onLoan.length + 1)
      omega

theorem Balanced.takeBack (h : l.Balanced) (hf : f.serial ∈ l.onLoan) :
    (l.enter (.returned f)).Balanced := by
  obtain ⟨⟨maxIdle, idle, created, reused⟩, onLoan, lent, discarded, peak⟩ := l
  obtain ⟨hbounded, hlent, hconserved, hclean, hdistinct, hknown, hfrugal⟩ := h
  simp only at hbounded hlent hconserved hclean hdistinct hknown hfrugal hf
  have hlength : (onLoan.erase f.serial).length = onLoan.length - 1 :=
    List.length_erase_of_mem hf
  have hpos : 0 < onLoan.length := List.length_pos_of_mem hf
  by_cases hroom : idle.length < maxIdle
  · have hmoved : (f.serial :: idle.map (·.serial) ++ onLoan.erase f.serial).Perm
        (idle.map (·.serial) ++ onLoan) :=
      (List.perm_middle.symm.trans ((List.perm_cons_erase hf).symm.append_left _))
    simp only [enter, Pool.release, if_pos hroom]
    refine ⟨hroom, hlent, ?_, ?_, ?_, ?_, ?_⟩
    · simp only [List.map_cons, Forwarder.reset, List.mem_cons_self, if_true, List.length_cons,
        hlength]
      omega
    · intro g hg
      rcases List.mem_cons.mp hg with rfl | hg
      · rfl
      · exact hclean g hg
    · exact hmoved.nodup_iff.mpr hdistinct
    · exact fun k hk => hknown k (hmoved.mem_iff.mp hk)
    · simpa [Forwarder.reset] using hfrugal
  · have hgone : f.serial ∉ idle.map (·.serial) := fun hidle =>
      (List.nodup_append.mp hdistinct).2.2 _ hidle _ hf rfl
    have hfewer : (idle.map (·.serial) ++ onLoan.erase f.serial).Sublist
        (idle.map (·.serial) ++ onLoan) := List.erase_sublist.append_left _
    simp only [enter, Pool.release, if_neg hroom, if_neg hgone]
    refine ⟨hbounded, hlent, ?_, hclean, hfewer.nodup hdistinct,
      fun k hk => hknown k (hfewer.subset hk), ?_⟩
    · simp only [hlength]
      omega
    · -- As many as are idle and on loan were never on loan together.
      intro hpeak
      obtain ⟨hnone, hpeakeq⟩ := hfrugal hpeak
      simp only at hpeak
      omega

@[simp] theorem enter_maxIdle (l : Ledger) (handover : Handover) :
    (l.enter handover).pool.maxIdle = l.pool.maxIdle := by
  cases handover with
  | lent =>
    simp only [enter, Pool.acquire]
    split <;> rfl
  | returned f =>
    simp only [enter, Pool.release]
    split <;> rfl

@[simp] theorem enterAll_maxIdle (l : Ledger) (handovers : List Handover) :
    (l.enterAll handovers).pool.maxIdle = l.pool.maxIdle := by
  induction handovers generalizing l with
  | nil => rfl
  | cons handover rest ih => exact (ih (l.enter handover)).trans (enter_maxIdle l handover)

theorem enterAll_lent (l : Ledger) (handovers : List Handover) :
    (l.enterAll handovers).lent = l.lent + handovers.countP (·.isLent) := by
  induction handovers generalizing l with
  | nil => rfl
  | cons handover rest ih =>
    refine (ih (l.enter handover)).trans ?_
    cases handover with
    | lent =>
      show l.lent + 1 + _ = l.lent + List.countP _ (Handover.lent :: rest)
      rw [List.countP_cons_of_pos rfl, Nat.add_right_comm, Nat.add_assoc]
    | returned f =>
      show l.lent + _ = l.lent + List.countP _ (Handover.returned f :: rest)
      rw [List.countP_cons_of_neg (by simp [Handover.isLent])]

end Ledger

end RankedRelay
