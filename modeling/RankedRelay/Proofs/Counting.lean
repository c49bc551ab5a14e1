import RankedRelay.Proofs.Lending
import RankedRelay.Proofs.Rounds
import RankedRelay.Proofs.Scheduler

namespace RankedRelay.Relay

/-- Whether all that a relay counts fits into words of 64 bits, which the service counts in. -/
structure CountsInWords (r : Relay) : Prop where
  rounds : r.watch.scheduler.rounds < UInt64.size
  created : r.traffic.pool.created < UInt64.size
  reused : r.traffic.pool.reused < UInt64.size
  idle : r.traffic.pool.idle.length < UInt64.size
  published : ∀ ranking ∈ r.watch.rankings, ranking.round < UInt64.size
  healthy : ∀ ranking ∈ r.watch.rankings, ranking.healthyCount < UInt64.size

variable {c : Config} {registry : Registry} {epoch : Moment} {r r₁ r₂ : Relay} {a : Action}
  {steps : List Step} {n : NetworkId} {urgent : Move → Prop}

theorem rounds_act_le (env : Surroundings) (hn : r.watch.networks.Nodup) (hp : r.Permits urgent a) :
    (r.act env a).watch.scheduler.rounds ≤ r.watch.scheduler.rounds + 1 := by
  cases act_follows env hn hp with
  | stays _ hrounds | starts _ _ hrounds | stops _ _ hrounds =>
    rw [hrounds]
    exact Nat.le_succ _
  | ends _ _ hrounds => exact Nat.le_of_eq hrounds

theorem rounds_run_le (hb : registry.Built) (hr : Reachable c registry r₁)
    (hrun : Run (fun _ => False) r₁ steps r₂) :
    r₂.watch.scheduler.rounds ≤ r₁.watch.scheduler.rounds + steps.length := by
  induction hrun with
  | nil => exact Nat.le_refl _
  | cons s permitted _ ih =>
    have hact := rounds_act_le s.env (hr.nodup_networks hb) permitted
    have hrest := ih (hr.act s.env permitted)
    rw [List.length_cons]
    omega

theorem published_act_le (env : Surroundings) (r : Relay) (a : Action) (n : NetworkId) :
    ((r.act env a).watch.published n).length ≤ (r.watch.published n).length + 1 := by
  rcases (act_watch env r a).published n with ⟨hpub, -⟩ | ⟨_, _, _, _, -, hpub, -⟩
  · rw [hpub]
    exact Nat.le_succ _
  · rw [hpub, List.length_append]
    exact Nat.le_refl _

theorem published_run_le (hrun : Run urgent r₁ steps r₂) (n : NetworkId) :
    (r₂.watch.published n).length ≤ (r₁.watch.published n).length + steps.length := by
  induction hrun with
  | nil => exact Nat.le_refl _
  | @cons r _ s _ _ _ ih =>
    have hact := published_act_le s.env r s.action n
    rw [List.length_cons]
    omega

theorem pool_run_le (hrun : Run urgent (.new c registry epoch) steps r) :
    r.traffic.pool.created + r.traffic.pool.reused ≤ steps.length ∧
      r.traffic.pool.idle.length ≤ r.traffic.pool.created := by
  have hfits := ledger_new_fits hrun
  have hlent := hfits.balanced.lent
  have hconserved := hfits.balanced.conserved
  rw [ledger_lent, hfits.pool] at hlent
  rw [hfits.pool] at hconserved
  have hborrowed := List.countP_le_length (p := fun s : Step => s.action.borrows) (l := steps)
  have hnew : (Ledger.new c.maxIdleForwarders.toNat).lent = 0 := rfl
  omega

theorem round_le_published (hb : registry.Built) (hr : Reachable c registry r) {s : Slot}
    (hs : s ∈ r.watch.slots) : s.ranking.round ≤ (r.watch.published s.network).length := by
  obtain ⟨hslot, hes, -⟩ := hr.sound.coherent_of_mem hb hr hs
  have hshown := (hr.numbered hb hes).shown
  rw [Watch.shown, hslot, Option.map_some, Option.some.injEq, Prod.mk.injEq] at hshown
  exact Nat.le_of_eq ((hr.sound _ s hslot).round.trans hshown.2)

/-- A count of 64 bits is enough for any run of fewer steps, as long as no network has more
endpoints than that. -/
theorem countsInWords_of_run (hb : registry.Built)
    (hrun : Run (fun _ => False) (.new c registry epoch) steps r)
    (hsteps : steps.length < UInt64.size)
    (hes : ∀ n es, registry.endpoints? n = some es → es.length < UInt64.size) :
    r.CountsInWords := by
  have hr : Reachable c registry r := ⟨epoch, steps, hrun⟩
  have hrounds := rounds_run_le hb ⟨epoch, [], .nil _⟩ hrun
  have hnone : (Relay.new c registry epoch).watch.scheduler.rounds = 0 := rfl
  obtain ⟨hborrowed, hidle⟩ := pool_run_le hrun
  refine ⟨by omega, by omega, by omega, by omega, fun ranking hranking => ?_,
    fun ranking hranking => ?_⟩
  · obtain ⟨s, hs, rfl⟩ := List.mem_map.mp hranking
    have hround := round_le_published hb hr hs
    have hpublished := published_run_le hrun s.network
    rw [new_published, List.length_nil] at hpublished
    omega
  · obtain ⟨s, hs, rfl⟩ := List.mem_map.mp hranking
    obtain ⟨-, hendpoints, hcoherent⟩ := hr.sound.coherent_of_mem hb hr hs
    have hlength := hcoherent.complete.length_eq
    rw [Ranking.endpoints, List.length_map] at hlength
    have hhealthy : s.ranking.healthyCount ≤ s.ranking.records.length :=
      List.length_filter_le _ _
    have hfew := hes _ _ hendpoints
    omega

end RankedRelay.Relay
