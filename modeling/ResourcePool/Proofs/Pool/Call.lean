import ResourcePool.Pool
import ResourcePool.Proofs.Result

/-! Whole calls: the pool is opened, and what it answers is the result. -/

namespace ResourcePool
namespace Snapshot
variable {s : Snapshot} {script : Option (List UInt64)}

/-- Only a pool of random integers takes notice of the script. -/
theorem allocate_eq (kind : Kind) (scriptless : kind ≠ .randomInt32) :
    s.allocate kind script = (Pool.openFor kind s >>= fun pool => pool.allocate s.input []) := by
  unfold allocate
  split
  · exact absurd rfl scriptless
  · rfl

theorem allocate_result (kind : Kind) (scriptless : kind ≠ .randomInt32) :
    (s.allocate kind script).result =
      (Pool.ofSnapshot kind s).bind fun pool => (pool.allocate s.input []).result := by
  rw [allocate_eq kind scriptless]
  simp only [Pool.openFor, Logged.result_bind, Logged.result_record, Logged.result_quiet]
  rfl

theorem allocate_address {f : Family} :
    (s.allocate (.address f) script).result =
      (AddressPool.ofSnapshot f s).bind fun pool => (pool.allocate s.input).result := by
  rw [allocate_result (.address f) nofun, Pool.ofSnapshot, map_bind]
  rfl

theorem allocate_network {f : Family} :
    (s.allocate (.network f) script).result =
      (NetworkPool.ofSnapshot f s).bind fun pool => (pool.allocate s.input).result := by
  rw [allocate_result (.network f) nofun, Pool.ofSnapshot, map_bind]
  rfl

theorem allocate_vlan :
    (s.allocate .vlan script).result =
      (VlanPool.ofSnapshot s).bind fun pool => (pool.allocate s.input).result := by
  rw [allocate_result .vlan nofun, Pool.ofSnapshot, map_bind]
  rfl

theorem allocate_vlanRange :
    (s.allocate .vlanRange script).result =
      (VlanRangePool.ofSnapshot s).bind fun pool => (pool.allocate s.input).result := by
  rw [allocate_result .vlanRange nofun, Pool.ofSnapshot, map_bind]
  rfl

theorem allocate_uniqueId :
    (s.allocate .uniqueId script).result =
      (UniqueIdPool.ofSnapshot s).bind fun pool => (pool.allocate s.input).result := by
  rw [allocate_result .uniqueId nofun, Pool.ofSnapshot, map_bind]
  rfl

theorem allocate_routeDistinguisher :
    (s.allocate .routeDistinguisher script).result =
      ((RouteDistinguisherPool.ofSnapshot s).allocate s.input).result := by
  rw [allocate_result .routeDistinguisher nofun]
  rfl

/-- Without a script every random word is zero, as it is after the end of one. -/
theorem allocate_randomInt32 :
    (s.allocate .randomInt32 script).result =
      (RandomInt32Pool.ofSnapshot s).bind fun pool => (pool.allocate (script.getD [])).result := by
  cases script with
  | none =>
    simp only [allocate, Pool.openFor, Pool.ofSnapshot, Logged.result_bind, Logged.result_record,
      Logged.result_quiet]
    cases RandomInt32Pool.ofSnapshot s <;> rfl
  | some words =>
    simp only [allocate, Logged.result_bind]
    rfl

theorem capacity_result (s : Snapshot) (kind : Kind) :
    (s.capacity kind).result = (Pool.ofSnapshot kind s).map Pool.capacity := by
  simp only [capacity, Pool.openFor, Logged.result_bind, Logged.result_record, Logged.result_quiet,
    Logged.result_pure]
  cases Pool.ofSnapshot kind s <;> rfl

end Snapshot
end ResourcePool
