/-
Module: DuckPass.Proofs.AuditStale
Purpose: Which entries a report calls stale, over the whole range of the time
  stamps.
Trusted boundary: as for `DuckPass.Core.AuditEngine`.
Main exports: Aged, StaleExact, isStale_iff, staleness_exact_iff,
  future_entry_stale
-/
import DuckPass.Proofs.AuditReport
import DuckPass.System.Symbolic
import DuckPass.System.SymbolicAudit

namespace DuckPass

/-! ## Ages -/

/-- The time is set, it is not in the future, and more than the threshold has
passed since. -/
def Aged (now threshold lastUpdated : UInt64) : Prop :=
  lastUpdated ≠ 0 ∧ lastUpdated ≤ now ∧
    threshold.toNat < now.toNat - lastUpdated.toNat

instance (now threshold lastUpdated : UInt64) :
    Decidable (Aged now threshold lastUpdated) :=
  inferInstanceAs (Decidable (_ ∧ _ ∧ _))

/-- The entries that a report calls stale are the aged ones, and the report
counts them. -/
structure StaleExact (now : UInt64) (config : AuditConfig) (vault : Vault)
    (report : AuditReport) : Prop where
  flags : report.entries.map EntryAuditResult.isStale =
    vault.entries.map fun entry =>
      decide (Aged now config.staleThresholdSeconds entry.lastUpdated)
  count : report.stalePasswords = vault.entries.countP fun entry =>
    decide (Aged now config.staleThresholdSeconds entry.lastUpdated)

/-- A time in the future is not so far ahead that the difference, which wraps
around, goes beyond the threshold. -/
def StaysFresh (now threshold lastUpdated : UInt64) : Prop :=
  now < lastUpdated →
    2 ^ 64 ≤ (lastUpdated.toNat - now.toNat) + threshold.toNat

instance (now threshold lastUpdated : UInt64) :
    Decidable (StaysFresh now threshold lastUpdated) :=
  inferInstanceAs (Decidable (_ → _))

/-- The check of `run_audit` goes by the age exactly where it stays fresh. -/
theorem isStale_iff {now lastUpdated : UInt64} {config : AuditConfig} :
    isStale now config lastUpdated =
        decide (Aged now config.staleThresholdSeconds lastUpdated) ↔
      StaysFresh now config.staleThresholdSeconds lastUpdated := by
  have nowBound := now.toNat_lt
  have updatedBound := lastUpdated.toNat_lt
  have set : lastUpdated ≠ 0 ↔ 0 < lastUpdated.toNat := by
    rw [Nat.pos_iff_ne_zero, Ne, Ne, ← UInt64.toNat_inj]
    rfl
  rw [isStale, decide_eq_decide]
  simp only [Aged, StaysFresh, set, gt_iff_lt, UInt64.lt_iff_toNat_lt,
    UInt64.le_iff_toNat_le, UInt64.toNat_sub, UInt64.toNat_zero]
  rcases Nat.lt_or_ge now.toNat lastUpdated.toNat with future | past
  · have wrapped : (2 ^ 64 - lastUpdated.toNat + now.toNat) % 2 ^ 64 =
        2 ^ 64 - (lastUpdated.toNat - now.toNat) := by
      rw [Nat.mod_eq_of_lt] <;> omega
    rw [wrapped]
    omega
  · have difference : (2 ^ 64 - lastUpdated.toNat + now.toNat) % 2 ^ 64 =
        now.toNat - lastUpdated.toNat := by
      omega
    rw [difference]
    omega

/-! ## Main result -/

/-- For every vault, time and threshold the report says of every entry whether
it is stale, and counts them, if and only if no entry is stamped so far in the
future that the difference of the times wraps around beyond the threshold. -/
theorem staleness_exact_iff (env : AuditEnv) (vault : Vault)
    (config : AuditConfig) (report : AuditReport)
    (returned : runAudit env vault config = .ok report) :
    StaleExact env.now config vault report ↔
      ∀ entry ∈ vault.entries,
        StaysFresh env.now config.staleThresholdSeconds entry.lastUpdated := by
  obtain ⟨_, rfl⟩ := runAudit_eq_ok.mp returned
  have flags : (describedReport env config vault.entries).entries.map
      EntryAuditResult.isStale =
        vault.entries.map fun entry =>
          isStale env.now config entry.lastUpdated := by
    simp only [describedReport, finishedResults, List.map_map]
    change vault.entries.zipIdx.map
      ((fun entry => isStale env.now config entry.lastUpdated) ∘ Prod.fst) = _
    rw [← List.map_map, List.zipIdx_map_fst]
  constructor
  · intro exact entry member
    have same := exact.flags
    rw [flags] at same
    exact isStale_iff.mp (List.map_inj_left.mp same entry member)
  · intro fresh
    have same : (describedReport env config vault.entries).entries.map
        EntryAuditResult.isStale =
          vault.entries.map fun entry =>
            decide (Aged env.now config.staleThresholdSeconds
              entry.lastUpdated) := by
      rw [flags]
      apply List.map_congr_left
      intro entry member
      exact isStale_iff.mpr (fresh entry member)
    refine ⟨same, ?_⟩
    have count := congrArg (List.countP id) same
    rw [List.countP_map, List.countP_map] at count
    exact count

namespace AuditStale

open Symbolic (audit)

/-- An account that another machine has stamped a minute after `time`. -/
def vault (time : UInt64) : Vault :=
  Vault.empty.store (Symbolic.entry 0x41 (time + 60))

def report (time now : UInt64) : AuditReport :=
  describedReport (audit now false (vault time)) {} (vault time).entries

theorem returned : runAudit (audit 1000 false (vault 1000)) (vault 1000) {} =
    .ok (report 1000 1000) := by
  rfl

end AuditStale

/-- An entry stamped a minute in the future is stale. -/
theorem future_entry_stale :
    ¬ ∀ (env : AuditEnv) (vault : Vault) (config : AuditConfig)
        (report : AuditReport), runAudit env vault config = .ok report →
      StaleExact env.now config vault report := by
  intro exact
  have wrong := (exact _ _ _ _ AuditStale.returned).flags
  revert wrong
  decide +kernel

/-- A day later the entry is not stale. -/
theorem staleness_exact_iff_later :
    runAudit (Symbolic.audit 87400 false (AuditStale.vault 1000))
        (AuditStale.vault 1000) {} = .ok (AuditStale.report 1000 87400) ∧
      StaleExact 87400 {} (AuditStale.vault 1000)
        (AuditStale.report 1000 87400) := by
  have returned : runAudit
      (Symbolic.audit 87400 false (AuditStale.vault 1000))
        (AuditStale.vault 1000) {} = .ok (AuditStale.report 1000 87400) := by
    rfl
  exact ⟨returned, (staleness_exact_iff _ _ _ _ returned).mpr (by decide)⟩

end DuckPass
