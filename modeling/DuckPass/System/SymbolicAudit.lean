/-
Module: DuckPass.System.SymbolicAudit
Purpose: Audits that can be evaluated: every password is strong, digests are
  the passwords themselves, and workers answer at once.
Trusted boundary: none
Main exports: Symbolic.zxcvbn, Symbolic.digests, Symbolic.audit,
  Symbolic.answered_audit
-/
import DuckPass.Core.AuditEngine
import DuckPass.Proofs.EntropyEvaluator

namespace DuckPass.Symbolic

/-- Every password has 64 bits of entropy. -/
def zxcvbn : Zxcvbn where
  init := true
  entropy _ := 0x4050000000000000
  crackTimeSeconds _ := 0x4380000000000000

/-- A password, cut or filled up to the size of a digest. -/
def digest (size : Nat) (password : SecureBytes) : Bytes size :=
  ⟨(password ++ List.replicate size 0).take size, by simp⟩

def digests : Digests := ⟨digest sha1Bytes, digest sha256Bytes⟩

/-- The API knows no password. -/
def noBreaches : LookupEnv := ⟨true, fun _ _ => .response 200 []⟩

/-- An audit at the time `now` in which no call fails; `isReused` is what the
memory of each result holds. -/
def audit (now : UInt64) (isReused : Bool) (vault : Vault) : AuditEnv where
  now := now
  digests := digests
  calls index :=
    { exchange := EntropyEvaluator.promptExchange zxcvbn
        ((vault.entries.map VaultEntry.password).getD index [])
      sha256Fault := none
      sha1Fault := none
      asyncFault := none
      lookup := noBreaches
      thread := none
      indeterminate := ⟨isReused, false, 0⟩ }
  order := ⟨id, fun _ => .refl _⟩

/-- In this audit the worker answers for every entry. -/
theorem answered_audit (now : UInt64) (isReused : Bool) {vault : Vault}
    {index : Nat} {entry : VaultEntry}
    (present : vault.entries[index]? = some entry) :
    Answered zxcvbn ((audit now isReused vault).calls index).exchange
      entry.password := by
  have password : (vault.entries.map VaultEntry.password).getD index [] =
      entry.password := by
    simp [present]
  rw [← password]
  exact EntropyEvaluator.answered_promptExchange rfl _

end DuckPass.Symbolic
