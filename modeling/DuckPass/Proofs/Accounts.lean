/-
Module: DuckPass.Proofs.Accounts
Purpose: The accounts in a vault, without their times: what the operations on
  the vault do to them, and that neither reading a vault file nor the merge of
  a session that has seen it changes any.
Trusted boundary: none
Main exports: VaultEntry.account, Vault.accounts, accounts_restamp,
  accounts_mergeEntries, MergesTo.accounts, stageAdd_accounts,
  stageDelete_accounts, stage_accounts, Staging.spans
-/
import DuckPass.Proofs.AgentListing
import DuckPass.Proofs.VaultService
import DuckPass.System.StoreCommands

namespace DuckPass

def VaultEntry.account (entry : VaultEntry) : Account :=
  ⟨entry.service, entry.username, entry.password, entry.totpSecret⟩

theorem VaultEntry.account_service (entry : VaultEntry) :
    entry.account.service = entry.service := rfl

namespace Vault

/-- The accounts of a vault. -/
def accounts (vault : Vault) : Accounts :=
  ⟨vault.entries.map VaultEntry.account,
    KeyedList.distinct_map VaultEntry.account_service vault.distinct⟩

variable {vault : Vault} {entry : VaultEntry} {service : SecureString}

/-- A service is looked up among the accounts as among the entries. -/
theorem accounts_find :
    vault.accounts.find service =
      (vault.getEntry service).map VaultEntry.account :=
  KeyedList.lookup_map VaultEntry.account_service

@[simp] theorem accounts_store :
    (vault.store entry).accounts = vault.accounts.put entry.account :=
  Accounts.ext (KeyedList.map_upsert VaultEntry.account_service)

@[simp] theorem accounts_removeEntry :
    (vault.removeEntry service).1.accounts = vault.accounts.without service :=
  Accounts.ext (KeyedList.map_eraseKey VaultEntry.account_service)

/-- The time that an entry gets is not part of the account. -/
theorem accounts_addEntry {clock : Clock} :
    (vault.addEntry entry clock).1.accounts =
      vault.accounts.put entry.account := by
  unfold addEntry
  split
  · exact accounts_store
  · exact accounts_store

end Vault

/-- An account that is there already is written over itself. -/
theorem Accounts.put_of_mem {accounts : Accounts} {account : Account}
    (member : account ∈ accounts.list) : accounts.put account = accounts :=
  Accounts.ext (KeyedList.upsert_self_of_mem accounts.distinct member)

/-- An account for a new service comes last. -/
theorem Accounts.put_of_absent {accounts : Accounts} {account : Account}
    (absent : accounts.find account.service = none) :
    (accounts.put account).list = accounts.list ++ [account] :=
  KeyedList.upsert_of_not_mem (KeyedList.lookup_eq_none_iff.mp absent)

/-! ## Reading and merging -/

theorem restampEntries_accounts (entries : List VaultEntry) (clock : Clock) :
    (restampEntries entries clock).1.map VaultEntry.account =
      entries.map VaultEntry.account := by
  induction entries generalizing clock with
  | nil => rfl
  | cons entry entries inductionHypothesis =>
      rw [restampEntries]
      split
      · rw [List.map_cons, List.map_cons, inductionHypothesis]
        rfl
      · rw [List.map_cons, List.map_cons, inductionHypothesis]

/-- Reading a vault file back fills in times and changes no account. -/
theorem Vault.accounts_restamp (vault : Vault) (clock : Clock) :
    (vault.restamp clock).1.accounts = vault.accounts :=
  Accounts.ext (restampEntries_accounts vault.entries clock)

/-- Every account on the disk is one that this instance shows or has
deleted. -/
def Spans (deletedServices : List SecureString) (view : Accounts)
    (disk : List Account) : Prop :=
  ∀ account ∈ disk, account.service ∈ deletedServices ∨ account ∈ view.list

/-- A merge takes over only accounts that the instance does not know. -/
theorem accounts_mergeEntries {deletedServices : List SecureString}
    {entries : List VaultEntry} {vault : Vault} {clock : Clock}
    (spans : Spans deletedServices vault.accounts
      (entries.map VaultEntry.account)) :
    (mergeEntries deletedServices entries vault clock).1.accounts =
      vault.accounts := by
  induction entries generalizing vault clock with
  | nil => rfl
  | cons head tail inductionHypothesis =>
      obtain ⟨next, merging, same⟩ :=
        mergeEntries_cons deletedServices head tail vault clock
      have headKnown := spans head.account List.mem_cons_self
      have tailKnown : Spans deletedServices vault.accounts
          (tail.map VaultEntry.account) :=
        fun account member => spans account (List.mem_cons_of_mem _ member)
      have added : head.service ∉ deletedServices →
          (vault.addEntry head clock).1.accounts = vault.accounts := by
        intro live
        rw [Vault.accounts_addEntry]
        exact Accounts.put_of_mem (headKnown.resolve_left live)
      have kept : next.1.accounts = vault.accounts := by
        cases merging with
        | skipped => rfl
        | taken live => exact added live
        | replaced live => exact added live
        | retained => rfl
      rw [same, ← kept]
      rw [← kept] at tailKnown
      exact inductionHypothesis tailKnown

/-- The merge of an instance that spans what the file holds. -/
theorem MergesTo.accounts {primitives : Primitives} {self : VaultService}
    {vault merged : Vault} {blob : SecureBytes} {clock : Clock}
    (ideal : primitives.Ideal) {password : SecureString}
    (encrypted : SealedBlob primitives password vault blob)
    (spans : Spans self.deletedServices self.vault.accounts
      vault.accounts.list)
    (merges : MergesTo primitives self (some blob) clock merged) :
    merged.accounts = self.vault.accounts := by
  cases merges with
  | missing absent => cases absent
  | @loaded _ disk rest present opened =>
      cases present
      obtain ⟨_, same⟩ := encrypted.open_eq ideal opened
      have read : disk = (vault.restamp clock).1 := congrArg Prod.fst same
      apply accounts_mergeEntries
      rw [read]
      change Spans _ _ (vault.restamp clock).1.accounts.list
      rw [Vault.accounts_restamp]
      exact spans

/-! ## The writing methods on accounts -/

section Stage

variable {self staged : VaultService} {clock : Clock}

/-- What a writing request makes of the accounts that an instance shows. -/
def Request.updates : Request → Accounts → Except DuckpassError Accounts
  | .addEntry service username password totpSecret, view =>
      view.add ⟨service, username, password, totpSecret⟩
  | .deleteEntry service, view => view.delete service
  | _, view => .ok view

/-- The requests of the subcommands: `add` gives no TOTP secret. -/
def Request.FromCommand (request : Request) : Prop :=
  (∃ service username password,
      request = .addEntry service username password []) ∨
    ∃ service, request = .deleteEntry service

theorem checkTotpSecret_nil : VaultService.checkTotpSecret [] = .ok () := rfl

/-- `add_entry` checks what is there among the accounts. -/
theorem stageAdd_accounts (service username password : SecureString) :
    (self.stageAdd service username password [] clock).map
        (fun staged => staged.1.vault.accounts) =
      self.vault.accounts.add ⟨service, username, password, []⟩ := by
  have found := @Vault.accounts_find self.vault service
  unfold VaultService.stageAdd Accounts.add
  simp only [List.isEmpty_iff, checkTotpSecret_nil, found, Option.isSome_map]
  by_cases serviceGiven : service = []
  · rw [if_pos serviceGiven, if_pos serviceGiven]
    rfl
  rw [if_neg serviceGiven, if_neg serviceGiven]
  by_cases present : (self.vault.getEntry service).isSome = true
  · rw [if_pos present, if_pos present]
    rfl
  rw [if_neg present, if_neg present]
  by_cases usernameGiven : username = []
  · rw [if_pos usernameGiven, if_pos usernameGiven]
    rfl
  rw [if_neg usernameGiven, if_neg usernameGiven]
  by_cases passwordGiven : password = []
  · rw [if_pos passwordGiven, if_pos passwordGiven]
    rfl
  rw [if_neg passwordGiven, if_neg passwordGiven]
  exact congrArg Except.ok Vault.accounts_addEntry

theorem stageDelete_accounts (service : SecureString) :
    (self.stageDelete service).map (fun staged => staged.vault.accounts) =
      self.vault.accounts.delete service := by
  have found := @Vault.accounts_find self.vault service
  unfold VaultService.stageDelete Accounts.delete
  rw [Vault.removeEntry_snd, found, Option.isSome_map]
  split
  · exact congrArg Except.ok Vault.accounts_removeEntry
  · rfl

/-- The checks see only the accounts. -/
theorem stage_accounts {request : Request} (plain : request.FromCommand) :
    (request.stage clock self).map (fun staged => staged.vault.accounts) =
      request.updates self.vault.accounts := by
  rcases plain with ⟨service, username, password, rfl⟩ | ⟨service, rfl⟩
  · rw [Request.updates, ← stageAdd_accounts]
    unfold Request.stage
    dsimp only
    cases self.stageAdd service username password [] clock <;> rfl
  · exact stageDelete_accounts service

/-- A staged instance still spans all that it did. -/
theorem Staging.spans {request : Request} (plain : request.FromCommand)
    (staging : Staging clock self request staged) {disk : List Account}
    (spans : Spans self.deletedServices self.vault.accounts disk) :
    Spans staged.deletedServices staged.vault.accounts disk := by
  intro account member
  have known := spans account member
  rcases plain with ⟨service, username, password, rfl⟩ | ⟨service, rfl⟩
  · cases staging with
    | added _ _ _ _ absent =>
        refine known.imp_right fun shown => ?_
        rw [Vault.accounts_store, Accounts.put_of_absent]
        · exact List.mem_append_left _ shown
        · rw [Vault.accounts_find]
          exact Option.map_eq_none_iff.mpr absent
  · cases staging with
    | deleted present =>
        rw [Vault.accounts_removeEntry]
        by_cases same : account.service = service
        · exact .inl (List.mem_append_right _ (by simp [same]))
        · rcases known with deleted | shown
          · exact .inl (List.mem_append_left _ deleted)
          · exact .inr (List.mem_filter.mpr ⟨shown, by simpa using same⟩)

end Stage

end DuckPass
