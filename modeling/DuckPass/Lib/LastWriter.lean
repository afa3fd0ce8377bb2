/-
Module: DuckPass.Lib.LastWriter
Purpose: Last-writer-wins registers: the choice between two optional copies by
  their time stamps, the latest copy of a coherent set, and the convergence of
  replicas that exchange copies with one hub.
Trusted boundary: none
Main exports: LastWriter.newer, LastWriter.Covers, LastWriter.Coherent,
  LastWriter.IsLatest, LastWriter.Star, LastWriter.Star.converges
-/
import Mathlib.Data.Set.Defs
import Mathlib.Logic.Function.Basic
import Mathlib.Order.Lattice

namespace LastWriter

variable {α τ : Type} [LinearOrder τ]

/-- Keep `mine` unless the other copy is strictly newer or there is none. -/
def newer (stamp : α → τ) (mine other : Option α) : Option α :=
  match mine, other with
  | mine, none => mine
  | none, some b => some b
  | some a, some b => if stamp a < stamp b then some b else some a

/-- `winner` is present and at least as new whenever `copy` is present. -/
def Covers (stamp : α → τ) (winner copy : Option α) : Prop :=
  ∀ a, copy = some a → ∃ b, winner = some b ∧ stamp a ≤ stamp b

/-- Copies with the same stamp are the same copy. -/
def Coherent (stamp : α → τ) (copies : Set (Option α)) : Prop :=
  ∀ a b, some a ∈ copies → some b ∈ copies → stamp a = stamp b → a = b

/-- One of the copies, and at least as new as all of them. -/
structure IsLatest (stamp : α → τ) (copies : Set (Option α))
    (winner : Option α) : Prop where
  member : winner ∈ copies
  covers : ∀ copy ∈ copies, Covers stamp winner copy

section Laws

variable {stamp : α → τ} {mine other copy winner : Option α}
  {copies : Set (Option α)}

/-- A copy covers itself. -/
theorem Covers.refl (copy : Option α) : Covers stamp copy copy :=
  fun a present => ⟨a, present, le_refl _⟩

/-- Covering goes on. -/
theorem Covers.trans (one : Covers stamp winner copy)
    (two : Covers stamp copy other) : Covers stamp winner other := by
  intro a present
  obtain ⟨b, copyEq, le⟩ := two a present
  obtain ⟨c, winnerEq, le'⟩ := one b copyEq
  exact ⟨c, winnerEq, le_trans le le'⟩

/-- The choice invents nothing. -/
theorem newer_eq_or (stamp : α → τ) (mine other : Option α) :
    newer stamp mine other = mine ∨ newer stamp mine other = other := by
  cases other with
  | none => exact .inl (by cases mine <;> rfl)
  | some b =>
      cases mine with
      | none => exact .inr rfl
      | some a =>
          rw [newer]
          split
          · exact .inr rfl
          · exact .inl rfl

/-- The newer of two copies covers the first. -/
theorem newer_covers_left (stamp : α → τ) (mine other : Option α) :
    Covers stamp (newer stamp mine other) mine := by
  intro a present
  subst present
  cases other with
  | none => exact ⟨a, rfl, le_refl _⟩
  | some b =>
      rw [newer]
      split
      · next older => exact ⟨b, rfl, le_of_lt older⟩
      · exact ⟨a, rfl, le_refl _⟩

/-- And the second. -/
theorem newer_covers_right (stamp : α → τ) (mine other : Option α) :
    Covers stamp (newer stamp mine other) other := by
  intro b present
  subst present
  cases mine with
  | none => exact ⟨b, rfl, le_refl _⟩
  | some a =>
      rw [newer]
      split
      · exact ⟨b, rfl, le_refl _⟩
      · next notOlder => exact ⟨a, rfl, le_of_not_gt notOlder⟩

/-- Among coherent copies mutual covering is equality. -/
theorem Coherent.eq_of_covers (coherent : Coherent stamp copies)
    (mineMem : mine ∈ copies) (otherMem : other ∈ copies)
    (one : Covers stamp mine other) (two : Covers stamp other mine) :
    mine = other := by
  cases mine with
  | none =>
      cases other with
      | none => rfl
      | some b =>
          obtain ⟨a, impossible, _⟩ := one b rfl
          cases impossible
  | some a =>
      obtain ⟨b, otherEq, ab⟩ := two a rfl
      obtain ⟨a', mineEq, ba⟩ := one b otherEq
      cases mineEq
      subst otherEq
      exact congrArg some (coherent a b mineMem otherMem (le_antisymm ab ba))

/-- Against the latest copy every copy loses or is equal to it. -/
theorem IsLatest.newer_eq (latest : IsLatest stamp copies winner)
    (coherent : Coherent stamp copies) (member : copy ∈ copies) :
    newer stamp copy winner = winner := by
  rcases newer_eq_or stamp copy winner with isCopy | isWinner
  · have covers := newer_covers_right stamp copy winner
    rw [isCopy] at covers ⊢
    exact coherent.eq_of_covers member latest.member covers
      (latest.covers copy member)
  · exact isWinner

end Laws

/-! ## Replicas around a hub -/

variable {ι : Type} [DecidableEq ι]

/-- One register at a hub and one at every replica. -/
@[ext] structure Star (ι α : Type) where
  hub : Option α
  replica : ι → Option α

namespace Star

variable {stamp : α → τ} {state : Star ι α} {members : Set ι} {i j : ι}
  {round : List ι}

/-- A replica takes over the hub's copy if that is newer, and both keep the
result. -/
def sync (stamp : α → τ) (state : Star ι α) (i : ι) : Star ι α where
  hub := newer stamp (state.replica i) state.hub
  replica := Function.update state.replica i
    (newer stamp (state.replica i) state.hub)

/-- The replicas of the list sync one after the other. -/
def syncAll (stamp : α → τ) (state : Star ι α) (round : List ι) : Star ι α :=
  round.foldl (sync stamp) state

/-- The copies at the hub and at the members. -/
def copies (state : Star ι α) (members : Set ι) : Set (Option α) :=
  { copy | copy = state.hub ∨ ∃ i ∈ members, copy = state.replica i }

/-- A replica that synchronizes takes the newer copy. -/
theorem sync_replica_self : (sync stamp state i).replica i =
    newer stamp (state.replica i) state.hub :=
  Function.update_self _ _ _

/-- The others keep theirs. -/
theorem sync_replica_of_ne (differs : j ≠ i) :
    (sync stamp state i).replica j = state.replica j :=
  Function.update_of_ne differs _ _

/-- Syncing only moves copies around. -/
theorem copies_sync_subset (member : i ∈ members) :
    (sync stamp state i).copies members ⊆ state.copies members := by
  have moved : newer stamp (state.replica i) state.hub ∈
      state.copies members := by
    rcases newer_eq_or stamp (state.replica i) state.hub with
      mine | other
    · exact .inr ⟨i, member, mine⟩
    · exact .inl other
  rintro copy (rfl | ⟨j, jMember, rfl⟩)
  · exact moved
  · by_cases same : j = i
    · subst same
      rw [sync_replica_self]
      exact moved
    · rw [sync_replica_of_ne same]
      exact .inr ⟨j, jMember, rfl⟩

/-- No replica falls back. -/
theorem sync_replica_covers :
    Covers stamp ((sync stamp state i).replica j) (state.replica j) := by
  by_cases same : j = i
  · subst same
    rw [sync_replica_self]
    exact newer_covers_left stamp _ _
  · rw [sync_replica_of_ne same]
    exact .refl _

/-- No copy comes out of nowhere. -/
theorem copies_syncAll_subset (inside : ∀ i ∈ round, i ∈ members) :
    (syncAll stamp state round).copies members ⊆ state.copies members := by
  induction round generalizing state with
  | nil => exact fun _ member => member
  | cons i round inductionHypothesis =>
      have rest := @inductionHypothesis (sync stamp state i)
        fun j member => inside j (List.mem_cons_of_mem i member)
      exact fun copy member =>
        copies_sync_subset (inside i List.mem_cons_self) (rest member)

/-- After a round the hub is at least as new as it was and as everyone in the
round was. -/
theorem syncAll_hub_covers (stamp : α → τ) (state : Star ι α)
    (round : List ι) :
    Covers stamp (syncAll stamp state round).hub state.hub ∧
      ∀ i ∈ round,
        Covers stamp (syncAll stamp state round).hub (state.replica i) := by
  induction round generalizing state with
  | nil => exact ⟨.refl _, by simp⟩
  | cons i round inductionHypothesis =>
      obtain ⟨hub, replicas⟩ :=
        @inductionHypothesis (sync stamp state i)
      refine ⟨hub.trans (newer_covers_right stamp _ _), ?_⟩
      intro j member
      rcases List.mem_cons.mp member with rfl | later
      · exact hub.trans (newer_covers_left stamp _ _)
      · exact (replicas j later).trans sync_replica_covers

/-- A round of all members leaves the latest copy at the hub. -/
theorem isLatest_syncAll (inside : ∀ i ∈ round, i ∈ members)
    (everyone : ∀ i ∈ members, i ∈ round) :
    IsLatest stamp (state.copies members)
      (syncAll stamp state round).hub where
  member := copies_syncAll_subset inside (.inl rfl)
  covers := by
    obtain ⟨hub, replicas⟩ :=
      syncAll_hub_covers stamp state round
    rintro copy (rfl | ⟨i, member, rfl⟩)
    · exact hub
    · exact replicas i (everyone i member)

/-- Once the latest copy is at the hub, every sync spreads it. -/
theorem syncAll_of_isLatest {all : Set (Option α)}
    (coherent : Coherent stamp all) (latest : IsLatest stamp all state.hub)
    (known : state.copies members ⊆ all)
    (inside : ∀ i ∈ round, i ∈ members) :
    (syncAll stamp state round).hub = state.hub ∧
      ∀ i, i ∈ round ∨ state.replica i = state.hub →
        (syncAll stamp state round).replica i = state.hub := by
  induction round generalizing state with
  | nil =>
      refine ⟨rfl, ?_⟩
      rintro i (impossible | settled)
      · cases impossible
      · exact settled
  | cons i round inductionHypothesis =>
      have iMember := inside i List.mem_cons_self
      have hubEq : (sync stamp state i).hub = state.hub :=
        latest.newer_eq coherent (known (.inr ⟨i, iMember, rfl⟩))
      obtain ⟨hub, replicas⟩ := @inductionHypothesis
        (sync stamp state i) (hubEq.symm ▸ latest)
        (fun copy member => known (copies_sync_subset iMember member))
        fun j member => inside j (List.mem_cons_of_mem i member)
      refine ⟨hub.trans hubEq, ?_⟩
      intro j reason
      refine (replicas j ?_).trans hubEq
      by_cases same : j = i
      · subst same
        exact .inr sync_replica_self
      · rcases reason with member | settled
        · exact .inl ((List.mem_cons.mp member).resolve_left same)
        · right
          rw [sync_replica_of_ne same, hubEq]
          exact settled

/-- Two rounds of all members, each in any order, bring the latest copy
everywhere. -/
theorem converges (state : Star ι α) (first second : List ι)
    (coherent : Coherent stamp (state.copies members))
    (firstInside : ∀ i ∈ first, i ∈ members)
    (firstAll : ∀ i ∈ members, i ∈ first)
    (secondInside : ∀ i ∈ second, i ∈ members)
    (secondAll : ∀ i ∈ members, i ∈ second) :
    IsLatest stamp (state.copies members)
        (syncAll stamp (syncAll stamp state first) second).hub ∧
      ∀ i ∈ members,
        (syncAll stamp (syncAll stamp state first) second).replica i =
          (syncAll stamp (syncAll stamp state first) second).hub := by
  have latest : IsLatest stamp (state.copies members)
      (syncAll stamp state first).hub :=
    isLatest_syncAll firstInside firstAll
  obtain ⟨hub, replicas⟩ := syncAll_of_isLatest coherent latest
    (copies_syncAll_subset firstInside) secondInside
  refine ⟨hub.symm ▸ latest, ?_⟩
  intro i member
  rw [hub]
  exact replicas i (.inl (secondAll i member))

end Star

end LastWriter
