/-
Module: DuckPass.Proofs.AgentListing
Purpose: What `list_entries` shows of a session behind the agent: all of it
  while the names fit in one packet, and never all of it when they do not.
Trusted boundary: a connection on which both sides deliver; `std::ranges::sort`
  rearranges what it is given.
Main exports: listEntries_perm, IpcClient.extractList_size,
  IpcClient.extractList_listPayload, AgentPeer.ListsFaithfully,
  agent_listing_faithful_iff
-/
import DuckPass.Proofs.AgentPeer
import DuckPass.System.SymbolicAgent
import Mathlib.Algebra.BigOperators.Group.List.Lemmas
import Mathlib.Algebra.Order.BigOperators.Group.List

namespace DuckPass

/-- What a listing shows of an entry. -/
def listed (entry : VaultEntry) : SecureString × SecureString :=
  (entry.service, entry.username)

/-- The bytes that a listed pair takes on the wire. -/
def pairSize (pair : SecureString × SecureString) : Nat :=
  (4 + pair.1.length) + (4 + pair.2.length)

/-- The entries that match a query, in the order of the vault. -/
def matchingEntries (entries : List VaultEntry) (query : SecureString) :
    List VaultEntry :=
  entries.filter fun entry => 0 < fuzzyMatch query entry.service

/-- The bytes that the names of these entries take in one answer. -/
def listingSize (entries : List VaultEntry) : Nat :=
  4 + ((entries.map listed).map pairSize).sum

/-! ## The entries listed -/

/-- Every entry matches the empty query. -/
theorem matchingEntries_nil (entries : List VaultEntry) :
    matchingEntries entries [] = entries := by
  apply List.filter_eq_self.mpr
  intro entry member
  rfl

theorem map_entry_matching (entries : List VaultEntry) (query : SecureString) :
    (VaultService.matching entries query).map MatchResult.entry =
      matchingEntries entries query := by
  induction entries with
  | nil => rfl
  | cons entry entries inductionHypothesis =>
      unfold VaultService.matching matchingEntries at inductionHypothesis ⊢
      by_cases positive : fuzzyMatch query entry.service > 0
      · simp [positive, inductionHypothesis]
      · simp [positive, inductionHypothesis]

/-- `list_entries` gives the matching entries, in some order. -/
theorem listEntries_perm {library : Library} (sorts : library.Sorts)
    (self : VaultService) (query : SecureString) :
    (self.listEntries library query).Perm
      (matchingEntries self.vault.entries query) := by
  unfold VaultService.listEntries
  split
  · next empty =>
      rw [List.isEmpty_iff.mp empty, matchingEntries_nil]
  · rw [← map_entry_matching]
    exact (sorts.perm _).map _

theorem listingSize_perm {entries others : List VaultEntry}
    (same : entries.Perm others) :
    listingSize entries = listingSize others := by
  unfold listingSize
  rw [((same.map listed).map pairSize).sum_eq]

/-! ## The answer -/

/-- The pairs of an answer, one after the other. -/
def pairsPayload (entries : List VaultEntry) : SecureBytes :=
  entries.flatMap fun entry =>
    appendPrefixed [] entry.service ++ appendPrefixed [] entry.username

theorem listPayload_eq (entries : List VaultEntry) :
    AgentServer.listPayload entries =
      htonl (UInt32.ofNat entries.length) ++ pairsPayload entries := by
  have gathered : ∀ (rest : List VaultEntry) (resp : SecureBytes),
      rest.foldl (fun resp entry => appendPrefixed
        (appendPrefixed resp entry.service) entry.username) resp =
        resp ++ pairsPayload rest := by
    intro rest
    induction rest with
    | nil =>
        intro resp
        exact (List.append_nil resp).symm
    | cons entry rest inductionHypothesis =>
        intro resp
        rw [List.foldl_cons, inductionHypothesis, appendPrefixed_eq _
          entry.username, appendPrefixed_eq resp]
        simp [pairsPayload]
  exact gathered entries _

theorem length_pairsPayload (entries : List VaultEntry) :
    (pairsPayload entries).length =
      ((entries.map listed).map pairSize).sum := by
  induction entries with
  | nil => rfl
  | cons entry entries inductionHypothesis =>
      unfold pairsPayload at inductionHypothesis ⊢
      simp [inductionHypothesis, listed, pairSize, Nat.add_assoc]

theorem length_listPayload (entries : List VaultEntry) :
    (AgentServer.listPayload entries).length = listingSize entries := by
  rw [listPayload_eq, List.length_append, length_htonl, length_pairsPayload,
    listingSize]

/-- A listing has no more entries than bytes. -/
theorem length_le_listingSize (entries : List VaultEntry) :
    entries.length ≤ listingSize entries := by
  have bound := List.length_le_sum_of_one_le
    ((entries.map listed).map pairSize) (by
      intro size member
      rcases List.mem_map.mp member with ⟨pair, _, rfl⟩
      unfold pairSize
      omega)
  rw [List.length_map, List.length_map] at bound
  unfold listingSize
  omega

/-! ## What the client reads -/

/-- A string that was read lies within the buffer. -/
theorem extractPrefixed_size {buf : SecureBytes} {offset next : Nat}
    {str : SecureString}
    (read : extractPrefixed buf offset = (some str, next)) :
    next = offset + (4 + str.length) ∧ next ≤ buf.length := by
  unfold extractPrefixed at read
  split at read
  · cases read
  · next len found =>
      have start := ntohlAt_isSome found
      split at read
      · cases read
      · next enough =>
          cases read
          rw [List.length_take, List.length_drop,
            Nat.min_eq_left (Nat.le_of_not_gt enough)]
          omega

/-- The pairs that are read lie one after the other within the buffer. -/
theorem IpcClient.extractPairs_size (payload : SecureBytes) (remaining : Nat) :
    ∀ offset, offset ≤ payload.length →
      offset + ((extractPairs payload remaining offset).map pairSize).sum ≤
        payload.length := by
  induction remaining with
  | zero =>
      intro offset within
      simpa [extractPairs] using within
  | succ remaining inductionHypothesis =>
      intro offset within
      unfold extractPairs
      split
      · simpa using within
      · next svc afterService readService =>
          split
          · simpa using within
          · next usr afterUsername readUsername =>
              have ⟨serviceEnd, _⟩ := extractPrefixed_size readService
              have ⟨usernameEnd, inside⟩ := extractPrefixed_size readUsername
              have rest := inductionHypothesis afterUsername inside
              rw [List.map_cons, List.sum_cons]
              simp only [pairSize] at rest ⊢
              omega

/-- Whatever the answer holds, the list shown is no larger than it. -/
theorem IpcClient.extractList_size (payload : SecureBytes) :
    extractList payload = [] ∨
      4 + ((extractList payload).map pairSize).sum ≤ payload.length := by
  unfold extractList
  split
  · exact .inl rfl
  · next count found =>
      have start := ntohlAt_isSome found
      exact .inr (extractPairs_size payload count.toNat 4 (by omega))

/-- The loop reads back the pairs it has rounds for. -/
theorem IpcClient.extractPairs_pairsPayload (entries : List VaultEntry) :
    ∀ before : SecureBytes,
      (∀ entry ∈ entries, pairSize (listed entry) < 4294967296) →
      extractPairs (before ++ pairsPayload entries) entries.length
        before.length = entries.map listed := by
  induction entries with
  | nil =>
      intro before short
      rfl
  | cons entry entries inductionHypothesis =>
      intro before short
      have here := short entry (List.mem_cons_self ..)
      have shortService : entry.service.length < 4294967296 := by
        simp only [pairSize, listed] at here
        omega
      have shortUsername : entry.username.length < 4294967296 := by
        simp only [pairSize, listed] at here
        omega
      have shape : before ++ pairsPayload (entry :: entries) =
          before ++ (appendPrefixed [] entry.service ++
            (appendPrefixed [] entry.username ++ pairsPayload entries)) := by
        simp [pairsPayload]
      have readService := extractPrefixed_appendPrefixed shortService before
        (appendPrefixed [] entry.username ++ pairsPayload entries)
      have readUsername := extractPrefixed_appendPrefixed shortUsername
        (before ++ appendPrefixed [] entry.service) (pairsPayload entries)
      have rest := inductionHypothesis (before ++
        (appendPrefixed [] entry.service ++ appendPrefixed [] entry.username))
        fun other member => short other (List.mem_cons_of_mem _ member)
      simp only [List.append_assoc, List.length_append, length_appendPrefixed,
        ← Nat.add_assoc] at readUsername rest
      rw [shape, List.length_cons, List.map_cons, extractPairs]
      simp only [extractString, readService, readUsername, rest]
      rfl

/-- An answer within the limit is read back as a whole. -/
theorem IpcClient.extractList_listPayload {entries : List VaultEntry}
    (fits : listingSize entries ≤ maxPayload) :
    extractList (AgentServer.listPayload entries) = entries.map listed := by
  have few := length_le_listingSize entries
  have count : (UInt32.ofNat entries.length).toNat = entries.length :=
    toNat_ofNat_of_le_maxPayload (Nat.le_trans (by omega) fits)
  have short : ∀ entry ∈ entries,
      pairSize (listed entry) < 4294967296 := by
    intro entry member
    have single := List.single_le_sum
      (l := (entries.map listed).map pairSize) (by simp)
      (pairSize (listed entry))
      (List.mem_map_of_mem (List.mem_map_of_mem member))
    have small := lt_of_le_maxPayload fits
    unfold listingSize at small
    omega
  rw [listPayload_eq, extractList, ntohlAt_htonl_zero]
  simp only [count]
  exact extractPairs_pairsPayload entries (htonl _) short

/-! ## Through the agent -/

/-- A request within the limit is read back as its query. -/
theorem parseCommand_listEntries {query : SecureString}
    (fits : (IpcClient.appendString [] query).length ≤ maxPayload) :
    parseCommand (some .listEntries) (IpcClient.appendString [] query) =
      .entry (.listEntries query) := by
  have short : query.length < 4294967296 := by
    rw [IpcClient.appendString, length_appendPrefixed] at fits
    exact Nat.lt_of_le_of_lt (Nat.le_add_left _ _) (lt_of_le_maxPayload fits)
  have read := extractPrefixed_appendPrefixed short [] []
  rw [List.nil_append, List.append_nil, List.length_nil] at read
  simp only [parseCommand, AgentServer.extractStr, IpcClient.appendString,
    read, Option.getD_some]

namespace AgentPeer

variable {peer : AgentPeer} {self : VaultService} {query : SecureString}

/-- What the client shows is read from as much of the answer as its size, cast
to 32 bits, announces. -/
theorem listEntries_eq (unlocked : peer.agent.vaultService = some self)
    (fits : (IpcClient.appendString [] query).length ≤ maxPayload) :
    IpcClient.listEntries peer.connection query =
      if listingSize (self.listEntries peer.library query) % 4294967296 >
          maxPayload then []
      else IpcClient.extractList ((AgentServer.listPayload
        (self.listEntries peer.library query)).take
          (listingSize (self.listEntries peer.library query) %
            4294967296)) := by
  have handled := handle_of_parsed unlocked fits
    (parseCommand_listEntries fits)
  have received : peer.connection.received
      (serializePacket CommandOpcode.listEntries.toByte
        (IpcClient.appendString [] query)) =
      serializePacket ResponseStatus.ok.toByte
        (AgentServer.listPayload (self.listEntries peer.library query)) := by
    change (((peer.handle .listEntries _).response).map _).getD _ = _
    rw [handled]
    rfl
  have connected : peer.connection.connected = true := rfl
  have written : peer.connection.written = true := rfl
  unfold IpcClient.listEntries
  rw [received, readPacket_serializePacket, length_listPayload, connected,
    written]
  by_cases tooLarge :
      listingSize (self.listEntries peer.library query) % 4294967296 >
        maxPayload
  · simp [tooLarge]
  · simp [tooLarge]

/-- The client shows the pairs of the session in their order, and nothing only
if nothing matches. -/
def ListsFaithfully (peer : AgentPeer) (self : VaultService)
    (query : SecureString) : Prop :=
  IpcClient.listEntries peer.connection query =
      (self.listEntries peer.library query).map listed ∧
    (IpcClient.listEntries peer.connection query = [] →
      matchingEntries self.vault.entries query = [])

/-- Names that fit in one packet are all shown. -/
theorem listEntries_of_fits (unlocked : peer.agent.vaultService = some self)
    (request : (IpcClient.appendString [] query).length ≤ maxPayload)
    (fits : listingSize (self.listEntries peer.library query) ≤ maxPayload) :
    IpcClient.listEntries peer.connection query =
      (self.listEntries peer.library query).map listed := by
  have exact : listingSize (self.listEntries peer.library query) %
      4294967296 = listingSize (self.listEntries peer.library query) :=
    Nat.mod_eq_of_lt (lt_of_le_maxPayload fits)
  rw [listEntries_eq unlocked request, exact, if_neg (Nat.not_lt.mpr fits),
    ← length_listPayload, List.take_length]
  exact IpcClient.extractList_listPayload fits

/-- A list shown is empty or as small as a packet. -/
theorem listEntries_size (unlocked : peer.agent.vaultService = some self)
    (request : (IpcClient.appendString [] query).length ≤ maxPayload) :
    IpcClient.listEntries peer.connection query = [] ∨
      4 + ((IpcClient.listEntries peer.connection query).map pairSize).sum ≤
        maxPayload := by
  rw [listEntries_eq unlocked request]
  split
  · exact .inl rfl
  · next fits =>
      apply (IpcClient.extractList_size _).imp_right
      intro within
      apply Nat.le_trans within
      rw [List.length_take]
      exact Nat.le_trans (Nat.min_le_left _ _) (Nat.le_of_not_gt fits)

/-- Names that do not fit in one packet are never all shown. -/
theorem fits_of_listEntries (unlocked : peer.agent.vaultService = some self)
    (request : (IpcClient.appendString [] query).length ≤ maxPayload)
    (all : IpcClient.listEntries peer.connection query =
      (self.listEntries peer.library query).map listed) :
    listingSize (self.listEntries peer.library query) ≤ maxPayload := by
  rcases listEntries_size unlocked request with nothing | within
  · rw [all] at nothing
    rw [listingSize, nothing]
    decide
  · rw [all] at within
    exact within

end AgentPeer

/-- The listing through an unlocked agent is faithful exactly when the names of
the matching entries fit in one packet. -/
theorem agent_listing_faithful_iff {peer : AgentPeer} {self : VaultService}
    {query : SecureString} (sorts : peer.library.Sorts)
    (unlocked : peer.agent.vaultService = some self)
    (request : (IpcClient.appendString [] query).length ≤ maxPayload) :
    peer.ListsFaithfully self query ↔
      listingSize (matchingEntries self.vault.entries query) ≤ maxPayload := by
  have arranged := listEntries_perm sorts self query
  rw [← listingSize_perm arranged]
  constructor
  · intro faithful
    exact AgentPeer.fits_of_listEntries unlocked request faithful.1
  · intro fits
    have all := AgentPeer.listEntries_of_fits unlocked request fits
    constructor
    · exact all
    · intro nothing
      rw [all] at nothing
      rw [List.map_eq_nil_iff.mp nothing] at arranged
      exact arranged.symm.eq_nil

namespace Symbolic

/-- A vault whose one account has this user name. -/
def vaultOf (username : SecureString) : Vault :=
  Vault.empty.store ⟨service, username, [2], [], 7⟩

/-- An agent with that vault in its session. -/
def peerOf (username : SecureString) : AgentPeer where
  primitives := primitives
  library := library
  env := serveEnv 5 9
  agent := unlockedAgent 900 (vaultOf username) 0
  storage := ⟨files (vaultOf username) masterPassword, []⟩

/-- The stable sort rearranges and orders. -/
theorem library_sorts : library.Sorts where
  perm := List.perm_insertionSort _
  ordered results := by
    have total : Std.Total fun a b : MatchResult => b.score ≤ a.score :=
      ⟨fun a b => Int.le_total b.score a.score⟩
    have chained : IsTrans MatchResult fun a b => b.score ≤ a.score :=
      ⟨fun a b c first second => Int.le_trans second first⟩
    exact List.pairwise_insertionSort _ results

/-- What the names of that vault take. -/
theorem listingSize_vaultOf (username : SecureString) :
    listingSize (vaultOf username).entries = 13 + username.length := by
  change 4 + ([(4 + 1) + (4 + username.length)] : List Nat).sum = _
  rw [List.sum_singleton]
  omega

end Symbolic

/-- An account with a short name is shown. -/
theorem agent_listing_faithful_iff_short :
    IpcClient.listEntries (Symbolic.peerOf [1]).connection [] =
      [(Symbolic.service, [1])] :=
  ((@agent_listing_faithful_iff (Symbolic.peerOf [1])
    (Symbolic.session (Symbolic.vaultOf [1])) [] Symbolic.library_sorts rfl
    (by decide)).mpr (by decide)).1

/-- A user name of 2 MiB: the session lists the account and the client shows an
empty vault. -/
theorem oversize_listing_is_empty :
    IpcClient.listEntries
        (Symbolic.peerOf (List.replicate 2097152 0x61)).connection [] = [] ∧
      ¬ (Symbolic.peerOf (List.replicate 2097152 0x61)).ListsFaithfully
        (Symbolic.session (Symbolic.vaultOf (List.replicate 2097152 0x61)))
        [] := by
  have small : (IpcClient.appendString [] []).length ≤ maxPayload := by decide
  generalize sized : List.replicate 2097152 (0x61 : UInt8) = username
  have long : username.length = 2097152 := by
    rw [← sized, List.length_replicate]
  have size := Symbolic.listingSize_vaultOf username
  rw [long] at size
  have all : (Symbolic.session (Symbolic.vaultOf username)).listEntries
      (Symbolic.peerOf username).library [] =
        (Symbolic.vaultOf username).entries := rfl
  have shown : IpcClient.listEntries (Symbolic.peerOf username).connection
      [] = [] := by
    rw [AgentPeer.listEntries_eq rfl small, all, size]
    rfl
  constructor
  · exact shown
  · intro faithful
    have nothing := faithful.2 shown
    rw [matchingEntries_nil] at nothing
    cases nothing

end DuckPass
