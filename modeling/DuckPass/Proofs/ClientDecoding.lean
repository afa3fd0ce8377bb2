/-
Module: DuckPass.Proofs.ClientDecoding
Purpose: What the two clients make of an OK answer of arbitrary bytes.  The
  Rust client takes an answer that is complete and rejects one that is cut off;
  the C++ client ignores that an extraction failed and returns a value either
  way.
Trusted boundary: as for `DuckPass.Core.DesktopClient`.
Main exports: OkAnswer, EncodesEntry, EncodesTotp, EncodesList, NoInvention,
  answers_decoded_iff, cut_off_answers_are_invented
-/
import DuckPass.Core.DesktopClient
import DuckPass.Proofs.PrefixedStrings

namespace DuckPass

/-! ## Statement -/

/-- The agent answers the request with an OK packet. -/
structure OkAnswer (connection : Connection) (command : CommandOpcode)
    (request payload : SecureBytes) : Prop where
  small : request.length ≤ maxPayload
  connected : connection.connected = true
  written : connection.written = true
  received :
    connection.received (serializePacket command.toByte request) =
      (Response.mk ResponseStatus.ok.toByte payload).bytes
  fits : payload.length ≤ maxPayload

def EntryData.strings (entry : EntryData) : List SecureString :=
  [entry.service, entry.username, entry.password, entry.totpSecret]

def pairStrings (pairs : List (SecureString × SecureString)) :
    List SecureString :=
  pairs.flatMap fun pair => [pair.1, pair.2]

/-- The payload begins with the four strings of the entry. -/
def EncodesEntry (payload : SecureBytes) (entry : EntryData) : Prop :=
  AllShort entry.strings ∧ encodeStrings entry.strings <+: payload

/-- The payload begins with the code and the seconds left. -/
def EncodesTotp (payload : SecureBytes) (totp : TotpResult) : Prop :=
  AllShort [totp.code] ∧
    encodeStrings [totp.code] ++ htonl totp.remainingSeconds <+: payload

/-- The payload begins with the number of the pairs and the pairs. -/
def EncodesList (payload : SecureBytes)
    (pairs : List (SecureString × SecureString)) : Prop :=
  AllShort (pairStrings pairs) ∧ ∃ count : UInt32,
    count.toNat = pairs.length ∧
      htonl count ++ encodeStrings (pairStrings pairs) <+: payload

def AllUtf8 (strs : List SecureString) : Prop :=
  ∀ str ∈ strs, validUtf8 str = true

/-- A client that returns a value has decoded it from the payload, and where
all strings are valid it returns one exactly if the Rust client does. -/
structure NoInvention {α β : Type} (Encodes : α → Prop)
    (strings : α → List SecureString) (returned : Option α)
    (rust : Except IoError β) : Prop where
  decoded : ∀ value, returned = some value → Encodes value
  agree : (∀ value, Encodes value → AllUtf8 (strings value)) →
    ((∃ value, returned = some value) ↔ ∃ value, rust = .ok value)

/-! ### Answers that are not cut off -/

/-- Four strings can be taken from the payload. -/
def CompleteEntry (payload : SecureBytes) : Prop :=
  ∃ strs last, extractStrings payload 4 0 = some (strs, last)

/-- A string and then a word can be. -/
def CompleteTotp (payload : SecureBytes) : Prop :=
  ∃ strs last remaining, extractStrings payload 1 0 = some (strs, last) ∧
    ntohlAt payload last = some remaining

/-- A count and then twice as many strings can be. -/
def CompleteList (payload : SecureBytes) : Prop :=
  ∃ count strs last, ntohlAt payload 0 = some count ∧
    extractStrings payload (2 * count.toNat) 4 = some (strs, last)

/-! ## Words and strings in the two copies -/

/-- The Rust copy takes what the C++ copy takes, if it is valid. -/
theorem DesktopClient.extractString_of_extractPrefixed {buf : SecureBytes}
    {offset next : Nat} {str : SecureString}
    (read : extractPrefixed buf offset = (some str, next))
    (valid : validUtf8 str = true) :
    DesktopClient.extractString buf offset = .ok (⟨str, valid⟩, next) := by
  unfold extractPrefixed at read
  unfold DesktopClient.extractString
  cases lengthRead : ntohlAt buf offset with
  | none =>
      rw [lengthRead] at read
      cases read
  | some len =>
      have inside := ntohlAt_isSome lengthRead
      rw [lengthRead] at read
      dsimp only at read ⊢
      split at read
      · cases read
      · next enough =>
          have room : ¬ offset + 4 + len.toNat > buf.length := by omega
          cases read
          simp only [if_neg room, dif_pos valid]

theorem htonl_prefix_iff {buf : SecureBytes} {value : UInt32} :
    htonl value <+: buf ↔ ntohlAt buf 0 = some value := by
  constructor
  · rintro ⟨rest, rfl⟩
    exact ntohlAt_htonl_zero rest value
  · intro read
    exact ⟨buf.drop 4, (htonl_of_ntohlAt read).symm⟩

/-- Two chunks stand at the front exactly if the second stands behind the
first. -/
theorem append_prefix_iff {first second buf : SecureBytes} :
    first ++ second <+: buf ↔
      first <+: buf ∧ second <+: buf.drop first.length := by
  constructor
  · rintro ⟨rest, rfl⟩
    rw [List.append_assoc, List.drop_left]
    exact ⟨List.prefix_append _ _, List.prefix_append _ _⟩
  · rintro ⟨⟨behind, rfl⟩, ⟨rest, tail⟩⟩
    rw [List.drop_left] at tail
    exact ⟨rest, by rw [List.append_assoc, tail]⟩

/-- The first of the strings taken, and the others. -/
theorem extractStrings_step {buf : SecureBytes} {count offset last : Nat}
    {str : SecureString} {strs : List SecureString}
    (taken : extractStrings buf (count + 1) offset =
      some (str :: strs, last)) :
    ∃ next, extractPrefixed buf offset = (some str, next) ∧
      extractStrings buf count next = some (strs, last) := by
  obtain ⟨_, next, _, read, later, same⟩ :=
    extractStrings_succ_eq_some_iff.mp taken
  cases same
  exact ⟨next, read, later⟩

/-! ## Entries -/

theorem completeEntry_iff {payload : SecureBytes} :
    CompleteEntry payload ↔ ∃ entry, EncodesEntry payload entry := by
  constructor
  · rintro ⟨strs, last, taken⟩
    obtain ⟨size, short, front, _⟩ := extractStrings_eq_some_iff.mp taken
    rw [List.drop_zero] at front
    match strs, size with
    | [s, u, p, t], _ => exact ⟨⟨s, u, p, t⟩, short, front⟩
  · rintro ⟨entry, short, front⟩
    exact ⟨entry.strings, _, extractStrings_of_prefix short front⟩

/-- Both clients decode a complete entry. -/
theorem entry_decoded {payload : SecureBytes} {entry : EntryData}
    (encodes : EncodesEntry payload entry) :
    IpcClient.extractEntry payload = entry ∧
      (AllUtf8 entry.strings → ∃ s u p t first second third fourth,
        DesktopClient.extractString payload 0 = .ok (s, first) ∧
        DesktopClient.extractString payload first = .ok (u, second) ∧
        DesktopClient.extractString payload second = .ok (p, third) ∧
        DesktopClient.extractString payload third = .ok (t, fourth)) := by
  have taken : extractStrings payload 4 0 = some (entry.strings, _) :=
    extractStrings_of_prefix encodes.1 encodes.2
  obtain ⟨first, readS, taken⟩ := extractStrings_step taken
  obtain ⟨second, readU, taken⟩ := extractStrings_step taken
  obtain ⟨third, readP, taken⟩ := extractStrings_step taken
  obtain ⟨fourth, readT, _⟩ := extractStrings_step taken
  constructor
  · simp only [IpcClient.extractEntry, IpcClient.extractSecureString, readS,
      readU, readP, readT, Option.getD_some]
  · intro valid
    simp only [AllUtf8, EntryData.strings, List.forall_mem_cons] at valid
    obtain ⟨validS, validU, validP, validT, _⟩ := valid
    exact ⟨_, _, _, _, first, second, third, fourth,
      DesktopClient.extractString_of_extractPrefixed readS validS,
      DesktopClient.extractString_of_extractPrefixed readU validU,
      DesktopClient.extractString_of_extractPrefixed readP validP,
      DesktopClient.extractString_of_extractPrefixed readT validT⟩

/-! ## Codes -/

theorem completeTotp_iff {payload : SecureBytes} :
    CompleteTotp payload ↔ ∃ totp, EncodesTotp payload totp := by
  constructor
  · rintro ⟨strs, last, remaining, taken, word⟩
    obtain ⟨size, short, front, behind⟩ := extractStrings_eq_some_iff.mp taken
    rw [List.drop_zero] at front
    rw [Nat.zero_add] at behind
    match strs, size with
    | [code], _ =>
        refine ⟨⟨code, remaining⟩, short, append_prefix_iff.mpr ⟨front, ?_⟩⟩
        rw [htonl_prefix_iff, ntohlAt_drop, ← behind]
        exact word
  · rintro ⟨totp, short, both⟩
    obtain ⟨front, word⟩ := append_prefix_iff.mp both
    rw [htonl_prefix_iff, ntohlAt_drop] at word
    exact ⟨[totp.code], _, totp.remainingSeconds,
      extractStrings_of_prefix short front, word⟩

/-- Both clients decode a complete code. -/
theorem totp_decoded {payload : SecureBytes} {totp : TotpResult}
    (encodes : EncodesTotp payload totp) :
    IpcClient.extractTotp payload = totp ∧
      (AllUtf8 [totp.code] → ∃ code next,
        DesktopClient.extractString payload 0 = .ok (code, next) ∧
        ∃ remaining last, DesktopClient.extractU32 payload next =
          .ok (remaining, last)) := by
  obtain ⟨short, both⟩ := encodes
  obtain ⟨front, word⟩ := append_prefix_iff.mp both
  rw [htonl_prefix_iff, ntohlAt_drop] at word
  have taken : extractStrings payload 1 0 = some ([totp.code], _) :=
    extractStrings_of_prefix short front
  obtain ⟨next, read, taken⟩ := extractStrings_step taken
  generalize (encodeStrings [totp.code]).length = last at taken word
  obtain rfl : next = last := congrArg Prod.snd (Option.some.inj taken)
  constructor
  · simp only [IpcClient.extractTotp, IpcClient.extractString, read, word,
      Option.getD_some]
  · intro valid
    have validCode := List.forall_mem_singleton.mp valid
    refine ⟨_, next,
      DesktopClient.extractString_of_extractPrefixed read validCode,
      totp.remainingSeconds, next + 4, ?_⟩
    simp only [DesktopClient.extractU32, word]

/-! ## Lists -/

theorem length_pairStrings (pairs : List (SecureString × SecureString)) :
    (pairStrings pairs).length = 2 * pairs.length := by
  induction pairs with
  | nil => rfl
  | cons pair pairs inductionHypothesis =>
      rw [pairStrings, List.flatMap_cons, List.length_append, ← pairStrings,
        inductionHypothesis, List.length_cons]
      exact Nat.add_comm 2 _

/-- An even number of strings is so many pairs. -/
theorem exists_pairs {count : Nat} {strs : List SecureString}
    (even : strs.length = 2 * count) :
    ∃ pairs, strs = pairStrings pairs ∧ pairs.length = count := by
  induction count generalizing strs with
  | zero => exact ⟨[], List.eq_nil_of_length_eq_zero even, rfl⟩
  | succ count inductionHypothesis =>
      match strs, even with
      | svc :: usr :: rest, even =>
          obtain ⟨pairs, rfl, size⟩ :=
            @inductionHypothesis rest (Nat.succ.inj (Nat.succ.inj even))
          exact ⟨(svc, usr) :: pairs, rfl, congrArg Nat.succ size⟩

theorem completeList_iff {payload : SecureBytes} :
    CompleteList payload ↔ ∃ pairs, EncodesList payload pairs := by
  constructor
  · rintro ⟨count, strs, last, counted, taken⟩
    obtain ⟨size, short, front, _⟩ := extractStrings_eq_some_iff.mp taken
    obtain ⟨pairs, rfl, pairsSize⟩ := exists_pairs size
    exact ⟨pairs, short, count, pairsSize.symm, append_prefix_iff.mpr
      ⟨htonl_prefix_iff.mpr counted, front⟩⟩
  · rintro ⟨pairs, short, count, size, both⟩
    obtain ⟨counted, front⟩ := append_prefix_iff.mp both
    refine ⟨count, pairStrings pairs, _, htonl_prefix_iff.mp counted,
      extractStrings_eq_some_iff.mpr ⟨?_, short, front, rfl⟩⟩
    rw [length_pairStrings, size]

/-- Both loops take complete pairs. -/
theorem pairs_decoded {payload : SecureBytes}
    {pairs : List (SecureString × SecureString)} {offset last : Nat}
    (taken : extractStrings payload (2 * pairs.length) offset =
      some (pairStrings pairs, last)) :
    IpcClient.extractPairs payload pairs.length offset = pairs ∧
      (AllUtf8 (pairStrings pairs) → ∃ summaries,
        DesktopClient.extractSummaries payload pairs.length offset =
          .ok summaries) := by
  induction pairs generalizing offset with
  | nil => exact ⟨rfl, fun _ => ⟨[], rfl⟩⟩
  | cons pair pairs inductionHypothesis =>
      obtain ⟨svc, usr⟩ := pair
      have shape : pairStrings ((svc, usr) :: pairs) =
          svc :: usr :: pairStrings pairs := rfl
      rw [List.length_cons, Nat.mul_succ, shape] at taken
      obtain ⟨middle, readSvc, taken⟩ := extractStrings_step taken
      obtain ⟨next, readUsr, taken⟩ := extractStrings_step taken
      obtain ⟨cpp, rust⟩ := inductionHypothesis taken
      constructor
      · simp only [List.length_cons, IpcClient.extractPairs,
          IpcClient.extractString, readSvc, readUsr, cpp]
      · intro valid
        simp only [AllUtf8, shape, List.forall_mem_cons] at valid
        obtain ⟨validSvc, validUsr, validRest⟩ := valid
        obtain ⟨summaries, decoded⟩ := rust validRest
        refine ⟨⟨⟨svc, validSvc⟩, ⟨usr, validUsr⟩⟩ :: summaries, ?_⟩
        simp only [List.length_cons, DesktopClient.extractSummaries,
          DesktopClient.extractString_of_extractPrefixed readSvc validSvc,
          DesktopClient.extractString_of_extractPrefixed readUsr validUsr,
          decoded, bind, Except.bind, pure, Except.pure]

/-- Both clients decode a complete list. -/
theorem list_decoded {payload : SecureBytes}
    {pairs : List (SecureString × SecureString)}
    (encodes : EncodesList payload pairs) :
    IpcClient.extractList payload = pairs ∧
      (AllUtf8 (pairStrings pairs) → ∃ count summaries,
        DesktopClient.extractU32 payload 0 = .ok (count, 4) ∧
        DesktopClient.extractSummaries payload count.toNat 4 =
          .ok summaries) := by
  obtain ⟨short, count, size, both⟩ := encodes
  obtain ⟨counted, front⟩ := append_prefix_iff.mp both
  rw [htonl_prefix_iff] at counted
  have taken : extractStrings payload (2 * pairs.length) 4 =
      some (pairStrings pairs, _) :=
    extractStrings_eq_some_iff.mpr
      ⟨length_pairStrings pairs, short, front, rfl⟩
  obtain ⟨cpp, rust⟩ := pairs_decoded taken
  rw [← size] at cpp rust
  constructor
  · simp only [IpcClient.extractList, counted, cpp]
  · intro valid
    obtain ⟨summaries, decoded⟩ := rust valid
    refine ⟨count, summaries, ?_, decoded⟩
    simp only [DesktopClient.extractU32, counted]

/-! ## Exchanges -/

namespace OkAnswer

variable {connection : Connection} {command : CommandOpcode}
  {request payload : SecureBytes}

theorem exchange (answer : OkAnswer connection command request payload)
    (sendFailure : String) :
    IpcClient.exchange connection command request sendFailure =
      .ok (ResponseStatus.ok.toByte, payload) :=
  IpcClient.exchange_eq answer.connected answer.written answer.received
    answer.fits

theorem exchangePacket
    (answer : OkAnswer connection command request payload)
    (failure : IoError) :
    DesktopClient.exchangePacket connection failure command request =
      .ok (.ok, payload) :=
  DesktopClient.exchangePacket_eq answer.small answer.connected answer.written
    answer.received answer.fits rfl

end OkAnswer

/-- A function that always returns what it could take invents nothing exactly
if the payload is complete. -/
theorem noInvention_iff {α β : Type} {Encodes : α → Prop}
    {strings : α → List SecureString} {value : α} {rust : Except IoError β}
    (decodes : ∀ encoded, Encodes encoded → value = encoded ∧
      (AllUtf8 (strings encoded) → ∃ detail, rust = .ok detail)) :
    NoInvention Encodes strings (some value) rust ↔
      ∃ encoded, Encodes encoded := by
  constructor
  · intro honest
    exact ⟨value, honest.decoded value rfl⟩
  · rintro ⟨encoded, encodes⟩
    obtain ⟨rfl, accepts⟩ := decodes encoded encodes
    constructor
    · rintro _ ⟨⟩
      exact encodes
    · intro valid
      exact iff_of_true ⟨value, rfl⟩ (accepts (valid value encodes))

/-! ## Main result -/

section Answers

variable {connection : Connection} {str : Utf8String} {payload : SecureBytes}
  {outError : SecureBytes} {failure : IoError}

theorem getEntry_decoded_iff
    (answer : OkAnswer connection .getEntry (appendPrefixed [] str.val)
      payload) :
    NoInvention (EncodesEntry payload) EntryData.strings
        (IpcClient.getEntry connection str.val outError).toOption
        (DesktopClient.getEntry connection failure str) ↔
      CompleteEntry payload := by
  have cpp : (IpcClient.getEntry connection str.val outError).toOption =
      some (IpcClient.extractEntry payload) := by
    simp only [IpcClient.getEntry, IpcClient.appendSecureString,
      answer.exchange, bind, Except.bind, if_true]
    rfl
  rw [cpp, completeEntry_iff]
  apply noInvention_iff
  intro entry encodes
  obtain ⟨same, rust⟩ := entry_decoded encodes
  refine ⟨same, ?_⟩
  intro valid
  obtain ⟨s, u, p, t, _, _, _, _, readS, readU, readP, readT⟩ := rust valid
  refine ⟨⟨s, u, p, t⟩, ?_⟩
  simp only [DesktopClient.getEntry, DesktopClient.appendString,
    answer.exchangePacket, readS, readU, readP, readT, bind, Except.bind, pure,
    Except.pure]

theorem getTotp_decoded_iff
    (answer : OkAnswer connection .getTotp (appendPrefixed [] str.val)
      payload) :
    NoInvention (EncodesTotp payload) (fun totp => [totp.code])
        (IpcClient.getTotp connection str.val outError).toOption
        (DesktopClient.getTotp connection failure str) ↔
      CompleteTotp payload := by
  have cpp : (IpcClient.getTotp connection str.val outError).toOption =
      some (IpcClient.extractTotp payload) := by
    simp only [IpcClient.getTotp, IpcClient.appendSecureString,
      answer.exchange, bind, Except.bind, if_true]
    rfl
  rw [cpp, completeTotp_iff]
  apply noInvention_iff
  intro totp encodes
  obtain ⟨same, rust⟩ := totp_decoded encodes
  refine ⟨same, ?_⟩
  intro valid
  obtain ⟨code, _, read, remaining, _, word⟩ := rust valid
  refine ⟨⟨code, remaining⟩, ?_⟩
  simp only [DesktopClient.getTotp, DesktopClient.appendString,
    answer.exchangePacket, read, word, bind, Except.bind, pure, Except.pure]

/-- `list_entries` of the C++ client has no other answer than a list. -/
theorem listEntries_decoded_iff
    (answer : OkAnswer connection .listEntries (appendPrefixed [] str.val)
      payload) :
    NoInvention (EncodesList payload) pairStrings
        (some (IpcClient.listEntries connection str.val))
        (DesktopClient.listEntries connection failure str) ↔
      CompleteList payload := by
  have cpp : IpcClient.listEntries connection str.val =
      IpcClient.extractList payload := by
    have read : readPacket (connection.received
        (serializePacket CommandOpcode.listEntries.toByte
          (appendPrefixed [] str.val))) =
            some (ResponseStatus.ok.toByte, payload) := by
      rw [answer.received]
      exact readPacket_of_fits answer.fits
    simp only [IpcClient.listEntries, IpcClient.appendString,
      answer.connected, answer.written, Bool.not_true, Bool.false_eq_true,
      if_false, read, ne_eq, not_true]
  rw [cpp, completeList_iff]
  apply noInvention_iff
  intro pairs encodes
  obtain ⟨same, rust⟩ := list_decoded encodes
  refine ⟨same, ?_⟩
  intro valid
  obtain ⟨count, summaries, counted, decoded⟩ := rust valid
  refine ⟨summaries, ?_⟩
  simp only [DesktopClient.listEntries, DesktopClient.appendString,
    answer.exchangePacket, counted, decoded, bind, Except.bind]

end Answers

/-- For every OK payload of `get_entry`, `get_totp` and `list_entries`: the C++
client returns only what the payload encodes, and takes what the Rust client
takes, exactly if the payload is not cut off anywhere. -/
theorem answers_decoded_iff (connection : Connection) (str : Utf8String)
    (outError : SecureBytes) (failure : IoError) (payload : SecureBytes) :
    (OkAnswer connection .getEntry (appendPrefixed [] str.val) payload →
      (NoInvention (EncodesEntry payload) EntryData.strings
          (IpcClient.getEntry connection str.val outError).toOption
          (DesktopClient.getEntry connection failure str) ↔
        CompleteEntry payload)) ∧
    (OkAnswer connection .getTotp (appendPrefixed [] str.val) payload →
      (NoInvention (EncodesTotp payload) (fun totp => [totp.code])
          (IpcClient.getTotp connection str.val outError).toOption
          (DesktopClient.getTotp connection failure str) ↔
        CompleteTotp payload)) ∧
    (OkAnswer connection .listEntries (appendPrefixed [] str.val) payload →
      (NoInvention (EncodesList payload) pairStrings
          (some (IpcClient.listEntries connection str.val))
          (DesktopClient.listEntries connection failure str) ↔
        CompleteList payload)) :=
  ⟨getEntry_decoded_iff, getTotp_decoded_iff, listEntries_decoded_iff⟩

namespace ClientDecoding

/-- An agent that answers everything OK with one payload. -/
def answering (payload : SecureBytes) : Connection where
  connected := true
  written := true
  received := fun _ => (Response.mk ResponseStatus.ok.toByte payload).bytes

theorem answering_ok (command : CommandOpcode) {request payload : SecureBytes}
    (small : request.length ≤ maxPayload)
    (fits : payload.length ≤ maxPayload) :
    OkAnswer (answering payload) command request payload :=
  ⟨small, rfl, rfl, rfl, fits⟩

def service : Utf8String := ⟨[0x73], rfl⟩

/-- Two pairs announced, one sent. -/
def cutList : SecureBytes :=
  htonl 2 ++ encodeStrings [[0x73], [0x75]]

/-- The first two strings of an entry. -/
def cutEntry : SecureBytes := encodeStrings [[0x73], [0x75]]

/-- A code without the seconds. -/
def cutTotp : SecureBytes := encodeStrings [[0x31]]

end ClientDecoding

open ClientDecoding in
/-- An entry of which half arrived. -/
theorem answers_decoded_iff_cutEntry :
    NoInvention (EncodesEntry cutEntry) EntryData.strings
        (IpcClient.getEntry (answering cutEntry) service.val []).toOption
        (DesktopClient.getEntry (answering cutEntry) (.unexpectedEof "")
          service) ↔
      CompleteEntry cutEntry :=
  (answers_decoded_iff (answering cutEntry) service [] (.unexpectedEof "")
    cutEntry).1 (answering_ok .getEntry (by decide) (by decide))

open ClientDecoding in
/-- From answers that are cut off the C++ client makes an entry without a
password, a code that is good for zero seconds and a shorter list; the Rust
client takes none of them. -/
theorem cut_off_answers_are_invented :
    IpcClient.getEntry (answering cutEntry) service.val [] =
        .ok ⟨[0x73], [0x75], [], []⟩ ∧
      ¬ EncodesEntry cutEntry ⟨[0x73], [0x75], [], []⟩ ∧
      (DesktopClient.getEntry (answering cutEntry) (.unexpectedEof "")
        service).toOption = none ∧
      IpcClient.getTotp (answering cutTotp) service.val [] =
        .ok ⟨[0x31], 0⟩ ∧
      (DesktopClient.getTotp (answering cutTotp) (.unexpectedEof "")
        service).toOption = none ∧
      IpcClient.listEntries (answering cutList) service.val =
        [([0x73], [0x75])] ∧
      (DesktopClient.listEntries (answering cutList) (.unexpectedEof "")
        service).toOption = none := by
  refine ⟨by decide, ?_, by decide, by decide, by decide, by decide,
    by decide⟩
  rintro ⟨_, front⟩
  exact absurd front.length_le (by decide)

end DuckPass
