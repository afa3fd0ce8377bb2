/-
Module: DuckPass.Proofs.PrefixedStrings
Purpose: Length-prefixed strings in a row.  Taking a number of them from a
  payload succeeds exactly if the payload goes on with their encoding, and then
  gives the strings encoded.
Trusted boundary: none
Main exports: extractStrings, encodeStrings, extractPrefixed_eq_some_iff,
  extractStrings_eq_some_iff
-/
import DuckPass.Proofs.Ipc

namespace DuckPass

/-- So many strings in a row from the offset on, and where they end. -/
def extractStrings (buf : SecureBytes) :
    (count offset : Nat) → Option (List SecureString × Nat)
  | 0, offset => some ([], offset)
  | count + 1, offset =>
      match extractPrefixed buf offset with
      | (none, _) => none
      | (some str, next) =>
          match extractStrings buf count next with
          | none => none
          | some (strs, last) => some (str :: strs, last)

/-- The strings as they stand in a payload. -/
def encodeStrings (strs : List SecureString) : SecureBytes :=
  strs.flatMap (appendPrefixed [])

/-- Every length can be held by its prefix. -/
def AllShort (strs : List SecureString) : Prop :=
  ∀ str ∈ strs, str.length < 4294967296

/-- The first string stands in front. -/
theorem encodeStrings_cons (str : SecureString) (strs : List SecureString) :
    encodeStrings (str :: strs) =
      appendPrefixed [] str ++ encodeStrings strs :=
  List.flatMap_cons

/-! ## One string -/

/-- A length is read wherever the buffer begins. -/
theorem ntohlAt_drop (buf : SecureBytes) (offset : Nat) :
    ntohlAt (buf.drop offset) 0 = ntohlAt buf offset := by
  rw [ntohlAt, ntohlAt, List.drop_zero]

/-- A string is taken from the offset exactly if its encoding is there. -/
theorem extractPrefixed_eq_some_iff {buf : SecureBytes} {offset next : Nat}
    {str : SecureString} :
    extractPrefixed buf offset = (some str, next) ↔
      str.length < 4294967296 ∧ appendPrefixed [] str <+: buf.drop offset ∧
        next = offset + (4 + str.length) := by
  constructor
  · intro read
    unfold extractPrefixed at read
    split at read
    · cases read
    · next len lengthRead =>
        have inside := ntohlAt_isSome lengthRead
        rw [← ntohlAt_drop] at lengthRead
        have shape := htonl_of_ntohlAt lengthRead
        rw [List.drop_drop] at shape
        split at read
        · cases read
        · next enough =>
            cases read
            have size : ((buf.drop (offset + 4)).take len.toNat).length =
                len.toNat := by
              apply List.length_take_of_le
              rw [List.length_drop]
              exact Nat.le_of_not_lt enough
            rw [size]
            refine ⟨len.toNat_lt, ⟨(buf.drop (offset + 4)).drop len.toNat, ?_⟩,
              Nat.add_assoc _ _ _⟩
            rw [appendPrefixed, List.nil_append, size, UInt32.ofNat_toNat,
              List.append_assoc, List.take_append_drop]
            exact shape.symm
  · rintro ⟨short, ⟨rest, front⟩, rfl⟩
    have inside : offset ≤ buf.length := by
      have size := congrArg List.length front
      rw [List.length_append, length_appendPrefixed, List.length_drop] at size
      omega
    have whole : buf = buf.take offset ++ (appendPrefixed [] str ++ rest) := by
      rw [front, List.take_append_drop]
    have start : (buf.take offset).length = offset :=
      List.length_take_of_le inside
    have read := extractPrefixed_appendPrefixed short (buf.take offset) rest
    rw [start, ← whole, Nat.add_assoc] at read
    exact read

/-- A string is extracted or not, and the reader has a new offset. -/
theorem extractPrefixed_cases (buf : SecureBytes) (offset : Nat) :
    (∃ next, extractPrefixed buf offset = (none, next)) ∨
      ∃ str next, extractPrefixed buf offset = (some str, next) := by
  cases read : extractPrefixed buf offset with
  | mk result next =>
      cases result with
      | none => exact .inl ⟨next, rfl⟩
      | some str => exact .inr ⟨str, next, rfl⟩

/-! ## Strings in a row -/

/-- Strings are extracted one after the other. -/
theorem extractStrings_succ_eq_some_iff {buf : SecureBytes}
    {count offset last : Nat} {strs : List SecureString} :
    extractStrings buf (count + 1) offset = some (strs, last) ↔
      ∃ str next rest, extractPrefixed buf offset = (some str, next) ∧
        extractStrings buf count next = some (rest, last) ∧
        strs = str :: rest := by
  rw [extractStrings]
  rcases extractPrefixed_cases buf offset with
    ⟨next, missing⟩ | ⟨str, next, found⟩
  · rw [missing]
    constructor
    · intro impossible
      cases impossible
    · rintro ⟨_, _, _, impossible, _⟩
      cases impossible
  · rw [found]
    dsimp only
    constructor
    · intro finished
      split at finished
      · cases finished
      · next rest last later =>
          cases finished
          exact ⟨str, next, rest, rfl, later, rfl⟩
    · rintro ⟨_, _, _, same, finished, rfl⟩
      cases same
      rw [finished]

/-- The strings taken are those whose encoding is there. -/
theorem extractStrings_eq_some_iff {buf : SecureBytes}
    {count offset last : Nat} {strs : List SecureString} :
    extractStrings buf count offset = some (strs, last) ↔
      strs.length = count ∧ AllShort strs ∧
        encodeStrings strs <+: buf.drop offset ∧
        last = offset + (encodeStrings strs).length := by
  induction count generalizing offset strs with
  | zero =>
      constructor
      · intro finished
        cases finished
        exact ⟨rfl, List.forall_mem_nil _, List.nil_prefix, rfl⟩
      · rintro ⟨none, _, _, rfl⟩
        rw [List.eq_nil_of_length_eq_zero none]
        rfl
  | succ count inductionHypothesis =>
      rw [extractStrings_succ_eq_some_iff]
      constructor
      · rintro ⟨str, next, rest, read, later, rfl⟩
        obtain ⟨short, ⟨behind, front⟩, rfl⟩ :=
          extractPrefixed_eq_some_iff.mp read
        obtain ⟨rfl, allShort, tail, rfl⟩ := inductionHypothesis.mp later
        refine ⟨rfl, List.forall_mem_cons.mpr ⟨short, allShort⟩, ?_, ?_⟩
        · -- What is behind the first string begins with the others.
          have position : buf.drop (offset + (4 + str.length)) = behind := by
            rw [← List.drop_drop, ← front, ← length_appendPrefixed str,
              List.drop_left]
          rw [position] at tail
          obtain ⟨end_, tail⟩ := tail
          refine ⟨end_, ?_⟩
          rw [encodeStrings_cons, List.append_assoc, tail, front]
        · rw [encodeStrings_cons, List.length_append, length_appendPrefixed,
            Nat.add_assoc]
      · rintro ⟨size, allShort, ⟨end_, front⟩, rfl⟩
        cases strs with
        | nil => cases size
        | cons str rest =>
            obtain ⟨short, laterShort⟩ := List.forall_mem_cons.mp allShort
            rw [encodeStrings_cons, List.append_assoc] at front
            refine ⟨str, offset + (4 + str.length), rest,
              extractPrefixed_eq_some_iff.mpr ⟨short, ⟨_, front⟩, rfl⟩,
              inductionHypothesis.mpr ⟨Nat.succ.inj size, laterShort, ?_, ?_⟩,
              rfl⟩
            · refine ⟨end_, ?_⟩
              rw [← List.drop_drop, ← front, ← length_appendPrefixed str,
                List.drop_left]
            · rw [encodeStrings_cons, List.length_append,
                length_appendPrefixed, Nat.add_assoc, Nat.add_assoc,
                Nat.add_assoc]

/-- The strings a payload begins with. -/
theorem extractStrings_of_prefix {buf : SecureBytes}
    {strs : List SecureString} (short : AllShort strs)
    (front : encodeStrings strs <+: buf) :
    extractStrings buf strs.length 0 =
      some (strs, (encodeStrings strs).length) :=
  extractStrings_eq_some_iff.mpr
    ⟨rfl, short, front, (Nat.zero_add _).symm⟩

end DuckPass
