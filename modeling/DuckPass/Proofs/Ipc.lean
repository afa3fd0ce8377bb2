/-
Module: DuckPass.Proofs.Ipc
Purpose: Each reader of the wire format undoes its writer, in the C++ and in
  the Rust copy, and what becomes of a packet whose payload is too large.
Trusted boundary: none
Main exports: ntohlAt_htonl, htonl_of_ntohlAt, extractPrefixed_appendPrefixed,
  DesktopClient.extractString_appendPrefixed, readPacket_serializePacket,
  readPacket_eq_some_iff
-/
import DuckPass.Core.DesktopClient
import DuckPass.Proofs.VaultCodec

namespace DuckPass

/-! ## Words -/

theorem lt_of_le_maxPayload {size : Nat} (fits : size ≤ maxPayload) :
    size < 4294967296 :=
  Nat.lt_of_le_of_lt fits (by decide)

/-- A size within the limit survives the cast to 32 bits. -/
theorem toNat_ofNat_of_le_maxPayload {size : Nat} (fits : size ≤ maxPayload) :
    (UInt32.ofNat size).toNat = size := by
  rw [UInt32.toNat_ofNat']
  exact Nat.mod_eq_of_lt (lt_of_le_maxPayload fits)

@[simp] theorem length_htonl (value : UInt32) : (htonl value).length = 4 := rfl

/-- A word is read back wherever it stands in a buffer. -/
theorem ntohlAt_htonl (before after : SecureBytes) (value : UInt32) :
    ntohlAt (before ++ (htonl value ++ after)) before.length = some value := by
  simp only [ntohlAt, List.drop_left, htonl, List.cons_append, List.nil_append,
    uint32_assemble]

theorem ntohlAt_htonl_zero (after : SecureBytes) (value : UInt32) :
    ntohlAt (htonl value ++ after) 0 = some value :=
  ntohlAt_htonl [] after value

/-- A word is there exactly when four bytes are. -/
theorem ntohlAt_isSome {buf : SecureBytes} {offset : Nat} {value : UInt32}
    (read : ntohlAt buf offset = some value) : offset + 4 ≤ buf.length := by
  unfold ntohlAt at read
  split at read
  · next dropped =>
      have size := congrArg List.length dropped
      simp only [List.length_drop, List.length_cons] at size
      omega
  · cases read

private theorem byte_of_shift {value : UInt32} (byte : UInt8) (shift : UInt32)
    (index : Nat) (inWord : index < 4) (shiftEq : shift.toNat = 8 * index)
    (here : LittleEndian.byteAt value.toNat index = byte.toNat) :
    ((value >>> shift) &&& 0xFF).toUInt8 = byte := by
  have small : shift.toNat % 32 = 8 * index := by omega
  have mask : (0xFF : UInt32).toNat = 2 ^ 8 - 1 := rfl
  apply UInt8.toNat_inj.mp
  rw [UInt32.toNat_toUInt8, UInt32.toNat_and, UInt32.toNat_shiftRight, small,
    mask, Nat.and_two_pow_sub_one_eq_mod, Nat.mod_mod]
  exact here

private theorem toNat_shifted (byte : UInt8) {shift : UInt32}
    (within : shift.toNat ≤ 24) :
    (byte.toUInt32 <<< shift).toNat = byte.toNat <<< shift.toNat := by
  have inWord : byte.toNat <<< shift.toNat < 2 ^ 32 := by
    rw [Nat.shiftLeft_eq]
    calc byte.toNat * 2 ^ shift.toNat
        < 2 ^ 8 * 2 ^ shift.toNat :=
          Nat.mul_lt_mul_of_pos_right byte.toNat_lt (Nat.two_pow_pos _)
      _ = 2 ^ (8 + shift.toNat) := (Nat.pow_add 2 8 _).symm
      _ ≤ 2 ^ 32 := Nat.pow_le_pow_right (by decide) (by omega)
  rw [UInt32.toNat_shiftLeft, UInt8.toNat_toUInt32,
    Nat.mod_eq_of_lt (Nat.lt_of_le_of_lt within (by decide)),
    Nat.mod_eq_of_lt inWord]

/-- The four bytes of a buffer from which a word was read are those that stand
for it. -/
theorem htonl_of_ntohlAt {buf : SecureBytes} {value : UInt32}
    (read : ntohlAt buf 0 = some value) :
    buf = htonl value ++ buf.drop 4 := by
  unfold ntohlAt at read
  rw [List.drop_zero] at read
  split at read
  · next byte0 byte1 byte2 byte3 rest =>
      let bytes : Nat → Nat
        | 0 => byte3.toNat
        | 1 => byte2.toNat
        | 2 => byte1.toNat
        | _ => byte0.toNat
      have small : ∀ index, bytes index < 2 ^ 8
        | 0 => byte3.toNat_lt
        | 1 => byte2.toNat_lt
        | 2 => byte1.toNat_lt
        | _ + 3 => byte0.toNat_lt
      have whole : value.toNat = LittleEndian.assemble bytes 4 := by
        cases read
        rw [UInt32.toNat_or, UInt32.toNat_or, UInt32.toNat_or,
          toNat_shifted byte2 (by decide), toNat_shifted byte1 (by decide),
          toNat_shifted byte0 (by decide), UInt8.toNat_toUInt32]
        simp [LittleEndian.assemble, bytes]
      have byteOf : ∀ index, index < 4 →
          LittleEndian.byteAt value.toNat index = bytes index := by
        intro index inWord
        rw [whole]
        exact LittleEndian.byteAt_assemble small inWord
      have lowest : (value &&& 0xFF).toUInt8 = byte3 := by
        simpa using byte_of_shift byte3 0 0 (by decide) rfl
          (byteOf 0 (by decide))
      rw [htonl, byte_of_shift byte0 24 3 (by decide) rfl
          (byteOf 3 (by decide)),
        byte_of_shift byte1 16 2 (by decide) rfl (byteOf 2 (by decide)),
        byte_of_shift byte2 8 1 (by decide) rfl (byteOf 1 (by decide)),
        lowest]
      rfl
  · cases read

/-! ## Strings -/

theorem appendPrefixed_eq (buf str : SecureBytes) :
    appendPrefixed buf str = buf ++ appendPrefixed [] str := by
  simp only [appendPrefixed, List.nil_append, List.append_assoc]

@[simp] theorem length_appendPrefixed (str : SecureBytes) :
    (appendPrefixed [] str).length = 4 + str.length := by
  simp only [appendPrefixed, List.nil_append, List.length_append, length_htonl]

theorem ntohlAt_appendPrefixed {str : SecureString}
    (short : str.length < 4294967296) (before after : SecureBytes) :
    ntohlAt (before ++ (appendPrefixed [] str ++ after)) before.length =
        some (UInt32.ofNat str.length) ∧
      (UInt32.ofNat str.length).toNat = str.length := by
  constructor
  · simp only [appendPrefixed, List.nil_append, List.append_assoc]
    exact ntohlAt_htonl before (str ++ after) _
  · rw [UInt32.toNat_ofNat', Nat.mod_eq_of_lt short]

/-- The bytes behind a length. -/
theorem drop_appendPrefixed (str before after : SecureBytes) :
    (before ++ (appendPrefixed [] str ++ after)).drop (before.length + 4) =
      str ++ after := by
  have cut : before ++ (appendPrefixed [] str ++ after) =
      (before ++ htonl (UInt32.ofNat str.length)) ++ (str ++ after) := by
    simp only [appendPrefixed, List.nil_append, List.append_assoc]
  rw [cut]
  refine List.drop_left' ?_
  rw [List.length_append, length_htonl]

/-- A string is read back wherever it stands in a buffer. -/
theorem extractPrefixed_appendPrefixed {str : SecureString}
    (short : str.length < 4294967296) (before after : SecureBytes) :
    extractPrefixed (before ++ (appendPrefixed [] str ++ after))
        before.length =
      (some str, before.length + 4 + str.length) := by
  obtain ⟨lengthRead, exact⟩ := ntohlAt_appendPrefixed short before after
  have body := drop_appendPrefixed str before after
  have enough : ¬ str.length >
      (before ++ (appendPrefixed [] str ++ after)).length -
        (before.length + 4) := by
    simp only [List.length_append, length_appendPrefixed]
    omega
  simp only [extractPrefixed, lengthRead, exact, if_neg enough, body,
    List.take_left]

/-- The Rust copy reads the same string, if it is valid. -/
theorem DesktopClient.extractString_appendPrefixed {str : SecureString}
    (short : str.length < 4294967296) (valid : validUtf8 str = true)
    (before after : SecureBytes) :
    DesktopClient.extractString (before ++ (appendPrefixed [] str ++ after))
        before.length =
      .ok (⟨str, valid⟩, before.length + 4 + str.length) := by
  obtain ⟨lengthRead, exact⟩ := ntohlAt_appendPrefixed short before after
  have body := drop_appendPrefixed str before after
  have enough : ¬ before.length + 4 + str.length >
      (before ++ (appendPrefixed [] str ++ after)).length := by
    simp only [List.length_append, length_appendPrefixed]
    omega
  simp only [DesktopClient.extractString, lengthRead, exact, if_neg enough,
    body, List.take_left, dif_pos valid]

/-! ## Packets -/

/-- A packet comes out as it went in if its size, cast to 32 bits, is within
the limit, and is cut to that size. -/
theorem readPacket_serializePacket (opcode : UInt8) (payload : SecureBytes) :
    readPacket (serializePacket opcode payload) =
      if payload.length % 4294967296 > maxPayload then none
      else some (opcode, payload.take (payload.length % 4294967296)) := by
  have size : (UInt32.ofNat payload.length).toNat =
      payload.length % 4294967296 := UInt32.toNat_ofNat'
  have enough : ¬ payload.length < payload.length % 4294967296 :=
    Nat.not_lt.mpr (Nat.mod_le _ _)
  have rest : (htonl (UInt32.ofNat payload.length) ++
      opcode :: payload).drop 4 = opcode :: payload := rfl
  simp only [readPacket, serializePacket, ntohlAt_htonl_zero, size, rest,
    if_neg enough]

theorem length_serializePacket (opcode : UInt8) (payload : SecureBytes) :
    (serializePacket opcode payload).length = 5 + payload.length := by
  rw [serializePacket, List.length_append, length_htonl, List.length_cons]
  omega

/-- A packet is read from the bytes that arrive exactly when they begin with it
and it is within the limit. -/
theorem readPacket_eq_some_iff {received : SecureBytes} {opcode : UInt8}
    {payload : SecureBytes} :
    readPacket received = some (opcode, payload) ↔
      serializePacket opcode payload <+: received ∧
        payload.length ≤ maxPayload := by
  constructor
  · intro read
    unfold readPacket at read
    split at read
    · cases read
    · next payloadLen lengthRead =>
        have shape := htonl_of_ntohlAt lengthRead
        split at read
        · cases read
        · next fits =>
            split at read
            · cases read
            · next first rest afterLength =>
                split at read
                · cases read
                · next enough =>
                    cases read
                    have size : (rest.take payloadLen.toNat).length =
                        payloadLen.toNat :=
                      List.length_take_of_le (Nat.le_of_not_lt enough)
                    refine ⟨⟨rest.drop payloadLen.toNat, ?_⟩, ?_⟩
                    · rw [serializePacket, size, UInt32.ofNat_toNat,
                        List.append_assoc, List.cons_append,
                        List.take_append_drop, ← afterLength, ← shape]
                    · rw [size]
                      exact Nat.le_of_not_lt fits
  · rintro ⟨⟨rest, rfl⟩, fits⟩
    have exact := toNat_ofNat_of_le_maxPayload fits
    have whole : serializePacket opcode payload ++ rest =
        htonl (UInt32.ofNat payload.length) ++ (opcode :: (payload ++ rest)) :=
      List.append_assoc _ _ _
    have afterLength : (htonl (UInt32.ofNat payload.length) ++
        (opcode :: (payload ++ rest))).drop 4 = opcode :: (payload ++ rest) :=
      rfl
    have enough : ¬ (payload ++ rest).length < payload.length := by
      rw [List.length_append]
      exact Nat.not_lt.mpr (Nat.le_add_right _ _)
    simp only [readPacket, whole, ntohlAt_htonl_zero, exact,
      if_neg (Nat.not_lt.mpr fits), afterLength, if_neg enough,
      List.take_left]

theorem readPacket_of_fits {opcode : UInt8} {payload : SecureBytes}
    (fits : payload.length ≤ maxPayload) :
    readPacket (serializePacket opcode payload) = some (opcode, payload) :=
  readPacket_eq_some_iff.mpr ⟨List.prefix_rfl, fits⟩

/-! ## Exchanges -/

/-- An answer within the limit reaches the client of `ipc.cpp` as it was
sent. -/
theorem IpcClient.exchange_eq {connection : Connection}
    {command : CommandOpcode} {payload : SecureBytes} {sendFailure : String}
    {response : Response} (connected : connection.connected = true)
    (written : connection.written = true)
    (received : connection.received (serializePacket command.toByte payload) =
      response.bytes)
    (fits : response.payload.length ≤ maxPayload) :
    IpcClient.exchange connection command payload sendFailure =
      .ok (response.status, response.payload) := by
  simp only [IpcClient.exchange, connected, written, Bool.not_true,
    Bool.false_eq_true, if_false, received, Response.bytes,
    readPacket_of_fits fits]

/-- The same for the Rust client, if it knows the status. -/
theorem DesktopClient.exchangePacket_eq {connection : Connection}
    {failure : IoError} {command : CommandOpcode} {payload : SecureBytes}
    {response : Response} {status : Status}
    (small : payload.length ≤ maxPayload)
    (connected : connection.connected = true)
    (written : connection.written = true)
    (received : connection.received (serializePacket command.toByte payload) =
      response.bytes)
    (fits : response.payload.length ≤ maxPayload)
    (known : Status.ofByte response.status = .ok status) :
    DesktopClient.exchangePacket connection failure command payload =
      .ok (status, response.payload) := by
  have exact := toNat_ofNat_of_le_maxPayload fits
  have bytes : response.bytes =
      htonl (UInt32.ofNat response.payload.length) ++
        response.status :: response.payload := rfl
  have rest : (htonl (UInt32.ofNat response.payload.length) ++
      response.status :: response.payload).drop 4 =
        response.status :: response.payload := rfl
  rw [bytes] at received
  simp only [DesktopClient.exchangePacket, if_neg (Nat.not_lt.mpr small),
    connected, written, Bool.and_self, Bool.not_true, Bool.false_eq_true,
    if_false, received, ntohlAt_htonl_zero, exact,
    if_neg (Nat.not_lt.mpr fits), rest, known, bind, Except.bind,
    Nat.lt_irrefl, pure, Except.pure, List.take_length]

end DuckPass
