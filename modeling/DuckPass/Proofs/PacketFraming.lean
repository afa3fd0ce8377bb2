/-
Module: DuckPass.Proofs.PacketFraming
Purpose: Reading and writing exactly so many bytes over calls that transfer
  fewer or are interrupted, and from it the framing of packets: the fragments
  in which a stream arrives make no difference.
Trusted boundary: a stream socket delivers the bytes written to it in order.
Main exports: Socket.readLoop_spec, Socket.writeLoop_spec, Socket.readAll_eq,
  Socket.readPacket_spec, Framing, packet_framing
-/
import DuckPass.Core.Socket
import DuckPass.Proofs.Ipc

namespace DuckPass

namespace Socket

/-- Calls may transfer any number of bytes and may be interrupted, but none
fails. -/
def Reliable (socket : Socket) : Prop :=
  SocketReply.failed ∉ socket.reads ∧ SocketReply.failed ∉ socket.writes

/-! ## Loops -/

/-- What the reading loop has so far, it keeps; the rest of what it was asked
for comes from the front of the stream. -/
theorem readLoop_spec {replies : List SocketReply}
    (reliable : SocketReply.failed ∉ replies) (incoming : SecureBytes)
    (remaining : Nat) (buffer : SecureBytes) :
    (readLoop replies incoming remaining buffer).bytes =
        (if incoming.length < remaining then none
          else some (buffer ++ incoming.take remaining)) ∧
      (readLoop replies incoming remaining buffer).incoming =
        incoming.drop remaining ∧
      SocketReply.failed ∉ (readLoop replies incoming remaining buffer).reads := by
  induction replies generalizing incoming remaining buffer with
  | nil =>
      unfold readLoop
      split
      · next short =>
          exact ⟨rfl, (List.drop_eq_nil_of_le (Nat.le_of_lt short)).symm,
            List.not_mem_nil⟩
      · exact ⟨rfl, rfl, List.not_mem_nil⟩
  | cons reply replies inductionHypothesis =>
      rw [List.mem_cons, not_or] at reliable
      obtain ⟨notFailed, laterReliable⟩ := reliable
      unfold readLoop
      split
      · next finished =>
          subst finished
          refine ⟨by simp, rfl, ?_⟩
          rw [List.mem_cons, not_or]
          exact ⟨notFailed, laterReliable⟩
      · next more =>
          cases reply with
          | interrupted => exact inductionHypothesis laterReliable _ _ _
          | failed => exact absurd rfl notFailed
          | transferred beyond =>
              dsimp only
              split
              · next ended =>
                  rw [List.isEmpty_iff] at ended
                  subst ended
                  have short : ([] : SecureBytes).length < remaining :=
                    Nat.pos_of_ne_zero more
                  rw [if_pos short]
                  exact ⟨rfl, List.drop_nil.symm, laterReliable⟩
              · obtain ⟨bytes, rest, reliable⟩ := inductionHypothesis
                  laterReliable
                  (incoming.drop
                    (incoming.take (min (beyond + 1) remaining)).length)
                  (remaining -
                    (incoming.take (min (beyond + 1) remaining)).length)
                  (buffer ++ incoming.take (min (beyond + 1) remaining))
                have cut : incoming.take (min (beyond + 1) remaining) =
                    incoming.take
                      (incoming.take (min (beyond + 1) remaining)).length := by
                  rw [List.length_take, List.take_eq_take_iff]
                  omega
                have within :
                    (incoming.take (min (beyond + 1) remaining)).length ≤
                      min remaining incoming.length := by
                  rw [List.length_take]
                  omega
                generalize (incoming.take
                  (min (beyond + 1) remaining)).length = size
                  at cut within bytes rest reliable ⊢
                have chunked : size ≤ remaining := by omega
                rw [cut] at bytes rest reliable ⊢
                refine ⟨?_, ?_, reliable⟩
                · rw [bytes, List.length_drop]
                  have whole : incoming.take remaining = incoming.take size ++
                      (incoming.drop size).take (remaining - size) := by
                    rw [← List.take_add, Nat.add_sub_cancel' chunked]
                  rw [whole, List.append_assoc]
                  by_cases short : incoming.length < remaining
                  · rw [if_pos short, if_pos (by omega)]
                  · rw [if_neg short, if_neg (by omega)]
                · rw [rest, List.drop_drop, Nat.add_sub_cancel' chunked]

/-- The writing loop puts out all it was given, and puts out no more than that
even if a call fails. -/
theorem writeLoop_spec (replies : List SocketReply)
    (remaining outgoing : SecureBytes) :
    ∃ written, written <+: remaining ∧
      (writeLoop replies remaining outgoing).outgoing = outgoing ++ written ∧
      ((writeLoop replies remaining outgoing).done = true →
        written = remaining) ∧
      (SocketReply.failed ∉ replies →
        (writeLoop replies remaining outgoing).done = true) := by
  induction replies generalizing remaining outgoing with
  | nil => exact ⟨remaining, List.prefix_rfl, rfl, fun _ => rfl, fun _ => rfl⟩
  | cons reply replies inductionHypothesis =>
      unfold writeLoop
      split
      · next finished =>
          rw [List.isEmpty_iff] at finished
          subst finished
          exact ⟨[], List.prefix_rfl, (List.append_nil _).symm, fun _ => rfl,
            fun _ => rfl⟩
      · cases reply with
        | interrupted =>
            obtain ⟨written, front, result, complete, reliable⟩ :=
              inductionHypothesis remaining outgoing
            exact ⟨written, front, result, complete, fun fine =>
              reliable (List.not_mem_of_not_mem_cons fine)⟩
        | failed =>
            refine ⟨[], List.nil_prefix, (List.append_nil _).symm, ?_, ?_⟩
            · intro impossible
              cases impossible
            · intro fine
              exact absurd List.mem_cons_self fine
        | transferred beyond =>
            obtain ⟨written, ⟨unwritten, front⟩, result, complete, reliable⟩ :=
              inductionHypothesis (remaining.drop (beyond + 1))
                (outgoing ++ remaining.take (beyond + 1))
            refine ⟨remaining.take (beyond + 1) ++ written, ⟨unwritten, ?_⟩,
              ?_, ?_, ?_⟩
            · rw [List.append_assoc, front, List.take_append_drop]
            · rw [result, List.append_assoc]
            · intro ended
              rw [complete ended, List.take_append_drop]
            · intro fine
              exact reliable (List.not_mem_of_not_mem_cons fine)

/-! ## Packets -/

theorem readAll_eq {socket : Socket} (reliable : socket.Reliable)
    (length : Nat) :
    ∃ after : Socket, after.Reliable ∧
      after.incoming = socket.incoming.drop length ∧
      socket.readAll length =
        (if socket.incoming.length < length then none
          else some (socket.incoming.take length), after) := by
  obtain ⟨bytes, rest, still⟩ :=
    readLoop_spec reliable.1 socket.incoming length []
  rw [List.nil_append] at bytes
  refine ⟨(socket.readAll length).2, ⟨still, reliable.2⟩, rest, ?_⟩
  rw [← bytes]
  rfl

/-- What `read_packet` takes from a stream, if there is so much. -/
def packetSize (stream : SecureBytes) : Nat :=
  match ntohlAt stream 0 with
  | none => 4
  | some payloadLen =>
      if payloadLen.toNat > maxPayload then 4 else 5 + payloadLen.toNat

theorem ntohlAt_take (buf : SecureBytes) :
    ntohlAt (buf.take 4) 0 = ntohlAt buf 0 := by
  match buf with
  | [] => rfl
  | [_] => rfl
  | [_, _] => rfl
  | [_, _, _] => rfl
  | _ :: _ :: _ :: _ :: _ => rfl

theorem ntohlAt_of_short {buf : SecureBytes} (short : buf.length < 4) :
    ntohlAt buf 0 = none := by
  cases read : ntohlAt buf 0 with
  | none => rfl
  | some value =>
      have enough := ntohlAt_isSome read
      omega

/-- Whatever the fragments are, `read_packet` answers what stands at the front
of the stream and takes that much from it. -/
theorem readPacket_spec {socket : Socket} (reliable : socket.Reliable) :
    socket.readPacket.1 = DuckPass.readPacket socket.incoming ∧
      socket.readPacket.2.incoming =
        socket.incoming.drop (packetSize socket.incoming) := by
  obtain ⟨afterLength, reliableLength, restLength, readLength⟩ :=
    readAll_eq reliable 4
  unfold readPacket DuckPass.readPacket packetSize
  rw [readLength]
  by_cases short : socket.incoming.length < 4
  · rw [if_pos short, ntohlAt_of_short short]
    exact ⟨rfl, restLength⟩
  rw [if_neg short]
  dsimp only
  rw [ntohlAt_take]
  cases ntohlAt socket.incoming 0 with
  | none => exact ⟨rfl, restLength⟩
  | some payloadLen =>
      dsimp only
      by_cases tooLarge : payloadLen.toNat > maxPayload
      · rw [if_pos tooLarge, if_pos tooLarge, if_pos tooLarge]
        exact ⟨rfl, restLength⟩
      rw [if_neg tooLarge, if_neg tooLarge, if_neg tooLarge]
      obtain ⟨afterOpcode, reliableOpcode, restOpcode, readOpcode⟩ :=
        readAll_eq reliableLength 1
      -- What the packet takes, it takes in three reads.
      have taken : socket.incoming.drop (5 + payloadLen.toNat) =
          afterOpcode.incoming.drop payloadLen.toNat := by
        rw [restOpcode, restLength, List.drop_drop, List.drop_drop,
          ← Nat.add_assoc]
      rw [taken, readOpcode]
      rw [restLength] at restOpcode readOpcode ⊢
      cases behind : socket.incoming.drop 4 with
      | nil =>
          rw [behind] at restOpcode
          refine ⟨rfl, ?_⟩
          rw [restOpcode]
          exact restOpcode.trans List.drop_nil.symm
      | cons opcode rest =>
          rw [behind] at restOpcode
          have one : ¬ (opcode :: rest).length < 1 :=
            Nat.not_lt.mpr (Nat.le_add_left _ _)
          rw [if_neg one]
          dsimp only [List.take, List.drop] at restOpcode ⊢
          obtain ⟨afterPayload, _, restPayload, readPayload⟩ :=
            readAll_eq reliableOpcode payloadLen.toNat
          rw [restOpcode] at restPayload readPayload ⊢
          rw [readPayload]
          by_cases empty : payloadLen.toNat > 0
          · rw [if_pos empty]
            by_cases cut : rest.length < payloadLen.toNat
            · rw [if_pos cut, if_pos cut]
              exact ⟨rfl, restPayload⟩
            · rw [if_neg cut, if_neg cut]
              exact ⟨rfl, restPayload⟩
          · have zero : payloadLen.toNat = 0 := Nat.eq_zero_of_not_pos empty
            rw [if_neg empty, zero, if_neg (Nat.not_lt_zero _)]
            exact ⟨rfl, restOpcode⟩

theorem writePacket_emits {socket : Socket} (reliable : socket.Reliable)
    (opcode : UInt8) (payload : SecureBytes) :
    (socket.writePacket opcode payload).1 = true ∧
      (socket.writePacket opcode payload).2.outgoing =
        socket.outgoing ++ serializePacket opcode payload := by
  obtain ⟨written, _, result, complete, finishes⟩ := writeLoop_spec
    socket.writes (serializePacket opcode payload) socket.outgoing
  have done := finishes reliable.2
  rw [complete done] at result
  exact ⟨done, result⟩

end Socket

/-! ## Main result -/

/-- What a socket gives to `read_packet` and takes from `write_packet`. -/
structure Framing (socket : Socket) : Prop where
  accepts : ∀ opcode payload,
    socket.readPacket.1 = some (opcode, payload) ↔
      serializePacket opcode payload <+: socket.incoming ∧
        payload.length ≤ maxPayload
  consumes : ∀ opcode payload,
    socket.readPacket.1 = some (opcode, payload) →
      socket.incoming =
          serializePacket opcode payload ++ socket.readPacket.2.incoming ∧
        (serializePacket opcode payload).length = 5 + payload.length
  endsEarly :
    (∀ payloadLen, ntohlAt socket.incoming 0 = some payloadLen →
      socket.incoming.length < 5 + payloadLen.toNat) →
    socket.readPacket.1 = none
  oversize : ∀ payloadLen, ntohlAt socket.incoming 0 = some payloadLen →
    payloadLen.toNat > maxPayload →
    socket.readPacket.1 = none ∧
      socket.readPacket.2.incoming = socket.incoming.drop 4
  emits : ∀ opcode payload,
    (socket.writePacket opcode payload).1 = true ∧
      (socket.writePacket opcode payload).2.outgoing =
        socket.outgoing ++ serializePacket opcode payload

/-- A packet at the front of a stream declares its own length. -/
theorem ntohlAt_of_prefix {stream payload : SecureBytes} {opcode : UInt8}
    (fits : payload.length ≤ maxPayload)
    (front : serializePacket opcode payload <+: stream) :
    ∃ payloadLen, ntohlAt stream 0 = some payloadLen ∧
      payloadLen.toNat = payload.length := by
  obtain ⟨rest, rfl⟩ := front
  refine ⟨UInt32.ofNat payload.length, ?_, ?_⟩
  · rw [serializePacket, List.append_assoc]
    exact ntohlAt_htonl_zero _ _
  · exact toNat_ofNat_of_le_maxPayload fits

/-- However a stream is cut into chunks and wherever calls are interrupted, on
the way in and on the way out, packets are framed as if it came in one piece. -/
theorem packet_framing {socket : Socket} (reliable : socket.Reliable) :
    Framing socket := by
  obtain ⟨answer, rest⟩ := socket.readPacket_spec reliable
  have accepts : ∀ opcode payload,
      socket.readPacket.1 = some (opcode, payload) ↔
        serializePacket opcode payload <+: socket.incoming ∧
          payload.length ≤ maxPayload := by
    intro opcode payload
    rw [answer]
    exact readPacket_eq_some_iff
  refine ⟨accepts, ?_, ?_, ?_, socket.writePacket_emits reliable⟩
  · intro opcode payload read
    obtain ⟨front, fits⟩ := (accepts opcode payload).mp read
    obtain ⟨payloadLen, declared, exact⟩ := ntohlAt_of_prefix fits front
    have size : Socket.packetSize socket.incoming =
        (serializePacket opcode payload).length := by
      rw [length_serializePacket, ← exact]
      rw [← exact] at fits
      simp only [Socket.packetSize, declared, if_neg (Nat.not_lt.mpr fits)]
    refine ⟨?_, length_serializePacket opcode payload⟩
    rw [rest, size]
    exact (List.prefix_iff_eq_append.mp front).symm
  · intro short
    cases read : socket.readPacket.1 with
    | none => rfl
    | some packet =>
        obtain ⟨opcode, payload⟩ := packet
        obtain ⟨front, fits⟩ := (accepts opcode payload).mp read
        obtain ⟨payloadLen, declared, exact⟩ := ntohlAt_of_prefix fits front
        have cut := short payloadLen declared
        have long := front.length_le
        rw [length_serializePacket] at long
        omega
  · intro payloadLen declared tooLarge
    constructor
    · rw [answer]
      simp only [readPacket, declared, if_pos tooLarge]
    · rw [rest]
      simp only [Socket.packetSize, declared, if_pos tooLarge]

namespace PacketFraming

/-- A request that arrives byte by byte, with an interruption, and is answered
in short writes. -/
def trickle : Socket where
  incoming := serializePacket 0x01 [0x54, 0x45] ++ [0xFF]
  reads := [.transferred 0, .interrupted, .transferred 9, .transferred 0]
  outgoing := []
  writes := [.interrupted, .transferred 2]

end PacketFraming

open PacketFraming in
/-- Framing over those fragments. -/
theorem packet_framing_trickle : Framing trickle :=
  packet_framing ⟨by decide, by decide⟩

open PacketFraming in
example : trickle.readPacket.1 = some (0x01, [0x54, 0x45]) := by decide

end DuckPass
