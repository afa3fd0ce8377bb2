/-
Module: DuckPass.Core.Socket
Purpose: The two ends of a stream socket as `ipc.cpp` uses them: the loops that
  read and write exactly so many bytes over calls that transfer fewer, and the
  packets read and written through them.
Trusted boundary: a stream socket delivers the bytes written to it in order.
Main exports: SocketReply, Socket, Socket.readAll, Socket.writeAll,
  Socket.readPacket, Socket.writePacket
-/
import DuckPass.Core.Ipc

namespace DuckPass

/-- How one `read(2)` or `write(2)` on a socket goes: it transfers at least one
byte and at most `more` others, it is interrupted (`EINTR`), or it fails, as it
also does when the timeout of the socket expires. -/
inductive SocketReply where
  | transferred (more : Nat)
  | interrupted
  | failed
deriving Repr, Inhabited, DecidableEq

/-- One end of a connection: the bytes that the peer sends before it closes,
less those that were read, the bytes written, and how the coming calls go.
Calls beyond the listed ones transfer all that they are asked for, or all that
there is. -/
structure Socket where
  incoming : SecureBytes
  reads : List SocketReply
  outgoing : SecureBytes
  writes : List SocketReply
deriving Repr, Inhabited, DecidableEq

namespace Socket

/-- What a loop that reads makes of the socket: the bytes it got, or nothing if
it returned `false`, what is left of the stream, and the replies not used. -/
structure Reading where
  bytes : Option SecureBytes
  incoming : SecureBytes
  reads : List SocketReply
deriving Repr, Inhabited, DecidableEq

/-- The loop of `read_all` with `remaining` bytes to go and those it has in the
buffer.  A call on a stream that has ended answers 0. -/
def readLoop : List SocketReply → (incoming : SecureBytes) →
    (remaining : Nat) → (buffer : SecureBytes) → Reading
  | [], incoming, remaining, buffer =>
      if incoming.length < remaining then ⟨none, [], []⟩
      else
        ⟨some (buffer ++ incoming.take remaining), incoming.drop remaining, []⟩
  | reply :: replies, incoming, remaining, buffer =>
      if remaining = 0 then ⟨some buffer, incoming, reply :: replies⟩
      else
        match reply with
        | .interrupted => readLoop replies incoming remaining buffer
        | .failed => ⟨none, incoming, replies⟩
        | .transferred more =>
            if incoming.isEmpty then ⟨none, [], replies⟩
            else
              let chunk := incoming.take (min (more + 1) remaining)
              readLoop replies (incoming.drop chunk.length)
                (remaining - chunk.length) (buffer ++ chunk)

/-- `read_all`. -/
def readAll (socket : Socket) (length : Nat) : Option SecureBytes × Socket :=
  let reading := readLoop socket.reads socket.incoming length []
  (reading.bytes,
    { socket with incoming := reading.incoming, reads := reading.reads })

/-- What a loop that writes makes of the socket. -/
structure Writing where
  done : Bool
  outgoing : SecureBytes
  writes : List SocketReply
deriving Repr, Inhabited, DecidableEq

/-- The loop of `write_all`. -/
def writeLoop : List SocketReply → (remaining outgoing : SecureBytes) → Writing
  | [], remaining, outgoing => ⟨true, outgoing ++ remaining, []⟩
  | reply :: replies, remaining, outgoing =>
      if remaining.isEmpty then ⟨true, outgoing, reply :: replies⟩
      else
        match reply with
        | .interrupted => writeLoop replies remaining outgoing
        | .failed => ⟨false, outgoing, replies⟩
        | .transferred more =>
            writeLoop replies (remaining.drop (more + 1))
              (outgoing ++ remaining.take (more + 1))

/-- `write_all`. -/
def writeAll (socket : Socket) (buffer : SecureBytes) : Bool × Socket :=
  let writing := writeLoop socket.writes buffer socket.outgoing
  (writing.done,
    { socket with outgoing := writing.outgoing, writes := writing.writes })

/-- `read_packet`. -/
def readPacket (socket : Socket) :
    Option (UInt8 × SecureBytes) × Socket :=
  match socket.readAll 4 with
  | (none, socket) => (none, socket)
  | (some rawLen, socket) =>
      match ntohlAt rawLen 0 with
      | none => (none, socket)
      | some payloadLen =>
          if payloadLen.toNat > maxPayload then (none, socket)
          else
            match socket.readAll 1 with
            | (some [opcode], socket) =>
                if payloadLen.toNat > 0 then
                  match socket.readAll payloadLen.toNat with
                  | (some payload, socket) => (some (opcode, payload), socket)
                  | (none, socket) => (none, socket)
                else (some (opcode, []), socket)
            | (_, socket) => (none, socket)

/-- `write_packet`. -/
def writePacket (socket : Socket) (opcode : UInt8) (payload : SecureBytes) :
    Bool × Socket :=
  socket.writeAll (serializePacket opcode payload)

end Socket

end DuckPass
