/-
Module: DuckPass.Core.Ipc
Purpose: The wire format between the agent and its clients: length-prefixed
  strings in network byte order, packets with their size limit, opcodes and
  status bytes, as `ipc.cpp` and `agent_server.cpp` write and read them.
Trusted boundary: a socket delivers the bytes written to it in order.
Main exports: htonl, ntohlAt, appendPrefixed, extractPrefixed, serializePacket,
  readPacket, CommandOpcode, ResponseStatus, Response
-/
import DuckPass.Core.Types

namespace DuckPass

/-! ## Network byte order -/

/-- The four bytes in which `htonl` leaves a word in memory. -/
def htonl (value : UInt32) : SecureBytes :=
  [((value >>> 24) &&& 0xFF).toUInt8,
    ((value >>> 16) &&& 0xFF).toUInt8,
    ((value >>> 8) &&& 0xFF).toUInt8,
    (value &&& 0xFF).toUInt8]

/-- `memcpy` of four bytes at the offset and `ntohl`; nothing if fewer than
four bytes are left there. -/
def ntohlAt (buf : SecureBytes) (offset : Nat) : Option UInt32 :=
  match buf.drop offset with
  | byte0 :: byte1 :: byte2 :: byte3 :: _ =>
      some (byte3.toUInt32 ||| (byte2.toUInt32 <<< 8) |||
        (byte1.toUInt32 <<< 16) ||| (byte0.toUInt32 <<< 24))
  | _ => none

/-! ## Length-prefixed strings

The agent and its client each have their own copies of the two functions, for
`std::string` and for `SecureString`. -/

/-- A length cast to 32 bits and then the bytes. -/
def appendPrefixed (buf : SecureBytes) (str : SecureString) : SecureBytes :=
  buf ++ htonl (UInt32.ofNat str.length) ++ str

/-- The string at the offset, or nothing, and the offset the caller goes on
with.  A length that fits where the string does not has been taken already. -/
def extractPrefixed (buf : SecureBytes) (offset : Nat) :
    Option SecureString × Nat :=
  match ntohlAt buf offset with
  | none => (none, offset)
  | some len =>
      if len.toNat > buf.length - (offset + 4) then (none, offset + 4)
      else
        (some ((buf.drop (offset + 4)).take len.toNat),
          offset + 4 + len.toNat)

namespace AgentServer

/-- `append_str` of `agent_server.cpp`. -/
def appendStr := appendPrefixed

/-- `append_sec_str` of `agent_server.cpp`. -/
def appendSecStr := appendPrefixed

/-- `extract_sec_str` of `agent_server.cpp`. -/
def extractSecStr := extractPrefixed

/-- `extract_str` of `agent_server.cpp`. -/
def extractStr := extractPrefixed

end AgentServer

namespace IpcClient

/-- `append_string` of `ipc.cpp`. -/
def appendString := appendPrefixed

/-- `append_secure_string` of `ipc.cpp`. -/
def appendSecureString := appendPrefixed

/-- `extract_string` of `ipc.cpp`. -/
def extractString := extractPrefixed

/-- `extract_secure_string` of `ipc.cpp`. -/
def extractSecureString := extractPrefixed

end IpcClient

/-! ## Packets -/

/-- The limit that `read_packet` puts on a payload, 2 MiB.  `write_packet` puts
none. -/
def maxPayload : Nat := 2 * 1024 * 1024

/-- `serialize_packet`, the bytes that `write_packet` sends. -/
def serializePacket (opcode : UInt8) (payload : SecureBytes) : SecureBytes :=
  htonl (UInt32.ofNat payload.length) ++ opcode :: payload

/-- `read_packet` on the bytes that arrive before the connection ends or times
out. -/
def readPacket (received : SecureBytes) : Option (UInt8 × SecureBytes) :=
  match ntohlAt received 0 with
  | none => none
  | some payloadLen =>
      if payloadLen.toNat > maxPayload then none
      else
        match received.drop 4 with
        | [] => none
        | opcode :: rest =>
            if rest.length < payloadLen.toNat then none
            else some (opcode, rest.take payloadLen.toNat)

/-! ## Opcodes and statuses -/

inductive CommandOpcode where
  | ping
  | status
  | unlock
  | lock
  | getEntry
  | addEntry
  | deleteEntry
  | listEntries
  | getTotp
  | stop
deriving Repr, Inhabited, DecidableEq

namespace CommandOpcode

def toByte : CommandOpcode → UInt8
  | ping => 0x01
  | status => 0x02
  | unlock => 0x03
  | lock => 0x04
  | getEntry => 0x05
  | addEntry => 0x06
  | deleteEntry => 0x07
  | listEntries => 0x08
  | getTotp => 0x09
  | stop => 0x0A

/-- The case of the handler's `switch` that the byte selects, if any. -/
def ofByte (byte : UInt8) : Option CommandOpcode :=
  [ping, status, unlock, lock, getEntry, addEntry, deleteEntry, listEntries,
    getTotp, stop].find? fun command => command.toByte = byte

/-- Every opcode is read back from its byte. -/
theorem ofByte_toByte (command : CommandOpcode) :
    ofByte command.toByte = some command := by
  cases command <;> rfl

end CommandOpcode

inductive ResponseStatus where
  | ok
  | locked
  | error
  | notFound
deriving Repr, Inhabited, DecidableEq

def ResponseStatus.toByte : ResponseStatus → UInt8
  | ok => 0x00
  | locked => 0x01
  | error => 0x02
  | notFound => 0x03

/-- What a PING is answered with. -/
def pongByte : UInt8 := 0x81

/-- The arguments of the `write_packet` call that answers a request. -/
structure Response where
  status : UInt8
  payload : SecureBytes
deriving Repr, Inhabited, DecidableEq

/-- The bytes that are sent back. -/
def Response.bytes (response : Response) : SecureBytes :=
  serializePacket response.status response.payload

end DuckPass
