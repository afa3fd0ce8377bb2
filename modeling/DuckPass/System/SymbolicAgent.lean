/-
Module: DuckPass.System.SymbolicAgent
Purpose: An agent over the symbolic primitives, its clients and the library
  calls it makes, such that runs of the event loop can be evaluated.
Trusted boundary: none
Main exports: Symbolic.library, Symbolic.serveEnv, Symbolic.client,
  Symbolic.lockedAgent, Symbolic.unlockedAgent
-/
import DuckPass.System.AgentLoop
import DuckPass.System.Symbolic
import Mathlib.Data.List.Sort

namespace DuckPass.Symbolic

/-- The secret of the TOTP tests. -/
def testSecret : SecureString :=
  textBytes "GEZDGNBVGY3TQOJQGEZDGNBVGY3TQOJQ"

/-- The digest of the counter 1 under that secret. -/
def testDigest : Bytes sha1Bytes :=
  ⟨[0x75, 0xA4, 0x8A, 0x19, 0xD4, 0xCB, 0xE1, 0x00, 0x64, 0x4E,
    0x8A, 0xC1, 0x39, 0x7E, 0xEA, 0x74, 0x7A, 0x2D, 0x33, 0xAB], rfl⟩

/-- A stable sort, and the one digest whatever is asked for. -/
def library : Library where
  hmacSha1 _ _ := some testDigest
  sortByScore := List.insertionSort fun a b => b.score ≤ a.score

/-- A call of the handler in which nothing fails. -/
def serveEnv (now : Nat) (time : UInt64) : ServeEnv where
  now := now
  clock := .constant time
  vaultPath := .ok path
  load := .none
  commit := calm

/-- A client that sends one packet: `poll` reports it after `poll` nanoseconds,
and its header, opcode and payload are read without a wait. -/
def client (command : CommandOpcode) (payload : SecureBytes)
    (checkedAt poll : Nat) (time : UInt64) : AgentServer.Client :=
  ⟨serializePacket command.toByte payload, serveEnv (checkedAt + poll) time,
    ⟨poll, [0, 0, 0], 0, 0⟩⟩

def session (vault : Vault) : VaultService :=
  ⟨path, masterPassword, vault, []⟩

def lockedAgent (timeout : UInt32) : AgentServer :=
  ⟨timeout, true, none, 0⟩

def unlockedAgent (timeout : UInt32) (vault : Vault) (lastActivity : Nat) :
    AgentServer :=
  ⟨timeout, true, some (session vault), lastActivity⟩

/-- A vault with one account. -/
def oneEntry : Vault := Vault.empty.store (entry 0x41 7)

end DuckPass.Symbolic
