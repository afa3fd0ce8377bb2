import DuckPass.Core.VaultCodec
import DuckPass.Lib.LittleEndian
import DuckPass.Proofs.VaultCodec
import DuckPass.Core.Crypto
import DuckPass.Core.LocalStorage
import DuckPass.Proofs.LocalStorage
import DuckPass.Core.Totp
import DuckPass.Core.VaultFile
import DuckPass.Proofs.VaultFile
import DuckPass.Core.VaultService
import DuckPass.Lib.LastWriter
import DuckPass.Proofs.Merge
import DuckPass.Proofs.VaultService
import DuckPass.System.SharedVault
import DuckPass.Proofs.Disk
import DuckPass.System.Symbolic
import DuckPass.Proofs.LostUpdate
import DuckPass.System.Invariant
import DuckPass.Proofs.Resurrection
import DuckPass.Proofs.DoubleAdd
import DuckPass.Proofs.PartialUpdate
import DuckPass.Proofs.SingleWriter
import DuckPass.Proofs.DiskMirror
import DuckPass.Proofs.Rekey
import DuckPass.Proofs.Convergence
import DuckPass.Proofs.LegacyFormat
import DuckPass.Proofs.Integrity
import DuckPass.Core.Ipc
import DuckPass.Core.VaultQueries
import DuckPass.Core.AgentServer
import DuckPass.Proofs.AgentServer
import DuckPass.Proofs.AgentLocked
import DuckPass.Proofs.IdleTimeout
import DuckPass.Core.DesktopClient
import DuckPass.System.Desktop
import DuckPass.Proofs.DesktopPolling
import DuckPass.Proofs.AgentPeer
import DuckPass.Proofs.AgentRefinement
import DuckPass.Proofs.AgentListing
import DuckPass.System.AgentSystem
import DuckPass.Proofs.AgentHandling
import DuckPass.Proofs.AgentSync
import DuckPass.Proofs.Validity
import DuckPass.Proofs.TimestampedFormat
import DuckPass.Proofs.MergeUnion
import DuckPass.Core.Socket
import DuckPass.Proofs.AtomicWrite
import DuckPass.Proofs.PacketFraming
import DuckPass.Core.VaultAccess
import DuckPass.Proofs.VaultAccess
import DuckPass.Proofs.MalformedRequests
import DuckPass.Proofs.ClientDecoding
import DuckPass.Proofs.ErrorResponses
import DuckPass.Core.Shell
import DuckPass.Proofs.FailedOperations
import DuckPass.Proofs.ShellPassword
import DuckPass.Proofs.FuzzyListing
import DuckPass.Lib.BitString
import DuckPass.Proofs.Base32
import DuckPass.Lib.Positional
import DuckPass.Core.TotpAccess
import DuckPass.Proofs.Totp
import DuckPass.Lib.Csv
import DuckPass.Core.ExportCommand
import DuckPass.Proofs.CsvExport
import DuckPass.Lib.Json
import DuckPass.Lib.JsonReader
import DuckPass.Proofs.JsonExport
import DuckPass.Lib.Grouping
import DuckPass.Core.AuditEngine
import DuckPass.Proofs.AuditReport
import DuckPass.Proofs.EntropyEvaluator
import DuckPass.Proofs.HibpScanner
import DuckPass.Proofs.AuditCoverage
import DuckPass.Proofs.AuditReuse
import DuckPass.Proofs.AuditStale
import DuckPass.Proofs.AuditVerdict
import DuckPass.Core.HibpRequests
import DuckPass.Proofs.HibpAnonymity
import DuckPass.Core.PasswordGenerator
import DuckPass.Core.ScoreValues
import DuckPass.Core.SecureBuffer
import DuckPass.Core.ShellInput
import DuckPass.Lib.InFlight
import DuckPass.Lib.KeyedChanges
import DuckPass.Lib.RejectionSampling
import DuckPass.Proofs.ClipboardClearing
import DuckPass.Proofs.DashboardCells
import DuckPass.Proofs.DashboardSecrets
import DuckPass.Proofs.DashboardSelection
import DuckPass.Proofs.PasswordGenerator
import DuckPass.Proofs.ScoreOverflow
import DuckPass.Proofs.SecureBuffer
import DuckPass.Proofs.ShellInput
import DuckPass.Proofs.ShellEnd
import DuckPass.Proofs.VaultMap
import DuckPass.Proofs.WorkerProtocol
import DuckPass.Proofs.StoreRuns
import DuckPass.Proofs.AgentSocket
import DuckPass.Proofs.BackupHistory
import DuckPass.Proofs.ProtectedVault
import DuckPass.Proofs.CompletedLine
import DuckPass.Proofs.AuditThreads
import DuckPass.Proofs.TerminalGuards
import DuckPass.Proofs.TerminalShell
