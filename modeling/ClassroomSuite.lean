import ClassroomSuite.Builder.Checksums
import ClassroomSuite.Builder.Cleanup
import ClassroomSuite.Builder.Coherence
import ClassroomSuite.Builder.Context
import ClassroomSuite.Builder.Elsewhere
import ClassroomSuite.Builder.FallibleStages
import ClassroomSuite.Builder.FileSafety
import ClassroomSuite.Builder.Locality
import ClassroomSuite.Builder.Manifest
import ClassroomSuite.Builder.ManifestOnDisk
import ClassroomSuite.Builder.ManifestRoundTrip
import ClassroomSuite.Builder.Models
import ClassroomSuite.Builder.NoTrace
import ClassroomSuite.Builder.Pipeline
import ClassroomSuite.Builder.PipelineLaw
import ClassroomSuite.Builder.Refusal
import ClassroomSuite.Builder.Selection
import ClassroomSuite.Builder.Separate
import ClassroomSuite.Builder.StageInvariants
import ClassroomSuite.Builder.Stages
import ClassroomSuite.Builder.WorkspaceAtomic
import ClassroomSuite.Cli.ArgvNormalize
import ClassroomSuite.Cli.EndOfOptions
import ClassroomSuite.Cli.Idempotence
import ClassroomSuite.Cli.OptionPlacement
import ClassroomSuite.Cli.PluginDispatch
import ClassroomSuite.Cli.Redaction
import ClassroomSuite.Cli.StablePartition
import ClassroomSuite.Cli.Ulid
import ClassroomSuite.Commands.Agreement
import ClassroomSuite.Commands.Doctor
import ClassroomSuite.Commands.Inventory
import ClassroomSuite.Commands.Main
import ClassroomSuite.Commands.Results
import ClassroomSuite.Commands.Tools
import ClassroomSuite.Commands.Validate
import ClassroomSuite.Config.BootManagerFormats
import ClassroomSuite.Config.ClassroomFormats
import ClassroomSuite.Config.ContentErrors
import ClassroomSuite.Config.Document
import ClassroomSuite.Config.EnvNames
import ClassroomSuite.Config.Loader
import ClassroomSuite.Config.MenuUsable
import ClassroomSuite.Config.Models
import ClassroomSuite.Config.OverridePrecedence
import ClassroomSuite.Config.Overrides
import ClassroomSuite.Config.PathUpdate
import ClassroomSuite.Config.Precedence
import ClassroomSuite.Config.SemanticFindings
import ClassroomSuite.Config.SetStrings
import ClassroomSuite.Config.Validator
import ClassroomSuite.Inventory.Collectors
import ClassroomSuite.Inventory.Discovery
import ClassroomSuite.Inventory.Doctor
import ClassroomSuite.Inventory.FirmwareCoherence
import ClassroomSuite.Inventory.Legibility
import ClassroomSuite.Inventory.Machine
import ClassroomSuite.Inventory.MainInventory
import ClassroomSuite.Inventory.MountLookup
import ClassroomSuite.Inventory.Orchestrator
import ClassroomSuite.Inventory.ParentDisk
import ClassroomSuite.Inventory.Service
import ClassroomSuite.Inventory.SnapshotFormat
import ClassroomSuite.Inventory.SnapshotInvariants
import ClassroomSuite.Inventory.StorageIsolation
import ClassroomSuite.Library.Assoc
import ClassroomSuite.Library.Creation
import ClassroomSuite.Library.Disk
import ClassroomSuite.Library.FileTree
import ClassroomSuite.Library.Forest
import ClassroomSuite.Library.Hoare
import ClassroomSuite.Library.LastWriter
import ClassroomSuite.Library.Numbering
import ClassroomSuite.Library.Occurrences
import ClassroomSuite.Library.PurePath
import ClassroomSuite.Library.Radix
import ClassroomSuite.Library.Raises
import ClassroomSuite.Library.Region
import ClassroomSuite.Library.Relational
import ClassroomSuite.Library.RequestLog
import ClassroomSuite.Library.Text
import ClassroomSuite.Library.Traversal
import ClassroomSuite.Library.Words
import ClassroomSuite.Platform.Efi.Adapter
import ClassroomSuite.Platform.Efi.EntryLines
import ClassroomSuite.Platform.Efi.Models
import ClassroomSuite.Platform.Efi.Parser
import ClassroomSuite.Platform.Efi.RoundTrip
import ClassroomSuite.Platform.Execution
import ClassroomSuite.Platform.Filesystem.Adapter
import ClassroomSuite.Platform.Filesystem.Classification
import ClassroomSuite.Platform.Filesystem.Parser
import ClassroomSuite.Platform.Filesystem.RoundTrip
import ClassroomSuite.Platform.Network.Adapter
import ClassroomSuite.Platform.Network.Isolation
import ClassroomSuite.Platform.Network.Parser
import ClassroomSuite.Platform.Network.RoundTrip
import ClassroomSuite.Platform.Requests
import ClassroomSuite.Platform.SecureBoot.Adapter
import ClassroomSuite.Platform.SecureBoot.Models
import ClassroomSuite.Platform.SecureBoot.Parser
import ClassroomSuite.Platform.SecureBoot.Soundness
import ClassroomSuite.Platform.Storage.Adapter
import ClassroomSuite.Platform.Storage.Consistency
import ClassroomSuite.Platform.Storage.DeviceTree
import ClassroomSuite.Platform.Storage.Merge
import ClassroomSuite.Platform.Storage.Models
import ClassroomSuite.Platform.Storage.MountFacts
import ClassroomSuite.Platform.Storage.MountForest
import ClassroomSuite.Platform.Storage.Parser
import ClassroomSuite.Platform.Storage.PartitionNumbers
import ClassroomSuite.Platform.Storage.Printing
import ClassroomSuite.Platform.Storage.RoundTrip
import ClassroomSuite.Platform.Storage.Strays
import ClassroomSuite.Platform.SubprocessRunner
import ClassroomSuite.Python.Codec
import ClassroomSuite.Python.FormatTerms
import ClassroomSuite.Python.Json
import ClassroomSuite.Python.JsonSchema
import ClassroomSuite.Python.LaxModel
import ClassroomSuite.Python.Lines
import ClassroomSuite.Python.Mirroring
import ClassroomSuite.Python.ModelReader
import ClassroomSuite.Python.Text
import ClassroomSuite.Python.Validation
