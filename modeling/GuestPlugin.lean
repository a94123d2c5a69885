import GuestPlugin.Host.Runs
import GuestPlugin.Loader.Inspect
import GuestPlugin.Loader.Operation
import GuestPlugin.Storage.FileTree
import GuestPlugin.Proofs.Region.Alignment
import GuestPlugin.Proofs.Region.Placement
import GuestPlugin.Proofs.Bytes.Splice
import GuestPlugin.Proofs.Region.Staging
import GuestPlugin.Proofs.Region.ControlBlock
import GuestPlugin.Proofs.Host.Inversion
import GuestPlugin.Proofs.Host.Oracle
import GuestPlugin.Proofs.Lookup
import GuestPlugin.Proofs.Guest.Attach
import GuestPlugin.Proofs.Container.Reading
import GuestPlugin.Proofs.Loader.Stages
import GuestPlugin.Proofs.Loader.Course
import GuestPlugin.Proofs.Loader.Operation
import GuestPlugin.Proofs.Guest.Footprint
import GuestPlugin.Proofs.Loader.FailedLoad
import GuestPlugin.Proofs.Container.Acceptance
import GuestPlugin.Proofs.Loader.LoadedImage
import GuestPlugin.Proofs.Host.BlockLedger
import GuestPlugin.Proofs.Loader.History
import GuestPlugin.Proofs.Loader.Lifecycle
import GuestPlugin.Proofs.Host.FixedAnswers
import GuestPlugin.Proofs.Container.Contents
import GuestPlugin.Proofs.Text.Utf8
import GuestPlugin.Proofs.Container.Encoding
import GuestPlugin.Proofs.Guest.WordAccess
import GuestPlugin.Proofs.Guest.Memory
import GuestPlugin.Proofs.Host.MappingLedger
import GuestPlugin.Proofs.Loader.Superseded
import GuestPlugin.Proofs.Loader.CallOrder
import GuestPlugin.Proofs.Loader.EntryMemory
import GuestPlugin.Proofs.Loader.OriginalWords
import GuestPlugin.Proofs.Loader.Independence
import GuestPlugin.Proofs.Loader.ForcedUse
import GuestPlugin.Proofs.Container.FieldOrder
import GuestPlugin.Proofs.Region.StagedBytes
import GuestPlugin.Proofs.Container.Faults
import GuestPlugin.Proofs.Host.Reports
import GuestPlugin.Proofs.Loader.Transitions
import GuestPlugin.Proofs.Loader.Bounds
import GuestPlugin.Proofs.Region.Capacity
import GuestPlugin.Proofs.Storage.Faults
import GuestPlugin.Proofs.Region.StagingVerdict
import GuestPlugin.Proofs.Container.StreamVerdict
import GuestPlugin.Proofs.Guest.Nesting
import GuestPlugin.Proofs.Container.Admission
import GuestPlugin.Proofs.Lookup.Resolution
import GuestPlugin.Proofs.Guest.Handover
import GuestPlugin.Proofs.Region.Transcription
import GuestPlugin.Proofs.Host.SingleBlock
import GuestPlugin.Proofs.Container.Extension
import GuestPlugin.Proofs.Loader.AttachedContext
import GuestPlugin.Proofs.Text.Hex
import GuestPlugin.Proofs.Title
import GuestPlugin.Proofs.Storage.Candidate
import GuestPlugin.Proofs.Container.SparePart
import GuestPlugin.Proofs.Region.EmptyPart
