import WrapperSynthesis.Main
import WrapperSynthesis.Model.IndexedRegistry
import WrapperSynthesis.Proofs.Program
import WrapperSynthesis.Proofs.Registry.Growth
import WrapperSynthesis.Proofs.Wrapping.Candidates
import WrapperSynthesis.Proofs.Wrapping.Refusal
import WrapperSynthesis.Proofs.Wrapping.Repetition
import WrapperSynthesis.Proofs.Service.MethodTable
import WrapperSynthesis.Proofs.Service.FaultCount
import WrapperSynthesis.Proofs.Pass.Walk
import WrapperSynthesis.Proofs.Service.Consistency
import WrapperSynthesis.Proofs.Pass.Rewiring
import WrapperSynthesis.Proofs.Pass.ReusedHandles
import WrapperSynthesis.Proofs.Pass.Settled
import WrapperSynthesis.Proofs.Pass.Acceptance
import WrapperSynthesis.Proofs.Pass.FirstRefusal
import WrapperSynthesis.Proofs.Pass.DanglingReferences
import WrapperSynthesis.Proofs.Service.OriginTable
import WrapperSynthesis.Proofs.Text.ByteOrder
import WrapperSynthesis.Proofs.Wrapping.PascalCase
import WrapperSynthesis.Proofs.Pass.Warnings
import WrapperSynthesis.Proofs.Pass.Batch
import WrapperSynthesis.Proofs.Pass.CompanionPages
import WrapperSynthesis.Proofs.Service.Editing
import WrapperSynthesis.Proofs.Registry.Renumbering
import WrapperSynthesis.Proofs.Registry.Index
import WrapperSynthesis.Proofs.Registry.Deduplication
import WrapperSynthesis.Proofs.Pass.Indexed
import WrapperSynthesis.Proofs.Pass.Agreement
import WrapperSynthesis.Proofs.Pass.Reordering
import WrapperSynthesis.Proofs.Pass.Atomicity
import WrapperSynthesis.Proofs.Pass.Masking
import WrapperSynthesis.Proofs.Pass.Stages
import WrapperSynthesis.Proofs.Json.Scan
import WrapperSynthesis.Proofs.Json.Printing
import WrapperSynthesis.Proofs.Json.Codec
import WrapperSynthesis.Proofs.Json.Record
import WrapperSynthesis.Proofs.Service.FileFormat
import WrapperSynthesis.Proofs.Json.Length
import WrapperSynthesis.Proofs.Service.FileSize
import WrapperSynthesis.Proofs.Pass.Storage
import WrapperSynthesis.Proofs.Files.Update
import WrapperSynthesis.Proofs.Files.Parent
import WrapperSynthesis.Proofs.Command.FilePass
import WrapperSynthesis.Proofs.Pass.Accounting
import WrapperSynthesis.Proofs.Wrapping.AsciiName
import WrapperSynthesis.Proofs.Pass.HandleNames
import WrapperSynthesis.Proofs.Toml.Document
import WrapperSynthesis.Proofs.Settings.SavedText
import WrapperSynthesis.Proofs.Command.SettingsFile
import WrapperSynthesis.Proofs.Json.Spelling
import WrapperSynthesis.Proofs.Json.Presentation
import WrapperSynthesis.Proofs.Service.Presentation
