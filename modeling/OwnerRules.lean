import OwnerRules.Simulation.Session
import OwnerRules.Proofs.Course
import OwnerRules.Proofs.Operation
import OwnerRules.Proofs.CallOrder
import OwnerRules.Proofs.Descriptor
import OwnerRules.Proofs.SessionRun
import OwnerRules.Proofs.StoredRules
import OwnerRules.Proofs.KernelMap
import OwnerRules.Proofs.ClearedBits
import OwnerRules.Proofs.Finished
import OwnerRules.Proofs.StepOperation
import OwnerRules.Proofs.ByteSession
import OwnerRules.Proofs.Accounts
import OwnerRules.Proofs.SurfacedCode
import OwnerRules.Proofs.WellFormedText
import OwnerRules.Proofs.WrittenRecords
import OwnerRules.Proofs.RemovalOutcome
import OwnerRules.Proofs.RacedRemoval
import OwnerRules.Proofs.HostCall
import OwnerRules.Proofs.Entrances
import OwnerRules.Proofs.RecordLayout
import OwnerRules.Proofs.DescriptorRange
import OwnerRules.Proofs.StringLiteral
import OwnerRules.Proofs.NumberLiteral
import OwnerRules.Proofs.Document
import OwnerRules.Proofs.SkippedValue
import OwnerRules.Proofs.ValueReader
import OwnerRules.Proofs.RecordReader
import OwnerRules.Proofs.RecordDocument
import OwnerRules.Proofs.DocumentLaws
import OwnerRules.Proofs.IntegerFields
import OwnerRules.Proofs.LoggedEvents
import OwnerRules.Proofs.InvalidPath
import OwnerRules.Proofs.EnvironmentOverlay
import OwnerRules.Proofs.Hintless
import OwnerRules.Proofs.CapabilityHints
import OwnerRules.Proofs.MaskText
