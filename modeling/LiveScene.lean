import LiveScene.Config.Json
import LiveScene.Main
import LiveScene.Wire.Encode
import LiveScene.Proofs.Ancestry
import LiveScene.Proofs.Consistency
import LiveScene.Proofs.Linking
import LiveScene.Proofs.Settings
import LiveScene.Proofs.Membership
import LiveScene.Proofs.Runs
import LiveScene.Proofs.WellFormed
import LiveScene.Proofs.Atomicity
import LiveScene.Proofs.Handles
import LiveScene.Proofs.Shifting
import LiveScene.Proofs.Receiving
import LiveScene.Proofs.Buffering
import LiveScene.Proofs.Selection
import LiveScene.Proofs.Traversal
import LiveScene.Proofs.Journal
import LiveScene.Proofs.HostLife
import LiveScene.Proofs.Objects
import LiveScene.Proofs.Faults
import LiveScene.Proofs.Lenses
import LiveScene.Proofs.LevelOrder
import LiveScene.Proofs.Building
import LiveScene.Proofs.Mirroring
import LiveScene.Proofs.Portions
import LiveScene.Proofs.Lifecycle
import LiveScene.Proofs.LinkOrder
import LiveScene.Proofs.Quoting
import LiveScene.Proofs.TomlText
import LiveScene.Proofs.ConfigFiles
import LiveScene.Proofs.Relinking
import LiveScene.Proofs.WireText
import LiveScene.Proofs.Searching
import LiveScene.Proofs.SingleFlight
import LiveScene.Proofs.Verdicts
import LiveScene.Proofs.Renumbering
import LiveScene.Proofs.Isolation
import LiveScene.Proofs.Deletion
import LiveScene.Proofs.Impacts
import LiveScene.Proofs.SupportTable
import LiveScene.Proofs.Caches
import LiveScene.Proofs.Commutation
import LiveScene.Proofs.LastWord
import LiveScene.Proofs.Tessellation
import LiveScene.Proofs.OpStream
import LiveScene.Proofs.Placement
import LiveScene.Proofs.CycleCheck
import LiveScene.Proofs.LinkAlgebra
import LiveScene.Proofs.Fitting
import LiveScene.Proofs.SourceOrder
import LiveScene.Proofs.JsonText
import LiveScene.Proofs.WireText
