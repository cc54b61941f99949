import BuildOrder.Files.Tree
import BuildOrder.Main
import BuildOrder.Proofs.Manifest.WrittenOrder
import BuildOrder.Proofs.Order.Hashed
import BuildOrder.Proofs.Order.Parts
import BuildOrder.Proofs.Order.Procedure
import BuildOrder.Settings.Reader
import BuildOrder.Value.Decode
import BuildOrder.Proofs.Value.Equality
import BuildOrder.Proofs.Manifest.OneOfEach
import BuildOrder.Proofs.Settings.Spelled
import BuildOrder.Proofs.Command.Assigned
import BuildOrder.Proofs.Command.Scan
import BuildOrder.Proofs.Settings.ColorVariables
import BuildOrder.Proofs.Command.Requests
import BuildOrder.Proofs.Settings.Resolution
import BuildOrder.Proofs.EnvFile.Evaluation
import BuildOrder.Proofs.EnvFile.Loading
import BuildOrder.Proofs.Command.Stages
import BuildOrder.Proofs.Command.Agreement
import BuildOrder.Proofs.Command.Logging
import BuildOrder.Proofs.Manifest.Sources
import BuildOrder.Proofs.Order.Accounting
import BuildOrder.Proofs.Command.Options
import BuildOrder.Proofs.Command.Placement
import BuildOrder.Proofs.Settings.Notations
import BuildOrder.Proofs.Order.Lines
import BuildOrder.Proofs.Toml.Items
import BuildOrder.Proofs.Json.Typed
import BuildOrder.Proofs.Settings.Layers
import BuildOrder.Proofs.Order.Opaque
import BuildOrder.Proofs.Text.Case
import BuildOrder.Proofs.Settings.Clashes
import BuildOrder.Proofs.Settings.Choices
import BuildOrder.Proofs.Manifest.Extensions
import BuildOrder.Proofs.Node.Rounds
