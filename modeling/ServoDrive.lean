import ServoDrive.Text.Basic
import ServoDrive.Profile
import ServoDrive.Binary
import ServoDrive.Decimal
import ServoDrive.Wire
import ServoDrive.Record.Layout
import ServoDrive.Record.Rx
import ServoDrive.Record.Tx
import ServoDrive.Mailbox
import ServoDrive.Bus
import ServoDrive.Reading
import ServoDrive.Config.Basic
import ServoDrive.Text.Toml.Scalar
import ServoDrive.Text.Toml.Tree
import ServoDrive.Text.Toml
import ServoDrive.Config.Document
import ServoDrive.Units
import ServoDrive.History
import ServoDrive.Drive.Basic
import ServoDrive.Drive.Mailbox
import ServoDrive.Drive.Cycle
import ServoDrive.Drive.Shared
import ServoDrive.Device.Basic
import ServoDrive.Device.Bus
import ServoDrive.Bench
import ServoDrive.Proofs.History.Window
import ServoDrive.Proofs.Drive.Within
import ServoDrive.Proofs.Drive.Frame
import ServoDrive.Proofs.Drive.Engine
import ServoDrive.Proofs.Drive.Moves
import ServoDrive.Proofs.Drive.Log
import ServoDrive.Proofs.Drive.Freshness
import ServoDrive.Proofs.Drive.StateChange
import ServoDrive.Proofs.Drive.ControlWord
import ServoDrive.Proofs.Drive.Changes
import ServoDrive.Proofs.Drive.Calibration
import ServoDrive.Proofs.Record.Packing
import ServoDrive.Proofs.Record.Format
import ServoDrive.Proofs.Device.Answers
import ServoDrive.Proofs.Device.CyclicChange
import ServoDrive.Proofs.Drive.WriteHalf
import ServoDrive.Proofs.Drive.ReceiveRecord
import ServoDrive.Proofs.Device.MailboxChange
import ServoDrive.Proofs.Drive.Negotiation
import ServoDrive.Proofs.Drive.ReadHalf
import ServoDrive.Proofs.Drive.Dwell
import ServoDrive.Proofs.Drive.SuccessCount
import ServoDrive.Proofs.Wire.Sequencing
import ServoDrive.Proofs.Config.Loading
import ServoDrive.Proofs.Drive.Preoperational
