import SplitPanel.Board.Constants
import SplitPanel.Half.Schedule
import SplitPanel.Half.Shipped
import SplitPanel.Host.Loopback
import SplitPanel.Main
import SplitPanel.TagPipeline
import SplitPanel.Toml.Document
import SplitPanel.Wire.Request
import SplitPanel.Wire.Response
import SplitPanel.Screen.Renderer
import SplitPanel.Proofs.Execution
import SplitPanel.Proofs.Padding
import SplitPanel.Proofs.Reception
import SplitPanel.Proofs.Relaying
import SplitPanel.Proofs.RowExpansion
import SplitPanel.Proofs.ShownRows
import SplitPanel.Proofs.OwnCells
import SplitPanel.Proofs.PacketStream
import SplitPanel.Proofs.Checksums
import SplitPanel.Proofs.ReceiverStates
import SplitPanel.Proofs.Resynchronising
import SplitPanel.Proofs.Strokes
import SplitPanel.Proofs.Selecting
import SplitPanel.Proofs.StrokeEffects
import SplitPanel.Proofs.MomentaryLayers
import SplitPanel.Proofs.Debouncing
import SplitPanel.Proofs.Scanning
import SplitPanel.Proofs.ScreenHistory
import SplitPanel.Proofs.WholeGrids
import SplitPanel.Proofs.Requests
import SplitPanel.Proofs.Recording
import SplitPanel.Proofs.EventQueue
import SplitPanel.Proofs.KeyboardConnection
import SplitPanel.Proofs.DrawnRows
import SplitPanel.Proofs.ServedScreens
import SplitPanel.Proofs.ShownAtOnce
import SplitPanel.Proofs.ReportKinds
import SplitPanel.Proofs.MatchedReleases
import SplitPanel.Proofs.TagDelivery
import SplitPanel.Proofs.UsedLayers
import SplitPanel.Proofs.CountedBytes
import SplitPanel.Proofs.PanelUpkeep
import SplitPanel.Proofs.Exchanges
import SplitPanel.Proofs.Journals
import SplitPanel.Proofs.CurrentTags
import SplitPanel.Proofs.Answers
import SplitPanel.Proofs.Rendering
import SplitPanel.Proofs.WithinGrid
import SplitPanel.Proofs.PlainGrids
import SplitPanel.Proofs.ParkedFrames
import SplitPanel.Proofs.SentFrames
import SplitPanel.Proofs.AcceptedDescriptions
import SplitPanel.Proofs.LayerNumbers
import SplitPanel.Proofs.SteppedTags
