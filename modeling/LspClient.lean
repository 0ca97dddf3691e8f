import LspClient.Describe
import LspClient.Main
import LspClient.Proofs.ConnectionRun
import LspClient.Proofs.FrameRoundTrip
import LspClient.Proofs.FrameTruncation
import LspClient.Proofs.SessionCoherence
import LspClient.Proofs.ClientLives
import LspClient.Proofs.RequestHistory
import LspClient.Proofs.ResponseRouting
import LspClient.Proofs.PendingTable
import LspClient.Proofs.Traffic
import LspClient.Proofs.OwnerTurns
import LspClient.Proofs.Producers
import LspClient.Proofs.WriterOutput
import LspClient.Proofs.ServiceRun
import LspClient.Proofs.ClientRun
import LspClient.Proofs.Lifecycle
import LspClient.Proofs.SessionMachine
import LspClient.Proofs.Invocation
import LspClient.Proofs.TraceLevels
import LspClient.Proofs.Quiescence
import LspClient.Proofs.ProcessTable
import LspClient.Proofs.Utf8Pieces
import LspClient.Proofs.FrameGrammar
import LspClient.Proofs.FrameProgress
import LspClient.Proofs.ReaderIntake
import LspClient.Proofs.ReaderProgress
import LspClient.Proofs.Offsets
import LspClient.Proofs.Segmentation
import LspClient.Proofs.Expansion
import LspClient.Proofs.CommandPrecedence
import LspClient.Proofs.Classification
import LspClient.Proofs.ServerRequests
import LspClient.Proofs.Farewell
import LspClient.Proofs.SettledRequests
import LspClient.Proofs.TraceEntries
import LspClient.Proofs.ShutdownProgress
import LspClient.Proofs.Goodbye
import LspClient.Proofs.FolderName
import LspClient.Proofs.FilledLocations
import LspClient.Proofs.SelectorText
import LspClient.Proofs.ShippedLayout
import LspClient.Proofs.ChannelFiles
