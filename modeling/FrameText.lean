import FrameText.CommandLine.Run
import FrameText.Main
import FrameText.Proofs.FlatLayout
import FrameText.Proofs.RoundTrip
import FrameText.Proofs.SegmentChecksums
import FrameText.Proofs.StoreSteps
import FrameText.Proofs.BulkLoads
import FrameText.Proofs.StoreRuns
import FrameText.Proofs.Atomicity
import FrameText.Proofs.Acceptance
import FrameText.Proofs.Coverage
import FrameText.Proofs.Marks
import FrameText.Proofs.FileLayout
import FrameText.Proofs.LoadedText
import FrameText.Proofs.FrameLength
import FrameText.Proofs.Normalisation
import FrameText.Proofs.LoaderAgreement
import FrameText.Proofs.Marker
import FrameText.Proofs.Readding
import FrameText.Proofs.Trace
import FrameText.Proofs.FrameRuns
import FrameText.Proofs.Capacity
import FrameText.Proofs.Orderless
import FrameText.Proofs.Content
import FrameText.Proofs.TagStacks
import FrameText.Proofs.FirstHeaders
import FrameText.Proofs.Filling
import FrameText.Proofs.Lookup
import FrameText.Proofs.CommandRuns
import FrameText.Proofs.Detection
import FrameText.Proofs.HeaderLaws
import FrameText.Proofs.WayBack
import FrameText.Proofs.Literals
import FrameText.Proofs.Boundaries
import FrameText.Proofs.Room
import FrameText.Proofs.ContextRuns
import FrameText.Proofs.Digits
import FrameText.Proofs.Slices
import FrameText.Proofs.LayerNames
import FrameText.Proofs.Escapes
import FrameText.Proofs.HexDumps
import FrameText.Proofs.AddressParts
