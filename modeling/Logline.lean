import Logline.Error.Detail
import Logline.Facade
import Logline.FileTree
import Logline.Proofs.History.Contexts
import Logline.Proofs.History.Facade
import Logline.Proofs.History.Fallback
import Logline.Proofs.History.Variables
import Logline.Proofs.Layout.EncodedRecord
import Logline.Proofs.Layout.TraceMessages
import Logline.Proofs.Rendering.Cycles
import Logline.Proofs.Rendering.Failures
import Logline.Proofs.Routes.Destinations
import Logline.Proofs.Sharing.InEffect
import Logline.Proofs.Sharing.Sequential
import Logline.Proofs.Sharing.Whole
import Logline.Proofs.Template.Escaping
import Logline.Proofs.Template.Surplus
import Logline.Proofs.Timestamp.Order
import Logline.Proofs.Trace.Decoding
import Logline.Proofs.Trace.Sources
import Logline.Text.Aligned
import Logline.Text.Lossy
import Logline.Proofs.Config.ShortName
import Logline.Proofs.Pipeline.Arrangement
import Logline.Proofs.Template.Bytes
import Logline.Proofs.Template.Cursor
import Logline.Proofs.Error.Detail
import Logline.Proofs.FileTree.Growth
import Logline.Proofs.FileTree.Opening
import Logline.Proofs.Value.Outline
