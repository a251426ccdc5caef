import Dashboard.Config.Document
import Dashboard.Logging.Setup
import Dashboard.Proofs.ColourSpelling
import Dashboard.Proofs.Config.RoundTrip
import Dashboard.Proofs.Double
import Dashboard.Proofs.Freshness
import Dashboard.Proofs.Graph.AgeLabels
import Dashboard.Proofs.Graph.BarHeights
import Dashboard.Proofs.Graph.DotMatrix
import Dashboard.Proofs.Graph.LabelChoice
import Dashboard.Proofs.Graph.Layering
import Dashboard.Proofs.Graph.LineTier
import Dashboard.Proofs.Graph.LineWidth
import Dashboard.Proofs.Graph.Occlusion
import Dashboard.Proofs.Graph.RowBands
import Dashboard.Proofs.Graph.TimeMarkers
import Dashboard.Proofs.Graph.Visibility
import Dashboard.Proofs.Log.Arrival
import Dashboard.Proofs.Log.Chronology
import Dashboard.Proofs.Log.Direction
import Dashboard.Proofs.Log.Reconciliation
import Dashboard.Proofs.Log.Run
import Dashboard.Proofs.Log.TextSearch
import Dashboard.Proofs.Log.Watermark
import Dashboard.Proofs.Logging.Attempts
import Dashboard.Proofs.Painting
import Dashboard.Proofs.Ring.Equality
import Dashboard.Proofs.Ring.Storage
import Dashboard.Proofs.Scale.FiniteCeiling
import Dashboard.Proofs.Series.Alignment
import Dashboard.Proofs.Series.Buckets
import Dashboard.Proofs.Session.Answers
import Dashboard.Proofs.Session.Delivery
import Dashboard.Proofs.Session.Isolation
import Dashboard.Proofs.Session.Run
import Dashboard.Proofs.Session.Task
import Dashboard.Proofs.Tracking
import Dashboard.Scale.Record
