import Columnar.Request.Answer
import Columnar.Proofs.Basic
import Columnar.Proofs.Utf8
import Columnar.Proofs.Metadata
import Columnar.Proofs.Schema
import Columnar.Proofs.Bitmap
import Columnar.Proofs.WellFormed
import Columnar.Proofs.Reader
import Columnar.Proofs.Build
import Columnar.Proofs.RoundTrip
import Columnar.Proofs.Extents
import Columnar.Proofs.Locality
import Columnar.Proofs.Release
import Columnar.Proofs.Checked
import Columnar.Proofs.ImportShape
import Columnar.Proofs.Constructors
import Columnar.Proofs.Representation
import Columnar.Proofs.StringViews
import Columnar.Proofs.StreamProducer
import Columnar.Proofs.StreamReader
import Columnar.Proofs.Slice
import Columnar.Proofs.Sharing
import Columnar.Proofs.RecordBatch
import Columnar.Proofs.Exportable
import Columnar.Proofs.ExportedStream
import Columnar.Proofs.StreamRoundTrip
import Columnar.Proofs.FormatLanguage
import Columnar.Proofs.CapsuleOwnership
import Columnar.Proofs.ExportRelease
import Columnar.Proofs.HostBalance
import Columnar.Proofs.StreamLedger
import Columnar.Proofs.BindingBalance
import Columnar.Proofs.MakerWorld
import Columnar.Proofs.ConversionBalance
import Columnar.Proofs.ListLengths
import Columnar.Proofs.BuiltStrings
import Columnar.Proofs.StructImport
import Columnar.Proofs.BitmapBounds
import Columnar.Proofs.Intervals
