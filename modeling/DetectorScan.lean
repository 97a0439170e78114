import DetectorScan.Binary32
import DetectorScan.Binary64
import DetectorScan.BinaryFormat
import DetectorScan.Bytes
import DetectorScan.CommandLine.Arguments
import DetectorScan.CommandLine.ErrorText
import DetectorScan.CommandLine.Run
import DetectorScan.Correction
import DetectorScan.Dataset
import DetectorScan.Decimal.Layout
import DetectorScan.Decimal.Shortest
import DetectorScan.ElementType
import DetectorScan.FileContent
import DetectorScan.FileDescriptor
import DetectorScan.FileSet
import DetectorScan.FileSet.Tiling
import DetectorScan.FileView
import DetectorScan.FrameSum
import DetectorScan.Geometry
import DetectorScan.Grid
import DetectorScan.Header.Basic
import DetectorScan.Header.Field
import DetectorScan.Json
import DetectorScan.JsonForms
import DetectorScan.Main
import DetectorScan.Memory
import DetectorScan.Mrc
import DetectorScan.PartitionPlan
import DetectorScan.Path
import DetectorScan.Proofs.Attempts
import DetectorScan.Proofs.BlockTexts
import DetectorScan.Proofs.Cancellation
import DetectorScan.Proofs.DecodedImages
import DetectorScan.Proofs.DecodedTiles
import DetectorScan.Proofs.DerivedLayouts
import DetectorScan.Proofs.Detection
import DetectorScan.Proofs.ExactNumbers
import DetectorScan.Proofs.FittingCorrections
import DetectorScan.Proofs.FrameDelivery
import DetectorScan.Proofs.FrameImages
import DetectorScan.Proofs.FrameOwnership
import DetectorScan.Proofs.FrameSums
import DetectorScan.Proofs.GroupedJoins
import DetectorScan.Proofs.GrowingRoom
import DetectorScan.Proofs.HeaderRoundTrip
import DetectorScan.Proofs.ImageFiles
import DetectorScan.Proofs.ImageLayouts
import DetectorScan.Proofs.Interleaving
import DetectorScan.Proofs.JobRun
import DetectorScan.Proofs.JoinedRanges
import DetectorScan.Proofs.MergedTotals
import DetectorScan.Proofs.MissingFrames
import DetectorScan.Proofs.NearestNumbers
import DetectorScan.Proofs.NormalForm
import DetectorScan.Proofs.OpenedDataset
import DetectorScan.Proofs.Opening
import DetectorScan.Proofs.PartitionSpans
import DetectorScan.Proofs.Planes
import DetectorScan.Proofs.PlannedPartitions
import DetectorScan.Proofs.PullOutcomes
import DetectorScan.Proofs.RecordLayout
import DetectorScan.Proofs.RereadHeaders
import DetectorScan.Proofs.ReturnedImages
import DetectorScan.Proofs.SharedFlag
import DetectorScan.Proofs.ShortenedFiles
import DetectorScan.Proofs.Spans
import DetectorScan.Proofs.StoredCorrections
import DetectorScan.Proofs.StoredFields
import DetectorScan.Proofs.StoredFiles
import DetectorScan.Proofs.StreamPulls
import DetectorScan.Proofs.SurrogatePairs
import DetectorScan.Proofs.TaskRun
import DetectorScan.Proofs.TextBlocks
import DetectorScan.Proofs.TileDelivery
import DetectorScan.Proofs.TileFrames
import DetectorScan.Proofs.TileOrigins
import DetectorScan.Proofs.Utf16Texts
import DetectorScan.Proofs.WholeFiles
import DetectorScan.Proofs.WrittenHeaders
import DetectorScan.ReadConfig
import DetectorScan.ReadError
import DetectorScan.ResultFile
import DetectorScan.Run
import DetectorScan.ScanError
import DetectorScan.Shape
import DetectorScan.Storage
import DetectorScan.Text.Hidden
import DetectorScan.Text.Quoted
import DetectorScan.Text.Utf16
import DetectorScan.Tile
import DetectorScan.TileStream
import DetectorScan.TileStream.Delivery
import DetectorScan.Word
