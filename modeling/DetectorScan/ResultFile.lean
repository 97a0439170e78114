import DetectorScan.Decimal.Layout
import DetectorScan.Grid
import DetectorScan.Path

/-!
# Files of results

An image is written as a line for each row with commas between its numbers, or as the
bytes of its numbers one behind the other.
-/

namespace DetectorScan

inductive ResultFormat where
  | csv
  | bin
  deriving DecidableEq, Repr

namespace ResultFormat

def label : ResultFormat → String
  | .csv => "Csv"
  | .bin => "Bin"

def ofPath (path : Path) : ResultFormat :=
  match path.extension? with
  | some ending => if ending.toLower = "csv" then .csv else .bin
  | none => .bin

end ResultFormat

/-- Numbers in a table are positional however long that makes them, and an integral one
has no point. -/
def cellStyle : NumberStyle where
  tie := .upward
  plain := none
  pointZero := false
  exponentPlus := false
  nan := "NaN"
  infinity := "inf"

def imageRows (image : Grid Binary32) : List (List Binary32) :=
  match image.shape with
  | [height, width] => Grid.rows height width image.cells
  | _ => []

def csvText (image : Grid Binary32) : String :=
  String.join ((imageRows image).map fun row =>
    ",".intercalate (row.map cellStyle.ofBinary32) ++ "\n")

def resultBytes (format : ResultFormat) (image : Grid Binary32) : Bytes :=
  match format with
  | .csv => (csvText image).toUTF8.toList
  | .bin => image.cells.flatMap Binary32.toBytes

end DetectorScan
