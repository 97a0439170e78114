import DetectorScan.Grid
import DetectorScan.Path

/-!
# Refused settings and scans

The causes for which a setting, a list of files or a scan size is refused, and their
words.
-/

namespace DetectorScan

inductive ConfigError where
  | tileBytesZero
  | parallelismZero
  | memoryShare
  | noMemory
  | scanEmpty
  | scanAxisZero (scan : List Nat)
  | scanTooLarge (scan : List Nat)
  | descriptorRange (path : Path) (start stop : Nat)
  | descriptorGap (path : Path) (start expected : Nat)
  | appendGap (start stop after : Nat)
  | signalRank (dims : List Nat)
  | tileShape (frames height width : Nat) (cause : ShapeFault)
  deriving DecidableEq, Repr

def ConfigError.message : ConfigError → String
  | .tileBytesZero => "tile_bytes must be at least 1"
  | .parallelismZero => "parallelism must be at least 1"
  | .memoryShare => "memory_fraction must be in (0.0, 1.0]"
  | .noMemory => "available system memory reported as 0"
  | .scanEmpty => "scan_size must not be empty"
  | .scanAxisZero scan => "scan_size entries must be positive, got " ++ listText scan
  | .scanTooLarge scan =>
    "scan_size " ++ listText scan ++ " holds more frames than can be addressed"
  | .descriptorRange path start stop =>
    "descriptor for " ++ path.text ++ s!" has invalid range [{start}, {stop})"
  | .descriptorGap path start expected =>
    "descriptor for " ++ path.text ++
      s!" starts at frame {start} but frame {expected} was expected"
  | .appendGap start stop after =>
    s!"cannot append frames [{start}, {stop}) after frame {after}"
  | .signalRank dims => "sum requires a 2-D signal shape, got " ++ listText dims
  | .tileShape frames height width cause =>
    s!"tile of {frames} frames cannot be shaped to {height}x{width}: " ++ cause.message

inductive ScanError where
  | range (start stop coveredStart coveredStop : Nat)
  | frameCount (expected actual : Nat)
  | config (cause : ConfigError)
  deriving DecidableEq, Repr

def ScanError.message : ScanError → String
  | .range start stop coveredStart coveredStop =>
    s!"frame range [{start}, {stop}) is not covered by file set range " ++
      s!"[{coveredStart}, {coveredStop})"
  | .frameCount expected actual =>
    s!"scan_size doesn't match number of frames: scan_size holds {expected} frames, " ++
      s!"file holds {actual}"
  | .config cause => "configuration error: " ++ cause.message

end DetectorScan
