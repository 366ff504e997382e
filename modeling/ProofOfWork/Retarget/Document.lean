import ProofOfWork.Params.Document
import ProofOfWork.Retarget.GravityWell

/-!
# Retarget/Document — windows and reports in JSON

Both are records.  A report holds the one floating-point number of the whole program, its ratio; it
is written so that it always shows a fraction or an exponent, and read from an integer as well.
-/

namespace ProofOfWork

open Json (Value)

namespace Window

/-- The fields of a window record, in their order. -/
def keys : List String := ["spacing", "min_window", "max_window"]

/-- **The document of a window.** -/
def toJson (w : Window) : Value :=
  .record (keys.zip [w.spacing.toJson, .int w.atLeast, .int w.atMost])

/-- The window of a document. -/
def ofJson? (v : Value) : Option Window := do
  match ← v.record? keys with
  | [spacing, atLeast, atMost] =>
    return ⟨← Seconds.ofJson? spacing, ← atLeast.natBelow? (2 ^ 64), ← atMost.natBelow? (2 ^ 64)⟩
  | _ => none

end Window

namespace Report

/-- The fields of a report record, in their order. -/
def keys : List String :=
  ["bits", "samples", "adjustment_ratio", "actual_seconds", "target_seconds", "early_exit",
    "bootstrap"]

/-- **The document of a report.** -/
def toJson (r : Report) : Value :=
  .record
    (keys.zip
      [r.bits.toJson, .int r.samples, .float r.ratio, r.observed.toJson, r.designed.toJson,
        .bool r.earlyExit, .bool r.bootstrap])

/-- The report of a document. -/
def ofJson? (v : Value) : Option Report := do
  match ← v.record? keys with
  | [bits, samples, ratio, observed, designed, earlyExit, bootstrap] =>
    return ⟨← Compact.ofJson? bits, ← samples.natBelow? (2 ^ 64), ← ratio.float?,
      ← Seconds.ofJson? observed, ← Seconds.ofJson? designed, ← earlyExit.bool?,
      ← bootstrap.bool?⟩
  | _ => none

end Report

end ProofOfWork
