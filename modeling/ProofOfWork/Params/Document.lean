import ProofOfWork.Json.Reader
import ProofOfWork.Json.Writer
import ProofOfWork.Params.Network
import ProofOfWork.Target.Document

/-!
# Params/Document — parameters in JSON

A set of parameters is a record of five fields.  Reading one from a text has two stages: the text has
to be such a record, and the parameters in it have to be sound (`Params.ofText`).  What passes both
is sound by construction, which `sound_of_ofText` records.
-/

namespace ProofOfWork

open Json (Value)

namespace Seconds

/-- The document of a count of seconds. -/
def toJson (s : Seconds) : Value := .int s.toInt

/-- The count of seconds of a document. -/
def ofJson? (v : Value) : Option Seconds := v.int?.bind ofInt?

end Seconds

namespace Network

/-- **The document of a network**: its name. -/
def toJson (network : Network) : Value := .text network.name

/-- The network with exactly this name. -/
def ofExactName? (name : String) : Option Network := all.find? fun network => network.name = name

/-- The network of a document: its name, or an object with the name as the one key and null as its
value. -/
def ofJson? : Value → Option Network
  | .string (some name) => ofExactName? name
  | .object [(some name, .null)] => ofExactName? name
  | _ => none

end Network

namespace Genesis

/-- **The document of a genesis header.** -/
def toJson (g : Genesis) : Value :=
  .record [("hash", g.hash.toJson), ("bits", g.bits.toJson), ("time", g.time.toJson)]

/-- The genesis header of a document. -/
def ofJson? (v : Value) : Option Genesis := do
  match ← v.record? ["hash", "bits", "time"] with
  | [hash, bits, time] =>
    return ⟨← BlockHash.ofJson? hash, ← Compact.ofJson? bits, ← Seconds.ofJson? time⟩
  | _ => none

end Genesis

namespace Params

/-- The fields of a parameter record, in their order. -/
def keys : List String :=
  ["pow_limit", "pow_target_timespan", "pow_target_spacing", "pow_allow_min_difficulty_blocks",
    "pow_no_retargeting"]

/-- **The document of a set of parameters.** -/
def toJson (p : Params) : Value :=
  .record
    (keys.zip
      [p.limit.toJson, p.timespan.toJson, p.spacing.toJson, .bool p.minDifficultyBlocks,
        .bool p.noRetargeting])

/-- The parameters of a document, sound or not. -/
def ofJson? (v : Value) : Option Params := do
  match ← v.record? keys with
  | [limit, timespan, spacing, minDifficultyBlocks, noRetargeting] =>
    return ⟨← Target.ofJson? limit, ← Seconds.ofJson? timespan, ← Seconds.ofJson? spacing,
      ← minDifficultyBlocks.bool?, ← noRetargeting.bool?⟩
  | _ => none

/-- The text of a set of parameters. -/
def toText (p : Params) : String := p.toJson.compact

/-- Why a text is not a usable set of parameters. -/
inductive DocumentError where
  /-- It is not a parameter record. -/
  | malformed
  /-- It is one, but the parameters are not sound. -/
  | unsound (violation : Violation)
  deriving DecidableEq

/-- What a document error says. -/
def DocumentError.message : DocumentError → String
  | .malformed => "parameter file error"
  | .unsound violation => violation.message

/-- **The sound parameters that a text holds.** -/
def ofText (text : String) : Except DocumentError Params :=
  match (Value.read? text).bind ofJson? with
  | none => .error .malformed
  | some params =>
    match params.violation? with
    | some violation => .error (.unsound violation)
    | none => .ok params

/-- **Parameters read from a text are sound.** -/
theorem sound_of_ofText {text : String} {params : Params} (h : ofText text = .ok params) :
    params.Sound := by
  unfold ofText at h
  split at h
  · cases h
  · split at h
    · cases h
    · rename_i clean
      cases h
      exact violation?_eq_none_iff.1 clean

end Params

end ProofOfWork
