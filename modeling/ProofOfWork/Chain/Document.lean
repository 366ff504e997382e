import ProofOfWork.Chain.Index
import ProofOfWork.Json.Reader
import ProofOfWork.Json.Writer
import ProofOfWork.Params.Document

/-!
# Chain/Document — headers and header files in JSON

A header is a record of three numbers.  A **header file** is a list of headers in ascending height
order, in which the bits may be given as a number or as hexadecimal text, each header as it likes.
Reading one goes in three stages over the whole list: its shape, then the bits of every entry, then
the heights.  So bad bits are reported before a gap in the heights, wherever the two stand.
-/

namespace ProofOfWork

open Json (Value)

namespace Header

/-- **The document of a header.** -/
def toJson (h : Header) : Value :=
  .record [("height", .int h.height), ("time", h.time.toJson), ("bits", h.bits.toJson)]

/-- The header of a document. -/
def ofJson? (v : Value) : Option Header := do
  match ← v.record? ["height", "time", "bits"] with
  | [height, time, bits] =>
    return ⟨← height.natBelow? (2 ^ 64), ← Seconds.ofJson? time, ← Compact.ofJson? bits⟩
  | _ => none

end Header

/-- Bits as a header file gives them. -/
inductive BitsField where
  | number (bits : Compact)
  | text (digits : String)
  deriving DecidableEq

/-- **One entry of a header file.** -/
structure FileEntry where
  height : Nat
  time : Seconds
  bits : BitsField
  deriving DecidableEq

/-- Why a text is not a header file. -/
inductive HeaderFileError where
  /-- It is not a list of header records. -/
  | malformed
  | noHeaders
  /-- The entry at this height has bits that cannot be read. -/
  | badBits (height : Nat) (cause : BadCompact)
  /-- The heights are not consecutive. -/
  | broken (cause : ChainError)
  deriving DecidableEq

/-- The complaint followed by its causes. -/
def HeaderFileError.chain : HeaderFileError → List String
  | .malformed => ["malformed header file"]
  | .noHeaders => ["header file holds no headers"]
  | .badBits height cause => ("bad bits at height " ++ toString height) :: cause.chain
  | .broken cause => [cause.message]

namespace BitsField

/-- The document of the bits of an entry. -/
def toJson : BitsField → Value
  | .number bits => bits.toJson
  | .text digits => .text digits

/-- The bits of an entry: a number, or else a string. -/
def ofJson? (v : Value) : Option BitsField :=
  match v with
  | .string digits => digits.map .text
  | _ => (Compact.ofJson? v).map .number

/-- The compact word that the bits of an entry denote. -/
def read : BitsField → Except BadCompact Compact
  | .number bits => .ok bits
  | .text digits => Compact.ofHex digits

end BitsField

namespace FileEntry

/-- The document of an entry. -/
def toJson (entry : FileEntry) : Value :=
  .record [("height", .int entry.height), ("time", entry.time.toJson), ("bits", entry.bits.toJson)]

/-- The entry of a document. -/
def ofJson? (v : Value) : Option FileEntry := do
  match ← v.record? ["height", "time", "bits"] with
  | [height, time, bits] =>
    return ⟨← height.natBelow? (2 ^ 64), ← Seconds.ofJson? time, ← BitsField.ofJson? bits⟩
  | _ => none

/-- The header that an entry stands for. -/
def header (entry : FileEntry) : Except HeaderFileError Header :=
  match entry.bits.read with
  | .ok bits => .ok ⟨entry.height, entry.time, bits⟩
  | .error cause => .error (.badBits entry.height cause)

end FileEntry

/-- The headers of all entries, or the complaint about the first one with bad bits. -/
def headersOf : List FileEntry → Except HeaderFileError (List Header)
  | [] => .ok []
  | entry :: rest =>
    match entry.header with
    | .error e => .error e
    | .ok header => (headersOf rest).map (header :: ·)

/-- The entries of a header file. -/
def entriesOfText? (text : String) : Option (List FileEntry) :=
  match Value.read? text with
  | some (.array items) => items.mapM FileEntry.ofJson?
  | _ => none

namespace ChainIndex

/-- The index of the branch that entries describe. -/
def ofEntries (entries : List FileEntry) : Except HeaderFileError ChainIndex :=
  if entries.isEmpty then .error .noHeaders
  else
    match headersOf entries with
    | .error e => .error e
    | .ok headers =>
      match ofHeaders headers with
      | .error cause => .error (.broken cause)
      | .ok chain => .ok chain

/-- **The index of the branch that a header file describes.** -/
def ofHeaderFile (text : String) : Except HeaderFileError ChainIndex :=
  match entriesOfText? text with
  | none => .error .malformed
  | some entries => ofEntries entries

end ChainIndex

/-- The text of a header file with these entries. -/
def headerFileText (entries : List FileEntry) : String :=
  (Value.array (entries.map FileEntry.toJson)).compact

end ProofOfWork
