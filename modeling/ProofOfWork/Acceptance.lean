import ProofOfWork.Params.Basic
import ProofOfWork.Target.Bytes
import ProofOfWork.Target.Document

/-!
# Acceptance — block hashes, and whether a hash is enough work

A block hash is thirty-two bytes in display order, most significant byte first, and stands for the
number that they denote.  As a text it is read like a target and shown on all its digits; in JSON it
has exactly sixty-four characters behind an optional `0x`.  Its digits are its first bytes, and bytes
that gaps have left without digits are zero.

A block is accepted when its compact bits stand for a positive target within the network's limit and
its hash, as a number, does not exceed that target.  Refusal is an ordinary answer, not an error.
-/

namespace ProofOfWork

/-- **The hash of a block**, in display order: most significant byte first. -/
structure BlockHash where
  bytes : Vector UInt8 32
  deriving DecidableEq

/-- The number a hash stands for. -/
def Target.ofBlockHash (hash : BlockHash) : Target := ofBytesBE hash.bytes

namespace BlockHash

/-- The hash that displays as the given target. -/
def ofTarget (t : Target) : BlockHash := ⟨t.toBytesBE⟩

/-- **The hash that a text denotes**: that of the target its trimmed form denotes. -/
def ofHex (text : String) : Except HexError BlockHash :=
  (Target.ofHex (String.ofList (trim text.toList))).map ofTarget

/-- **The document of a hash.** -/
def toJson (h : BlockHash) : Json.Value :=
  .text (String.ofList (['0', 'x'] ++ (Target.ofBlockHash h).hexDigits))

/-- The hash of a document. -/
def ofJson? (v : Json.Value) : Option BlockHash := do
  let digits := (← digitsOfJson? 64 v).rightpad 64 '0'
  return ofTarget (← Target.ofNat? (← Hex.value? digits))

end BlockHash

/-- **Whether a hash meets the target that the bits claim**, and the claim itself is usable: not
negative, not zero, not too wide and not above the limit. -/
def meetsTarget (hash : BlockHash) (bits : Compact) (params : Params) : Bool :=
  let claim := bits.decode
  if claim.negative || claim.target == Target.zero || claim.overflow then false
  else if params.limit < claim.target then false
  else Target.ofBlockHash hash ≤ claim.target

end ProofOfWork
