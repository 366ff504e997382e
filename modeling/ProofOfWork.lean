import ProofOfWork.Acceptance
import ProofOfWork.Arithmetic
import ProofOfWork.Basic
import ProofOfWork.Chain.Document
import ProofOfWork.Chain.Index
import ProofOfWork.Command.Arguments
import ProofOfWork.Command.Log
import ProofOfWork.Command.Run
import ProofOfWork.Decimal.Shortest
import ProofOfWork.Json.Number
import ProofOfWork.Json.Reader
import ProofOfWork.Json.Token
import ProofOfWork.Json.Value
import ProofOfWork.Json.Writer
import ProofOfWork.Main
import ProofOfWork.Params.Basic
import ProofOfWork.Params.Document
import ProofOfWork.Params.Network
import ProofOfWork.Proofs.Acceptance
import ProofOfWork.Proofs.Chain.Branch
import ProofOfWork.Proofs.Chain.Growth
import ProofOfWork.Proofs.Chain.HeaderFile
import ProofOfWork.Proofs.Chain.HeaderText
import ProofOfWork.Proofs.Chain.Invariant
import ProofOfWork.Proofs.Command.ExitLaw
import ProofOfWork.Proofs.Compact.Canonical
import ProofOfWork.Proofs.Compact.Decoding
import ProofOfWork.Proofs.Compact.Encoding
import ProofOfWork.Proofs.Compact.Rounding
import ProofOfWork.Proofs.Json.Literal
import ProofOfWork.Proofs.Json.Reading
import ProofOfWork.Proofs.Json.Scanning
import ProofOfWork.Proofs.Params.Document
import ProofOfWork.Proofs.Retarget.Extent
import ProofOfWork.Proofs.Retarget.Locality
import ProofOfWork.Proofs.Retarget.MeanDrift
import ProofOfWork.Proofs.Retarget.Monotone
import ProofOfWork.Proofs.Retarget.RequiredWork
import ProofOfWork.Proofs.Retarget.RunningMean
import ProofOfWork.Proofs.Retarget.Scaling
import ProofOfWork.Proofs.Retarget.Walk
import ProofOfWork.Proofs.Retarget.WindowScaling
import ProofOfWork.Proofs.Retarget.WordOrder
import ProofOfWork.Proofs.Target.ByteOrder
import ProofOfWork.Proofs.Target.Bytes
import ProofOfWork.Proofs.Target.CompactText
import ProofOfWork.Proofs.Target.Document
import ProofOfWork.Proofs.Target.Hex
import ProofOfWork.Proofs.Text.Frame
import ProofOfWork.Proofs.Text.Numeral
import ProofOfWork.Retarget.Document
import ProofOfWork.Retarget.FixedWindow
import ProofOfWork.Retarget.GravityWell
import ProofOfWork.Retarget.NextWork
import ProofOfWork.Target.Basic
import ProofOfWork.Target.Bytes
import ProofOfWork.Target.Compact
import ProofOfWork.Target.CompactText
import ProofOfWork.Target.Document
import ProofOfWork.Target.Hex
import ProofOfWork.Text.Blank
import ProofOfWork.Text.Hex
import ProofOfWork.Text.Quoted
