import ProofOfWork.Acceptance
import ProofOfWork.Params.Basic
import ProofOfWork.Text.Blank
import ProofOfWork.Text.Quoted

/-!
# Params/Network — the three networks and what is deployed on them

Each network comes with its parameters and with the proof-of-work fields of its genesis block.  The
test network differs from the main one only in that it allows blocks of minimal difficulty
(`test_params`).  Names are read without regard to ASCII case or to blanks around them.
-/

namespace ProofOfWork

/-- **A network.** -/
inductive Network where
  | main
  | test
  | regtest
  deriving DecidableEq

/-- The proof-of-work fields of a genesis header. -/
structure Genesis where
  hash : BlockHash
  bits : Compact
  time : Seconds
  deriving DecidableEq

namespace Network

/-- Every network. -/
def all : List Network := [.main, .test, .regtest]

/-- The network that applies where none is named. -/
def default : Network := .main

/-- The name of a network. -/
def name : Network → String
  | .main => "main"
  | .test => "test"
  | .regtest => "regtest"

/-- A name that no network has, in the lower-case form in which it was looked up. -/
structure UnknownName where
  name : String
  deriving DecidableEq

/-- What an unknown name says. -/
def UnknownName.message (e : UnknownName) : String := "unknown network " ++ Quoted.text e.name

/-- **The network of a name.**  The first two have a long name as well. -/
def ofName (text : String) : Except UnknownName Network :=
  let name := String.ofList ((trim text.toList).map Char.toLower)
  if name = "main" ∨ name = "mainnet" then .ok .main
  else if name = "test" ∨ name = "testnet" then .ok .test
  else if name = "regtest" then .ok .regtest
  else .error ⟨name⟩

/-- The largest target with `leadingZeroBits` zero bits in front. -/
def limitBelow (leadingZeroBits : Nat) : Target := Target.truncate (2 ^ (256 - leadingZeroBits) - 1)

/-- The parameters deployed on the main network. -/
def mainParams : Params where
  limit := limitBelow 20
  timespan := 4 * 60 * 60
  spacing := 79
  minDifficultyBlocks := false
  noRetargeting := false

/-- **The parameters deployed on a network.** -/
def params : Network → Params
  | .main => mainParams
  | .test => { mainParams with minDifficultyBlocks := true }
  | .regtest =>
    { limit := limitBelow 1
      timespan := 30 * 60
      spacing := 30
      minDifficultyBlocks := true
      noRetargeting := true }

/-- The hash of the genesis block of the main network. -/
def mainGenesisHash : BlockHash :=
  ⟨#v[0x00, 0x00, 0x05, 0x19, 0x58, 0x17, 0xcd, 0x43, 0xb0, 0x68, 0xee, 0x6d, 0xcd, 0x09, 0x11, 0x09,
    0xe9, 0x37, 0xb4, 0xb5, 0xc3, 0x22, 0xc6, 0xa2, 0xb2, 0x3a, 0x93, 0x91, 0x2e, 0x19, 0xbb, 0x76]⟩

/-- **The genesis block of a network.**  The regression network mines its own at the limit, so its
hash is left at zero. -/
def genesis : Network → Genesis
  | .main | .test => ⟨mainGenesisHash, ⟨0x1e0ffff0⟩, 1471801377⟩
  | .regtest => ⟨BlockHash.ofTarget Target.zero, ⟨0x207fffff⟩, 1487000020⟩

/-- **The test network is the main network with blocks of minimal difficulty.** -/
theorem test_params :
    Network.test.params = { Network.main.params with minDifficultyBlocks := true } := rfl

/-- **What is deployed is sound.** -/
theorem sound_params (network : Network) : network.params.Sound := by
  cases network <;> decide

/-- Every name leads back to its network. -/
theorem ofName_name (network : Network) : ofName network.name = .ok network := by
  cases network <;> rfl

end Network

end ProofOfWork
