import ProofOfWork.Retarget.GravityWell

/-!
# Retarget/NextWork — the target of the block to come

A chain starts at its limit, mines the block after height 160 at a fixed target, and follows the
Gravity Well with its deployed window everywhere else.  `encode_bootstrapTarget` ties the fixed bits
to the target they stand for.

The deployed window is the one that a spacing of 79 seconds calls for, given by its two bounds.
Floating-point numbers are not evaluated in proofs, so what the binary64 arithmetic of
`Window.ofSpacing` gives for this one spacing is an assumption with a name of its own
(`Window.DeployedReach`); from there to the bounds is integer division (`ofSpacing_deployedSpacing`).
-/

namespace ProofOfWork

/-! ## The deployed window -/

namespace Window

/-- The design spacing of the deployed rule. -/
def deployedSpacing : Seconds := 79

/-- **The window of the deployed rule**: 144 to 4032 blocks, 79 seconds apart. -/
def deployed : Window := ⟨deployedSpacing, 144, 4032⟩

/-- **What binary64 arithmetic gives for the deployed spacing**: a tenth of a day is 11376 seconds
of it, and 2.8 days are 318528. -/
structure DeployedReach : Prop where
  least : reach deployedSpacing 0.1 = 11376
  most : reach deployedSpacing 2.8 = 318528

/-- **The deployed window is what its spacing calls for**, counted in blocks. -/
theorem ofSpacing_deployedSpacing (evaluated : DeployedReach) :
    ofSpacing deployedSpacing = .ok deployed := by
  have few : Seconds.div 11376 deployedSpacing = .ok 144 := by rfl
  have many : Seconds.div 318528 deployedSpacing = .ok 4032 := by rfl
  rw [ofSpacing, evaluated.least, evaluated.most, few, many]
  rfl

end Window

/-! ## The rule of a height -/

/-- The height of the tip whose successor is mined at a fixed target. -/
def bootstrapHeight : Nat := 160

/-- The fixed target: all ones below twenty-seven zero bits. -/
def bootstrapTarget : Target := Target.truncate ((2 ^ 256 - 1) >>> 27)

/-- The fixed target in compact form. -/
def bootstrapBits : Compact := ⟨0x1d1fffff⟩

/-- **The bits required of the block on top of a tip**, whose predecessors are `older`. -/
def nextWork (params : Params) (tip : Header) (older : List Header) : Except Fault Compact :=
  if tip.height = bootstrapHeight then .ok bootstrapBits
  else (gravityWell Window.deployed params (tip :: older)).map Report.bits

/-- **The fixed bits are the compact form of the fixed target.** -/
theorem encode_bootstrapTarget : bootstrapTarget.encode = bootstrapBits := by
  decide +kernel

end ProofOfWork
