import ProofOfWork.Arithmetic
import ProofOfWork.Chain.Index
import ProofOfWork.Params.Basic

/-!
# Retarget/GravityWell — an adjustment after every block

    tip ──sample──▸ ⋯ ──sample──▸ window full, history at its end, or outside the horizon
         ╰── mean of targets, seconds passed, seconds meant ──▸ scaled, limited, encoded

The rule walks back from the tip through a history, given as a list of headers with the tip first.
It keeps a running mean of the claimed targets (`meanStep`) and, after each sample, compares the
time the samples took with the time they should have taken.  The walk ends at the genesis block,
which is never sampled, at the upper bound of the window, at the end of the history, or early: once
it holds the least number of samples and the rate has left the event horizon.

The mean is then scaled by observed over designed seconds, held at the network's limit, and written
in compact form.  A history too short for the window gets the limit itself (`Report.ofLimit`).
-/

namespace ProofOfWork

/-! ## The window

A `Window` bounds the number of blocks that the walk samples and says how far apart blocks are meant
to be.  `Window.ofSpacing` derives the bounds from the spacing alone: between a tenth of a day and
2.8 days, each scaled by the spacing in minutes, counted in blocks.  Both products are formed in
binary64 from left to right and cut to whole seconds before they are divided. -/

/-- **The bounds and the design spacing of a Gravity Well walk.** -/
structure Window where
  /-- The seconds by which blocks are meant to be apart. -/
  spacing : Seconds
  /-- How many samples the walk takes before it may stop early. -/
  atLeast : Nat
  /-- How many samples the walk takes at most; zero sets no bound. -/
  atMost : Nat
  deriving DecidableEq

namespace Window

/-- The seconds in a day. -/
def day : Float := 86400.0

/-- A fraction of a day scaled by the spacing in minutes, in whole seconds. -/
def reach (spacing : Seconds) (days : Float) : Seconds :=
  (day * (spacing.toFloat / 60.0) * days).toInt64

/-- **The window that a design spacing calls for.** -/
def ofSpacing (spacing : Seconds) : Except Fault Window := do
  let atLeast ← (reach spacing 0.1).div spacing
  let atMost ← (reach spacing 2.8).div spacing
  return { spacing, atLeast := atLeast.toNat, atMost := atMost.toNat }

/-- **A positive spacing has a window.** -/
theorem exists_ofSpacing {spacing : Seconds} (positive : 0 < spacing.toInt) :
    ∃ window, ofSpacing spacing = .ok window ∧ window.spacing = spacing := by
  obtain ⟨atLeast, few, -⟩ := Seconds.div_of_pos (reach spacing 0.1) positive
  obtain ⟨atMost, many, -⟩ := Seconds.div_of_pos (reach spacing 2.8) positive
  refine ⟨⟨spacing, atLeast.toNat, atMost.toNat⟩, ?_, rfl⟩
  simp only [ofSpacing, few, many, bind, Except.bind, pure, Except.pure]

end Window

/-! ## The event horizon

The rate at which blocks were meant to come is compared with the rate at which they came.  The ratio
is tolerated while it lies strictly inside an envelope around one, whose reach shrinks as the samples
grow:

```text
deviation = 1 + 0.7084 * (samples / 28.2) ^ -1.228
slow      = 1 / deviation
fast      = deviation
```

All of it is binary64 arithmetic in exactly this order, since blocks stand or fall by the outcome. -/

/-- **How far the ratio may stray from one** after so many samples. -/
def horizonDeviation (samples : Nat) : Float :=
  1.0 + 0.7084 * (Float.ofNat samples / 28.2).pow (-1.228)

/-- The designed over the observed duration; one where either is zero. -/
def rateRatio (observed designed : Seconds) : Float :=
  if observed = 0 ∨ designed = 0 then 1.0 else designed.toFloat / observed.toFloat

/-- **Whether the ratio has left the envelope**, at its slow or at its fast end. -/
def outsideHorizon (samples : Nat) (observed designed : Seconds) : Bool :=
  let ratio := rateRatio observed designed
  let deviation := horizonDeviation samples
  ratio ≤ 1.0 / deviation || deviation ≤ ratio

/-! ## The walk -/

/-- **How one evaluation of the rule ended.** -/
structure Report where
  /-- The bits required of the next block. -/
  bits : Compact
  /-- How many blocks were sampled. -/
  samples : Nat
  /-- The designed over the observed duration at the end of the walk. -/
  ratio : Float
  /-- The seconds from the last sample to the tip. -/
  observed : Seconds
  /-- The seconds that so many blocks are meant to take. -/
  designed : Seconds
  /-- The walk left the event horizon. -/
  earlyExit : Bool
  /-- The limit was returned because the history is too short. -/
  bootstrap : Bool

/-- What a walk has gathered. -/
structure Gathered where
  /-- How many blocks have been sampled. -/
  samples : Nat
  /-- The running mean of their targets. -/
  mean : Target
  /-- The seconds from the last sample to the tip. -/
  observed : Seconds
  /-- The seconds that so many blocks are meant to take. -/
  designed : Seconds
  /-- The walk left the event horizon. -/
  earlyExit : Bool
  deriving DecidableEq

/-- **The mean after its `count`-th sample**: it moves towards the sample by that part of the gap
between the two, without a fraction. -/
def meanStep (mean sample : Target) (count : Nat) : Except Fault Target :=
  if mean ≤ sample then do
    let gap ← sample.sub mean
    let step ← gap.divSmall count
    step.add mean
  else do
    let gap ← mean.sub sample
    let step ← gap.divSmall count
    mean.sub step

/-- The mean after one more sample; the first sample is its own mean. -/
def nextMean (gathered : Gathered) (sample : Target) : Except Fault Target :=
  if gathered.samples = 0 then .ok sample
  else meanStep gathered.mean sample (gathered.samples + 1)

/-- How long before the tip a block was made; a block from after the tip counts as simultaneous. -/
def lag (tip older : Header) : Seconds :=
  let seconds := tip.time.since older.time
  if seconds.toInt < 0 then 0 else seconds

/-- How long so many blocks are meant to take. -/
def designedSpan (window : Window) (samples : Nat) : Seconds :=
  Seconds.saturate (window.spacing.toInt * samples)

/-- Whether the walk ends before it samples a block: at the genesis block, or when the window is
full. -/
def stopsAt (window : Window) (gathered : Gathered) (next : Header) : Bool :=
  next.height = 0 || (0 < window.atMost && window.atMost ≤ gathered.samples)

/-- One more sample. -/
def sample (window : Window) (tip : Header) (gathered : Gathered) (next : Header) :
    Except Fault Gathered :=
  (nextMean gathered next.target).map fun mean =>
    let samples := gathered.samples + 1
    let observed := lag tip next
    let designed := designedSpan window samples
    { samples, mean, observed, designed
      earlyExit := decide (window.atLeast ≤ samples) && outsideHorizon samples observed designed }

/-- **The walk back from a tip**, carrying on from what has been gathered. -/
def walk (window : Window) (tip : Header) (gathered : Gathered) :
    List Header → Except Fault Gathered
  | [] => .ok gathered
  | next :: older =>
    if stopsAt window gathered next then .ok gathered
    else
      match sample window tip gathered next with
      | .error fault => .error fault
      | .ok more => if more.earlyExit then .ok more else walk window tip more older

/-- A walk that has not started. -/
def Gathered.start (tip : Header) : Gathered := ⟨0, tip.target, 0, 0, false⟩

/-- The mean scaled by observed over designed seconds, where both have passed. -/
def Gathered.scaled (gathered : Gathered) : Except Fault Target :=
  if 0 < gathered.observed.toInt ∧ 0 < gathered.designed.toInt then
    gathered.mean.mulDiv gathered.observed.toNat gathered.designed.toNat
  else .ok gathered.mean

/-- The report on a history that is too short: the limit. -/
def Report.ofLimit (limit : Target) : Report where
  bits := limit.encode
  samples := 0
  ratio := 1.0
  observed := 0
  designed := 0
  earlyExit := false
  bootstrap := true

/-- The report on a finished walk. -/
def Gathered.report (gathered : Gathered) (limit : Target) : Except Fault Report :=
  gathered.scaled.map fun scaled =>
    { bits := (min scaled limit).encode
      samples := gathered.samples
      ratio := rateRatio gathered.observed gathered.designed
      observed := gathered.observed
      designed := gathered.designed
      earlyExit := gathered.earlyExit
      bootstrap := false }

/-- **The Gravity Well over a history**, the tip first.  Without a tip, at the genesis block, and
below the least number of samples the limit applies. -/
def gravityWell (window : Window) (params : Params) : List Header → Except Fault Report
  | [] => .ok (Report.ofLimit params.limit)
  | tip :: older =>
    if tip.height = 0 ∨ tip.height < window.atLeast then .ok (Report.ofLimit params.limit)
    else
      match walk window tip (Gathered.start tip) (tip :: older) with
      | .error fault => .error fault
      | .ok gathered => gathered.report params.limit

end ProofOfWork
