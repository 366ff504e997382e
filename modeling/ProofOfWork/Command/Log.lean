import ProofOfWork.Params.Network
import ProofOfWork.Retarget.FixedWindow
import ProofOfWork.Retarget.NextWork

/-!
# Command/Log — what is reported along the way

    parameters ──▸ rule ──▸ result        events, in this order
         ╰──────────┴─────────┴──filter──▸ lines on standard output, in front of the result

A run reports what it does as **events**, each of which has a level and the values it is about.
Which of them become lines is settled outside the program, in the environment, and so is what else a
line holds, such as the time.  A `Log` is both of these choices.  All that is relied on is that only
events make lines (`Log.text`).  Without a setting a log shows errors alone (`Log.Quiet`); no event is
one (`Event.level_ne_error`), so such a log stays empty (`Log.Quiet.text_eq`).
-/

namespace ProofOfWork

/-- How much an event matters. -/
inductive Level where
  | error
  | warn
  | info
  | debug
  | trace
  deriving DecidableEq

/-- **Something that a run reports.** -/
inductive Event where
  /-- A file of parameters has been accepted. -/
  | paramsLoaded (path : String)
  /-- The parameters of the run are settled. -/
  | paramsSettled (network : Network) (params : Params)
  /-- The fixed-window rule keeps the bits, since its timespan is not positive. -/
  | bitsKept (timespan : Seconds)
  /-- The next block is mined at the fixed target. -/
  | fixedTarget (height : Nat)
  /-- The history is too short for a walk. -/
  | wellBootstrap (atLeast : Nat)
  /-- A walk from a tip of this height has ended. -/
  | wellRetarget (height : Nat) (report : Report)
  /-- The bits required at a height are known. -/
  | workRequired (height : Nat) (bits : Compact)

namespace Event

/-- How much it matters. -/
def level : Event → Level
  | .paramsLoaded _ | .workRequired _ _ => .info
  | .paramsSettled _ _ | .fixedTarget _ | .wellBootstrap _ => .debug
  | .bitsKept _ => .warn
  | .wellRetarget _ _ => .trace

/-- What it says, apart from its values. -/
def message : Event → String
  | .paramsLoaded _ => "loaded parameter override"
  | .paramsSettled _ _ => "consensus parameters"
  | .bitsKept _ => "non-positive retarget timespan, keeping tip bits"
  | .fixedTarget _ => "fixed bootstrap target"
  | .wellBootstrap _ => "gravity well bootstrap at pow limit"
  | .wellRetarget _ _ => "gravity well retarget"
  | .workRequired _ _ => "next work required"

/-- **No event is an error**: what goes wrong is complained of, not logged. -/
theorem level_ne_error (event : Event) : event.level ≠ .error := by
  intro same
  cases event <;> cases same

end Event

/-- **What becomes of events.** -/
structure Log where
  /-- Whether an event is shown. -/
  shows : Event → Bool
  /-- The line of an event that is shown, given how many are in front of it. -/
  line : Nat → Event → String

namespace Log

/-- **The lines of the events that a log shows**, in their order. -/
def text (log : Log) (events : List Event) : String :=
  String.join ((events.filter log.shows).mapIdx log.line)

/-- A log that shows errors alone, as without a setting in the environment. -/
def Quiet (log : Log) : Prop := ∀ event, log.shows event = true → event.level = .error

/-- **Nothing stands in a log of errors alone.** -/
theorem Quiet.text_eq {log : Log} (quiet : log.Quiet) (events : List Event) :
    log.text events = "" := by
  have hidden : events.filter log.shows = [] :=
    List.filter_eq_nil_iff.2 fun event _ shown => event.level_ne_error (quiet event shown)
  rw [text, hidden]
  rfl

end Log

/-! ## The rules -/

/-- What the Gravity Well reports: that the history is too short, or how its walk has ended. -/
def wellEvents (window : Window) (params : Params) : List Header → List Event
  | [] => [.wellBootstrap window.atLeast]
  | tip :: older =>
    match gravityWell window params (tip :: older) with
    | .error _ => []
    | .ok report =>
      if report.bootstrap then [.wellBootstrap window.atLeast]
      else [.wellRetarget tip.height report]

/-- What the rule of a height reports. -/
def nextWorkEvents (params : Params) (tip : Header) (older : List Header) : List Event :=
  if tip.height = bootstrapHeight then [.fixedTarget bootstrapHeight]
  else wellEvents Window.deployed params (tip :: older)

/-- What the fixed-window rule reports. -/
def fixedWindowEvents (params : Params) : List Event :=
  if !params.noRetargeting && decide (params.timespan.toInt ≤ 0) then [.bitsKept params.timespan]
  else []

end ProofOfWork
