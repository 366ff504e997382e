import ProofOfWork.Acceptance
import ProofOfWork.Chain.Document
import ProofOfWork.Command.Arguments
import ProofOfWork.Command.Log
import ProofOfWork.Retarget.Document
import ProofOfWork.Retarget.FixedWindow
import ProofOfWork.Retarget.NextWork

/-!
# Command/Run — carrying out a request

A request is carried out against the contents of files, given as a function from names.  The
parameters are settled before anything the action itself needs, so an unreadable parameter file is
reported even by an action that has no use for parameters.

An `Outcome` is printed text, a chain of complaints with the outermost first, an arithmetic fault, or
a misused command line, and each has its exit code.  Besides, a run reports events as it goes along
(`Invocation.events`).  A `Log` makes lines of them on the same standard output, so that what stands
there is settled by the outcome and the log together (`Invocation.standardOutput`); the lines are in
front, since a result is printed last.  A log that shows errors alone leaves only the outcome
(`standardOutput_of_quiet`).
-/

namespace ProofOfWork

/-- **How a run ends.** -/
inductive Outcome where
  | printed (text : String)
  | failed (complaints : List String)
  | faulted (fault : Fault)
  | misused

namespace Outcome

/-- The exit code of a run. -/
def exitCode : Outcome → UInt32
  | .printed _ => 0
  | .failed _ => 1
  | .misused => 2
  | .faulted _ => 101

/-- What a run prints as its result, behind the lines of its log. -/
def output : Outcome → String
  | .printed text => text
  | _ => ""

/-- Whether a run broke off in the middle of its arithmetic. -/
def isFault : Outcome → Bool
  | .faulted _ => true
  | _ => false

/-- A line of output. -/
def line (text : String) : Outcome := .printed (text ++ "\n")

/-- A line of output for an answer, if arithmetic has one. -/
def ofAnswer {α : Type} (render : α → String) : Except Fault α → Outcome
  | .ok answer => line (render answer)
  | .error fault => .faulted fault

end Outcome

/-- The contents of the files that can be read. -/
abbrev Files := String → Option String

/-- The contents of a file, or the complaint that it cannot be read. -/
def Files.contents (files : Files) (name : String) : Except (List String) String :=
  match files name with
  | some text => .ok text
  | none => .error ["failed to read " ++ name]

/-- **The parameters of a run**: those of the file, if there is one, or else of the network. -/
def Invocation.params (files : Files) (invocation : Invocation) : Except (List String) Params :=
  match invocation.paramsFile with
  | none => .ok invocation.network.params
  | some name => do
    let text ← files.contents name
    match Params.ofText text with
    | .ok params => .ok params
    | .error e => .error ["invalid parameter file " ++ name, e.message]

/-- The index that a header file describes. -/
def Files.chain (files : Files) (name : String) : Except (List String) ChainIndex := do
  let text ← files.contents name
  match ChainIndex.ofHeaderFile text with
  | .ok chain => .ok chain
  | .error e => .error (("failed to load " ++ name) :: e.chain)

/-- The branch of a header file, its tip first. -/
def Files.branch (files : Files) (name : String) : Except (List String) (Header × List Header) := do
  let chain ← files.chain name
  match chain.tipHistory with
  | tip :: older => .ok (tip, older)
  | [] => .error ["header file holds no tip"]

/-- **The window of a walk**: the deployed one, or that of a spacing, with its bounds replaced. -/
def reportWindow (spacing : Option Seconds) (atLeast atMost : Option Nat) :
    Except (List String) (Except Fault Window) :=
  let bounded (window : Window) : Window :=
    { window with
      atLeast := atLeast.getD window.atLeast
      atMost := atMost.getD window.atMost }
  match spacing with
  | none => .ok (.ok (bounded Window.deployed))
  | some spacing =>
    if 0 < spacing.toInt then .ok ((Window.ofSpacing spacing).map bounded)
    else .error ["spacing must be positive"]

/-- **The deployed window is that of its own spacing**, whichever way a walk is asked for. -/
theorem reportWindow_deployedSpacing (evaluated : Window.DeployedReach)
    (atLeast atMost : Option Nat) :
    reportWindow (some Window.deployedSpacing) atLeast atMost = reportWindow none atLeast atMost := by
  have positive : 0 < Window.deployedSpacing.toInt := by decide
  simp only [reportWindow, if_pos positive, Window.ofSpacing_deployedSpacing evaluated, Except.map]

/-- The document that describes a compact word. -/
def describeCompact (bits : Compact) : Json.Value :=
  let decoded := bits.decode
  .record
    [("bits", .text bits.toHex), ("target", .text decoded.target.toHex),
      ("negative", .bool decoded.negative), ("overflow", .bool decoded.overflow)]

/-- The outcome of a step, or what the complaints about it come to. -/
def orFailed : Except (List String) Outcome → Outcome
  | .ok outcome => outcome
  | .error complaints => .failed complaints

namespace Action

/-- Whether a hash is enough work for compact bits. -/
def checkHash (params : Params) (hash bits : String) : Except (List String) Outcome :=
  match BlockHash.ofHex hash with
  | .error e => .error ("block hash must be hex" :: e.chain)
  | .ok hash =>
    match Compact.ofHex bits with
    | .error e => .error e.chain
    | .ok bits =>
      if meetsTarget hash bits params then .ok (.line "ok")
      else .error ["proof of work rejected for bits " ++ bits.toHex]

/-- The Gravity Well walk over a branch. -/
def report (params : Params) (window : Except Fault Window) (branch : Header × List Header) :
    Outcome :=
  .ofAnswer (fun report => report.toJson.pretty) do
    gravityWell (← window) params (branch.1 :: branch.2)

/-- **One action under given parameters.** -/
def run (files : Files) (params : Params) : Action → Except (List String) Outcome
  | .checkPow hash bits => checkHash params hash bits
  | .nextWork chainFile => do
    let (tip, older) ← files.branch chainFile
    return .ofAnswer Compact.toHex (ProofOfWork.nextWork params tip older)
  | .legacyRetarget chainFile firstBlockTime => do
    let (tip, _) ← files.branch chainFile
    return .ofAnswer Compact.toHex (fixedWindowBits params tip firstBlockTime)
  | .wellReport chainFile spacing atLeast atMost => do
    let window ← reportWindow spacing atLeast atMost
    return report params window (← files.branch chainFile)
  | .decodeCompact bits =>
    match Compact.ofHex bits with
    | .ok bits => .ok (.line (describeCompact bits).pretty)
    | .error e => .error e.chain
  | .encodeCompact target =>
    match Target.ofHex target with
    | .ok target => .ok (.line target.encode.toHex)
    | .error e => .error ("target must be hex" :: e.chain)

/-- What an action on a branch reports, or nothing where there is no branch. -/
def branchEvents (files : Files) (chainFile : String) (report : Header → List Header → List Event) :
    List Event :=
  match files.branch chainFile with
  | .error _ => []
  | .ok (tip, older) => report tip older

/-- **What an action reports** under given parameters. -/
def events (files : Files) (params : Params) : Action → List Event
  | .nextWork chainFile =>
    branchEvents files chainFile fun tip older =>
      match ProofOfWork.nextWork params tip older with
      | .error _ => nextWorkEvents params tip older
      | .ok bits => nextWorkEvents params tip older ++ [.workRequired (tip.height + 1) bits]
  | .legacyRetarget chainFile _ =>
    branchEvents files chainFile fun _ _ => fixedWindowEvents params
  | .wellReport chainFile spacing atLeast atMost =>
    match reportWindow spacing atLeast atMost with
    | .ok (.ok window) =>
      branchEvents files chainFile fun tip older => wellEvents window params (tip :: older)
    | _ => []
  | .checkPow _ _ | .decodeCompact _ | .encodeCompact _ => []

end Action

namespace Invocation

/-- **What an invocation comes to.** -/
def run (files : Files) (invocation : Invocation) : Outcome :=
  orFailed do
    let params ← invocation.params files
    invocation.action.run files params

/-- **What an invocation reports**: its parameters once they are settled, then what its action
reports. -/
def events (files : Files) (invocation : Invocation) : List Event :=
  match invocation.params files with
  | .error _ => []
  | .ok params =>
    (invocation.paramsFile.map Event.paramsLoaded).toList ++
      .paramsSettled invocation.network params :: invocation.action.events files params

/-- **What an invocation writes to standard output**: the lines of its log, and its result. -/
def standardOutput (log : Log) (files : Files) (invocation : Invocation) : String :=
  log.text (invocation.events files) ++ (invocation.run files).output

/-- **Where only errors are logged, the result is all there is.** -/
theorem standardOutput_of_quiet {log : Log} (quiet : log.Quiet) (files : Files)
    (invocation : Invocation) :
    invocation.standardOutput log files = (invocation.run files).output := by
  rw [standardOutput, quiet.text_eq, String.empty_append]

end Invocation

/-- The text that help consists of. -/
def helpText : String :=
  "Proof-of-work and retargeting tooling\n\n" ++
    "Usage: powctl [--network NETWORK] [--params FILE] COMMAND\n\n" ++
    "Commands:\n" ++
    "  check-pow --hash HASH --bits BITS\n" ++
    "  next-work --chain FILE\n" ++
    "  legacy-retarget --chain FILE --first-block-time SECONDS\n" ++
    "  well-report --chain FILE [--spacing SECONDS] [--min-window COUNT] [--max-window COUNT]\n" ++
    "  decode-compact BITS\n" ++
    "  encode-compact TARGET\n"

/-- **What a command line comes to.** -/
def runCommandLine (env : Environment) (files : Files) (arguments : List String) : Outcome :=
  match Request.ofArguments? env arguments with
  | none => .misused
  | some .version => .line "powctl 0.1.0"
  | some .help => .printed helpText
  | some (.perform invocation) => invocation.run files

end ProofOfWork
