import ProofOfWork.Command.Run
import ProofOfWork.Proofs.Chain.HeaderFile
import ProofOfWork.Proofs.Params.Document
import ProofOfWork.Proofs.Retarget.RequiredWork
import ProofOfWork.Retarget.FixedWindow

/-!
# Proofs/Command/ExitLaw — how a command on a header file ends

    parameters ──▸ spacing ──▸ header file ──▸ rule ──▸ one line, exit 0
         ╰───────────┴────────────┴──▸ complaints, no line, exit 1

Three things may be refused: the text of the parameters, a spacing that is not positive, and the
text of the header file.  Once none of them is, nothing is left to go wrong.  A file that is read
has a tip, a positive spacing makes a window, and both retargeting rules answer on every branch,
whatever the parameters; so no such run ends in a fault, and the three conditions together say which
way it ends (`chainCommand_exit`).  Nor does a look-up fail in an index: a file is loaded by calls
(`chain_reachable`), and whatever calls build holds no id without a node
(`ChainIndex.Reachable.closed`).

Standard output also takes the lines of the log, in front of the answer and under a refusal alike.
Whether there are any is up to the environment; a log of errors alone has none.
-/

namespace ProofOfWork

/-- **A command on a header file.** -/
inductive ChainCommand where
  /-- The bits required of the next block. -/
  | nextWork
  /-- The fixed-window retarget of the tip. -/
  | legacyRetarget (firstBlockTime : Seconds)
  /-- The Gravity Well walk from the tip, with parts of its window replaced. -/
  | wellReport (spacing : Option Seconds) (atLeast atMost : Option ℕ)

namespace ChainCommand

/-- The command as an action on a file. -/
def on (chainFile : String) : ChainCommand → Action
  | .nextWork => .nextWork chainFile
  | .legacyRetarget firstBlockTime => .legacyRetarget chainFile firstBlockTime
  | .wellReport spacing atLeast atMost => .wellReport chainFile spacing atLeast atMost

/-- The spacing that is given with the command. -/
def spacing? : ChainCommand → Option Seconds
  | .wellReport spacing _ _ => spacing
  | _ => none

/-- **What the command answers** under parameters on a branch, whose tip has the predecessors
`older`. -/
inductive Answers (params : Params) (tip : Header) (older : List Header) :
    ChainCommand → String → Prop
  | nextWork {bits : Compact} (required : ProofOfWork.nextWork params tip older = .ok bits) :
      Answers params tip older .nextWork bits.toHex
  | legacyRetarget {firstBlockTime : Seconds} {bits : Compact}
      (retargeted : fixedWindowBits params tip firstBlockTime = .ok bits) :
      Answers params tip older (.legacyRetarget firstBlockTime) bits.toHex
  | wellReport {spacing : Option Seconds} {atLeast atMost : Option ℕ} {window : Window}
      {report : Report} (settled : reportWindow spacing atLeast atMost = .ok (.ok window))
      (reported : gravityWell window params (tip :: older) = .ok report) :
      Answers params tip older (.wellReport spacing atLeast atMost) report.toJson.pretty

end ChainCommand

/-- The parameters that apply: those of a text, if one is given, or else of the network. -/
def settledParams (network : Network) : Option String → Except Params.DocumentError Params
  | none => .ok network.params
  | some text => Params.ofText text

/-- **What a command asks of its inputs**: parameters that are read, a spacing that is positive, and
a header file that lists a branch. -/
structure Accepted (network : Network) (paramsText : Option String) (command : ChainCommand)
    (chainText : String) : Prop where
  params : ∃ params, settledParams network paramsText = .ok params
  spacing : ∀ spacing ∈ command.spacing?, 0 < spacing.toInt
  branch : ∃ branch, ListsBranch chainText branch

/-! ## The three stages -/

section Stages

variable {files : Files}

theorem contents_eq_ok {name text : String} (read : files name = some text) :
    files.contents name = .ok text := by
  rw [Files.contents, read]

/-- The parameters of a run are those that apply, or the run has none. -/
theorem params_cases {network : Network} {paramsFile paramsText : Option String} (action : Action)
    (read : Option.Rel (fun name text => files name = some text) paramsFile paramsText) :
    (∃ params, settledParams network paramsText = .ok params ∧
      Invocation.params files ⟨network, paramsFile, action⟩ = .ok params) ∨
    ((∀ params, settledParams network paramsText ≠ .ok params) ∧
      ∃ complaints, Invocation.params files ⟨network, paramsFile, action⟩ = .error complaints) := by
  cases read with
  | none => exact Or.inl ⟨network.params, rfl, rfl⟩
  | @some name text read =>
    rw [settledParams]
    cases parsed : Params.ofText text with
    | ok params =>
      refine Or.inl ⟨params, rfl, ?_⟩
      simp only [Invocation.params, contents_eq_ok read, parsed, bind, Except.bind]
    | error e =>
      refine Or.inr ⟨fun _ => nofun, ["invalid parameter file " ++ name, e.message], ?_⟩
      simp only [Invocation.params, contents_eq_ok read, parsed, bind, Except.bind]

theorem chain_eq {chainFile chainText : String} (read : files chainFile = some chainText) :
    files.chain chainFile =
      match ChainIndex.ofHeaderFile chainText with
      | .ok chain => .ok chain
      | .error e => .error (("failed to load " ++ chainFile) :: e.chain) := by
  rw [Files.chain, contents_eq_ok read]
  rfl

/-- **The index of a file is one that calls build.** -/
theorem chain_reachable {chainFile chainText : String} (read : files chainFile = some chainText)
    {chain : ChainIndex} (loaded : files.chain chainFile = .ok chain) : chain.Reachable := by
  rw [chain_eq read] at loaded
  rcases ChainIndex.ofHeaderFile_cases chainText with
    ⟨branch, made, -, built, reached, -⟩ | ⟨-, e, refused⟩
  · rw [built] at loaded
    obtain rfl := Except.ok.inj loaded
    exact reached
  · rw [refused] at loaded
    cases loaded

/-- **The branch of a file is the one that its text lists**, tip first. -/
theorem branch_cases {chainFile chainText : String} (read : files chainFile = some chainText) :
    (∃ tip older, ListsBranch chainText (tip :: older).reverse ∧
      files.branch chainFile = .ok (tip, older)) ∨
    ((∀ branch, ¬ ListsBranch chainText branch) ∧
      ∃ complaints, files.branch chainFile = .error complaints) := by
  rcases ChainIndex.ofHeaderFile_cases chainText with
    ⟨branch, chain, lists, built, -, keeps⟩ | ⟨none, e, refused⟩
  · have loaded : files.chain chainFile = .ok chain := by rw [chain_eq read, built]
    have history : chain.tipHistory = branch.reverse := List.reverse_eq_iff.1 keeps.history
    cases backwards : branch.reverse with
    | nil => exact absurd (List.reverse_eq_nil_iff.1 backwards) lists.ne_nil
    | cons tip older =>
      refine Or.inl ⟨tip, older, ?_, ?_⟩
      · rwa [← backwards, List.reverse_reverse]
      · simp only [Files.branch, loaded, history, backwards, bind, Except.bind]
  · have failed : files.chain chainFile = .error (("failed to load " ++ chainFile) :: e.chain) := by
      rw [chain_eq read, refused]
    exact Or.inr ⟨none, _, by rw [Files.branch, failed]; rfl⟩

/-- A spacing makes a window unless it is given and not positive. -/
theorem reportWindow_cases (spacing : Option Seconds) (atLeast atMost : Option ℕ) :
    ((∀ given ∈ spacing, 0 < given.toInt) ∧
      ∃ window, reportWindow spacing atLeast atMost = .ok (.ok window)) ∨
    ((¬ ∀ given ∈ spacing, 0 < given.toInt) ∧
      ∃ complaints, reportWindow spacing atLeast atMost = .error complaints) := by
  cases spacing with
  | none => exact Or.inl ⟨nofun, _, rfl⟩
  | some given =>
    by_cases positive : 0 < given.toInt
    · obtain ⟨window, made, -⟩ := Window.exists_ofSpacing positive
      refine Or.inl ⟨?_, ?_⟩
      · rintro _ ⟨⟩
        exact positive
      · rw [reportWindow, if_pos positive, made]
        exact ⟨_, rfl⟩
    · refine Or.inr ⟨fun all => positive (all given rfl), _, if_neg positive⟩

end Stages

/-! ## The action -/

namespace ChainCommand

variable {files : Files} {chainFile : String} {params : Params} {command : ChainCommand}

/-- **Nothing is left to go wrong** once the spacing is positive and the file has a branch: every
rule answers. -/
theorem run_eq_line {tip : Header} {older : List Header}
    (positive : ∀ spacing ∈ command.spacing?, 0 < spacing.toInt)
    (read : files.branch chainFile = .ok (tip, older)) :
    ∃ answer, command.Answers params tip older answer ∧
      (command.on chainFile).run files params = .ok (.line answer) := by
  cases command with
  | nextWork =>
    obtain ⟨bits, required, -⟩ := nextWork_usable params tip older
    refine ⟨bits.toHex, .nextWork required, ?_⟩
    simp only [on, Action.run, read, bind, Except.bind, pure, Except.pure, required,
      Outcome.ofAnswer]
  | legacyRetarget firstBlockTime =>
    obtain ⟨bits, retargeted⟩ := exists_fixedWindowBits params tip firstBlockTime
    refine ⟨bits.toHex, .legacyRetarget retargeted, ?_⟩
    simp only [on, Action.run, read, bind, Except.bind, pure, Except.pure, retargeted,
      Outcome.ofAnswer]
  | wellReport spacing atLeast atMost =>
    rcases reportWindow_cases spacing atLeast atMost with ⟨-, window, settled⟩ | ⟨low, -⟩
    · obtain ⟨report, reported, -⟩ := gravityWell_usable window params (tip :: older)
      refine ⟨report.toJson.pretty, .wellReport settled reported, ?_⟩
      simp only [on, Action.run, settled, read, bind, Except.bind, pure, Except.pure,
        Action.report, reported, Outcome.ofAnswer]
    · exact absurd positive low

/-- A file without a branch, or a spacing that is not positive, is refused. -/
theorem run_eq_error
    (refused : (¬ ∀ spacing ∈ command.spacing?, 0 < spacing.toInt) ∨
      ∃ complaints, files.branch chainFile = .error complaints) :
    ∃ complaints, (command.on chainFile).run files params = .error complaints := by
  cases command with
  | nextWork | legacyRetarget =>
    rcases refused with low | ⟨complaints, refused⟩
    · exact absurd nofun low
    · exact ⟨complaints, by rw [on, Action.run, refused]; rfl⟩
  | wellReport spacing atLeast atMost =>
    rcases reportWindow_cases spacing atLeast atMost with
      ⟨positive, window, settled⟩ | ⟨-, complaints, bad⟩
    · rcases refused with low | ⟨complaints, refused⟩
      · exact absurd positive low
      · exact ⟨complaints, by rw [on, Action.run, settled, refused]; rfl⟩
    · exact ⟨complaints, by rw [on, Action.run, bad]; rfl⟩

end ChainCommand

/-! ## The run -/

section Run

variable {files : Files} {network : Network} {paramsFile paramsText : Option String}
  {chainFile chainText : String}

/-- **What a command answers to its inputs**, as a line of text. -/
def AnswersTo (network : Network) (paramsText : Option String) (command : ChainCommand)
    (chainText answer : String) : Prop :=
  ∃ params tip older, settledParams network paramsText = .ok params ∧
    ListsBranch chainText (tip :: older).reverse ∧ command.Answers params tip older answer

theorem run_of_params {invocation : Invocation} {params : Params}
    (settled : invocation.params files = .ok params) :
    invocation.run files = orFailed (invocation.action.run files params) := by
  rw [Invocation.run, settled]
  rfl

theorem events_of_params {invocation : Invocation} {params : Params}
    (settled : invocation.params files = .ok params) :
    invocation.events files = (invocation.paramsFile.map Event.paramsLoaded).toList ++
      .paramsSettled invocation.network params :: invocation.action.events files params := by
  rw [Invocation.events, settled]

/-- Without a branch an action reports nothing. -/
theorem branchEvents_of_error {complaints : List String} {report : Header → List Header → List Event}
    (refused : files.branch chainFile = .error complaints) :
    Action.branchEvents files chainFile report = [] := by
  rw [Action.branchEvents, refused]

/-- **A run prints an answer to accepted inputs, and complains about all others.** -/
theorem run_cases (command : ChainCommand)
    (paramsRead : Option.Rel (fun name text => files name = some text) paramsFile paramsText)
    (chainRead : files chainFile = some chainText) :
    (Accepted network paramsText command chainText ∧
      ∃ answer, AnswersTo network paramsText command chainText answer ∧
        Invocation.run files ⟨network, paramsFile, command.on chainFile⟩ = .line answer) ∨
    (¬ Accepted network paramsText command chainText ∧
      ∃ complaints,
        Invocation.run files ⟨network, paramsFile, command.on chainFile⟩ = .failed complaints) := by
  rcases params_cases (command.on chainFile) paramsRead with
    ⟨params, settled, apply⟩ | ⟨none, complaints, refused⟩
  · rw [run_of_params apply]
    by_cases positive : ∀ spacing ∈ command.spacing?, 0 < spacing.toInt
    · rcases branch_cases chainRead with ⟨tip, older, lists, read⟩ | ⟨none, refused⟩
      · obtain ⟨answer, answers, runs⟩ := command.run_eq_line positive read
        refine Or.inl ⟨⟨⟨params, settled⟩, positive, _, lists⟩, answer, ?_, by rw [runs, orFailed]⟩
        exact ⟨params, tip, older, settled, lists, answers⟩
      · obtain ⟨complaints, runs⟩ := command.run_eq_error (Or.inr refused)
        refine Or.inr ⟨fun accepted => ?_, complaints, by rw [runs, orFailed]⟩
        obtain ⟨branch, lists⟩ := accepted.branch
        exact none branch lists
    · obtain ⟨complaints, runs⟩ := command.run_eq_error (Or.inl positive)
      exact Or.inr ⟨fun accepted => positive accepted.spacing, complaints, by rw [runs, orFailed]⟩
  · rw [Invocation.run, refused]
    refine Or.inr ⟨fun accepted => ?_, complaints, rfl⟩
    obtain ⟨params, settled⟩ := accepted.params
    exact none params settled

end Run

/-- The entries of a header file that gives bits both ways. -/
def twoEntries : List FileEntry :=
  [⟨500, 0, .number ⟨0x1d00ffff⟩⟩, ⟨501, 79, .text "0x1c7fffff"⟩]

/-- A file of two headers, a file of parameters, and an empty list, which is neither. -/
def threeFiles : Files := fun name =>
  if name = "headers.json" then some (headerFileText twoEntries)
  else if name = "params.json" then some Network.regtest.params.toText
  else if name = "empty.json" then some "[]"
  else none

/-- A report on a file. -/
def reportOn (paramsFile : Option String) (chainFile : String) : Invocation :=
  ⟨.main, paramsFile, (ChainCommand.wellReport (some 79) none (some 2)).on chainFile⟩

/-- The bits that a file requires next. -/
def nextWorkOn (paramsFile : Option String) (chainFile : String) : Invocation :=
  ⟨.main, paramsFile, ChainCommand.nextWork.on chainFile⟩

/-- A log of bare messages at one level. -/
def messagesAt (level : Level) : Log where
  shows event := event.level = level
  line _ event := event.message ++ "\n"

theorem twoEntries_listed : ListsBranch (headerFileText twoEntries)
    [⟨500, 0, ⟨0x1d00ffff⟩⟩, ⟨501, 79, ⟨0x1c7fffff⟩⟩] :=
  ⟨twoEntries, by decide +kernel, by decide,
    .cons ⟨rfl, rfl, rfl⟩ (.cons ⟨rfl, rfl, by decide +kernel⟩ .nil), by decide⟩

theorem empty_unlisted (branch : List Header) : ¬ ListsBranch "[]" branch := by
  have noHeaders : ChainIndex.ofHeaderFile "[]" = .error .noHeaders := by decide +kernel
  rcases ChainIndex.ofHeaderFile_cases "[]" with ⟨_, chain, -, built, -⟩ | ⟨none, -⟩
  · cases noHeaders.symm.trans built
  · exact none branch

/-- Parameters that have been read are reported, even where the headers are then refused. -/
theorem events_nextWorkOn_empty : (nextWorkOn (some "params.json") "empty.json").events threeFiles =
    [.paramsLoaded "params.json", .paramsSettled .main Network.regtest.params] := by
  have paramsRead : threeFiles "params.json" = some Network.regtest.params.toText := rfl
  have emptyRead : threeFiles "empty.json" = some "[]" := rfl
  have sound : Params.ofText Network.regtest.params.toText = .ok Network.regtest.params :=
    Params.ofText_toText_eq_ok_iff.2 (Network.sound_params .regtest)
  rcases @params_cases threeFiles .main _ _ (ChainCommand.nextWork.on "empty.json")
    (.some paramsRead) with ⟨params, settled, apply⟩ | ⟨none, -⟩
  · obtain rfl := Except.ok.inj (sound.symm.trans settled)
    rcases branch_cases emptyRead with ⟨tip, older, lists, -⟩ | ⟨-, complaints, refused⟩
    · exact absurd lists (empty_unlisted _)
    · rw [nextWorkOn, events_of_params apply, ChainCommand.on, Action.events,
        branchEvents_of_error refused]
      rfl
  · exact absurd sound (none _)

end ProofOfWork
