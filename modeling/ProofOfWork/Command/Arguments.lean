import ProofOfWork.Params.Network

/-!
# Command/Arguments — the command line as a request

An `Invocation` is a request that the command line has been read into: one of six actions, and the
parameters under which it is to be done, which are those of a network unless a file overrides them.

A command line is read from left to right on two levels.  Before the name of an action stand the
options that apply to every action; behind it stand those again, the action's own options, and its
operand if it takes one.  Any fault makes the whole line a misuse, except that a request for help or
for the version is granted as soon as it is reached.

An option has a value, given as `--name=value` or as the next argument; a separate value must not
begin with a dash unless it is the dash alone.  An option may stand once on each level, and the inner
level wins.  The two common options may also come from the environment, which yields to the command
line.  Yet each level turns to the environment for what does not stand on that level, so that an
environment value is examined unless the option stands on both.
-/

namespace ProofOfWork

/-! ## What the program can be asked to do -/

/-- **What is to be done.** -/
inductive Action where
  /-- Check a block hash against compact bits. -/
  | checkPow (hash bits : String)
  /-- The bits required of the block after the tip of a header file. -/
  | nextWork (chainFile : String)
  /-- The fixed-window retarget of the tip of a header file. -/
  | legacyRetarget (chainFile : String) (firstBlockTime : Seconds)
  /-- The Gravity Well walk from the tip of a header file, with parts of its window replaced. -/
  | wellReport (chainFile : String) (spacing : Option Seconds) (atLeast atMost : Option Nat)
  /-- The target that compact bits stand for. -/
  | decodeCompact (bits : String)
  /-- The compact bits of a target. -/
  | encodeCompact (target : String)
  deriving DecidableEq

/-- **An action together with the parameters it is to be done under.** -/
structure Invocation where
  network : Network
  /-- A file of parameters that overrides those of the network. -/
  paramsFile : Option String
  action : Action
  deriving DecidableEq

/-- What a command line asks for. -/
inductive Request where
  | perform (invocation : Invocation)
  | version
  | help
  deriving DecidableEq

/-! ## Vocabulary -/

/-- The names of the actions. -/
inductive Verb where
  | checkPow
  | nextWork
  | legacyRetarget
  | wellReport
  | decodeCompact
  | encodeCompact
  deriving DecidableEq

namespace Verb

/-- Every action. -/
def all : List Verb :=
  [.checkPow, .nextWork, .legacyRetarget, .wellReport, .decodeCompact, .encodeCompact]

/-- How an action is named on the command line. -/
def name : Verb → String
  | .checkPow => "check-pow"
  | .nextWork => "next-work"
  | .legacyRetarget => "legacy-retarget"
  | .wellReport => "well-report"
  | .decodeCompact => "decode-compact"
  | .encodeCompact => "encode-compact"

/-- The action of a name. -/
def ofName? (name : String) : Option Verb := all.find? fun verb => verb.name = name

end Verb

/-- The options, each of which takes a value. -/
inductive Flag where
  | network
  | params
  | hash
  | bits
  | chain
  | firstBlockTime
  | spacing
  | minWindow
  | maxWindow
  deriving DecidableEq

namespace Flag

/-- Every option. -/
def all : List Flag :=
  [.network, .params, .hash, .bits, .chain, .firstBlockTime, .spacing, .minWindow, .maxWindow]

/-- How an option is named on the command line, behind its two dashes. -/
def name : Flag → String
  | .network => "network"
  | .params => "params"
  | .hash => "hash"
  | .bits => "bits"
  | .chain => "chain"
  | .firstBlockTime => "first-block-time"
  | .spacing => "spacing"
  | .minWindow => "min-window"
  | .maxWindow => "max-window"

/-- The option of a name. -/
def ofName? (name : String) : Option Flag := all.find? fun flag => flag.name = name

/-- The options that apply to every action. -/
def common : List Flag := [.network, .params]

end Flag

/-- The options that an action knows. -/
def Verb.flags : Verb → List Flag
  | .checkPow => [.hash, .bits]
  | .nextWork => [.chain]
  | .legacyRetarget => [.chain, .firstBlockTime]
  | .wellReport => [.chain, .spacing, .minWindow, .maxWindow]
  | .decodeCompact => []
  | .encodeCompact => []

/-- How many operands an action takes. -/
def Verb.places : Verb → Nat
  | .decodeCompact | .encodeCompact => 1
  | _ => 0

/-! ## Values -/

/-- The number that decimal digits denote, of which there is at least one. -/
def decimal? (digits : List Char) : Option Nat :=
  if digits ≠ [] ∧ digits.all Char.isDigit then some (Nat.ofDigitChars 10 digits 0) else none

/-- The unsigned 64-bit number of a text, which may have a plus sign. -/
def countOfText? (text : String) : Option Nat :=
  let value :=
    match text.toList with
    | '+' :: digits => decimal? digits
    | digits => decimal? digits
  value.filter (· < 2 ^ 64)

/-- The signed 64-bit number of a text, which may have a sign. -/
def secondsOfText? (text : String) : Option Seconds :=
  let value : Option Int :=
    match text.toList with
    | '+' :: digits => (decimal? digits).map fun n => n
    | '-' :: digits => (decimal? digits).map fun n => -n
    | digits => (decimal? digits).map fun n => n
  value.bind Seconds.ofInt?

/-- The network of a text. -/
def networkOfText? (text : String) : Option Network := (Network.ofName text).toOption

/-- **Whether an option accepts a value.**  File names must not be empty. -/
def Flag.accepts (flag : Flag) (value : String) : Bool :=
  match flag with
  | .network => (networkOfText? value).isSome
  | .params | .chain => value ≠ ""
  | .hash | .bits => true
  | .firstBlockTime | .spacing => (secondsOfText? value).isSome
  | .minWindow | .maxWindow => (countOfText? value).isSome

/-! ## Arguments -/

/-- What an argument looks like. -/
inductive Argument where
  /-- `--name` or `--name=value`. -/
  | long (name : String) (value : Option String)
  /-- A dash and letters, of which only the first counts. -/
  | short (letter : Char)
  /-- Two dashes alone. -/
  | separator
  | word (text : String)
  deriving DecidableEq

/-- The form of an argument; a dash alone is a word. -/
def Argument.ofText (text : String) : Argument :=
  match text.toList with
  | ['-', '-'] => .separator
  | '-' :: '-' :: rest =>
    let name := String.ofList (rest.takeWhile (· ≠ '='))
    match rest.dropWhile (· ≠ '=') with
    | [] => .long name none
    | _ :: value => .long name (some (String.ofList value))
  | '-' :: letter :: _ => .short letter
  | _ => .word text

/-- Whether an argument may be the value of the option before it. -/
def isSeparateValue (text : String) : Bool :=
  match text.toList with
  | '-' :: _ :: _ => false
  | _ => true

/-- What has been given on one level. -/
structure Given where
  options : List (Flag × String)
  /-- The operands, backwards. -/
  operands : List String

namespace Given

/-- Nothing yet. -/
def nothing : Given := ⟨[], []⟩

/-- The value of an option. -/
def value? (given : Given) (flag : Flag) : Option String :=
  (given.options.find? fun option => option.1 = flag).map Prod.snd

/-- One more option, which must be new to its level and accept its value. -/
def add? (given : Given) (flag : Flag) (value : String) : Option Given :=
  if (given.value? flag).isSome || !flag.accepts value then none
  else some { given with options := (flag, value) :: given.options }

/-- One more operand. -/
def operand (given : Given) (text : String) : Given :=
  { given with operands := text :: given.operands }

end Given

/-- What reading a level led to. -/
inductive LevelEnd where
  /-- Help was asked for. -/
  | help
  /-- The version was asked for. -/
  | version
  /-- The arguments ended. -/
  | finished (given : Given)
  /-- A word came that begins the next level. -/
  | word (given : Given) (text : String) (rest : List String)

/-- The option of an argument among those known. -/
def knownFlag? (known : List Flag) (name : String) : Option Flag :=
  (Flag.ofName? name).filter fun flag => known.contains flag

/-- **The outer level**: common options up to the first word. -/
def readOuter (given : Given) : List String → Option LevelEnd
  | [] => some (.finished given)
  | text :: rest =>
    match Argument.ofText text with
    | .separator => none
    | .word text => some (.word given text rest)
    | .short letter =>
      if letter = 'V' then some .version else if letter = 'h' then some .help else none
    | .long "version" none => some .version
    | .long "help" none => some .help
    | .long name (some value) => do
      let flag ← knownFlag? Flag.common name
      readOuter (← given.add? flag value) rest
    | .long name none =>
      match rest with
      | [] => none
      | value :: rest => do
        let flag ← knownFlag? Flag.common name
        if isSeparateValue value then readOuter (← given.add? flag value) rest else none

/-- **The level of an action**: its options and operands up to the end.  A word is a fault as soon as
the `places` for operands are taken.  After a separator all words are operands. -/
def readInner (known : List Flag) (places : Nat) (given : Given) : List String → Option LevelEnd
  | [] => some (.finished given)
  | text :: rest =>
    match Argument.ofText text with
    | .separator => some (.finished (rest.foldl Given.operand given))
    | .word text =>
      if given.operands.length < places then readInner known places (given.operand text) rest
      else none
    | .short letter => if letter = 'h' then some .help else none
    | .long "help" none => some .help
    | .long name (some value) => do
      let flag ← knownFlag? known name
      readInner known places (← given.add? flag value) rest
    | .long name none =>
      match rest with
      | [] => none
      | value :: rest => do
        let flag ← knownFlag? known name
        if isSeparateValue value then
          readInner known places (← given.add? flag value) rest
        else none

/-! ## Requests -/

/-- The environment variables that stand in for common options. -/
structure Environment where
  network : Option String
  params : Option String

namespace Environment

/-- The variable that stands in for a common option. -/
def value? (env : Environment) : Flag → Option String
  | .network => env.network
  | .params => env.params
  | _ => none

end Environment

/-- **The value of a common option**: from the action's level, else from the outer one, else from the
environment.  Nothing comes out if the environment's value is not acceptable, unless the option
stands on both levels and neither turns to the environment. -/
def commonValue? (env : Environment) (outer inner : Given) (flag : Flag) :
    Option (Option String) :=
  let given := (inner.value? flag).or (outer.value? flag)
  let onBoth := (inner.value? flag).isSome && (outer.value? flag).isSome
  match env.value? flag with
  | none => some given
  | some fallback =>
    if onBoth || flag.accepts fallback then some (given.or (some fallback)) else none

/-- The action that a level describes; none if something it needs is missing or too much is given. -/
def Verb.action? (verb : Verb) (given : Given) : Option Action :=
  match verb, given.operands with
  | .checkPow, [] => do
    return .checkPow (← given.value? .hash) (← given.value? .bits)
  | .nextWork, [] => do
    return .nextWork (← given.value? .chain)
  | .legacyRetarget, [] => do
    let firstBlockTime ← given.value? .firstBlockTime
    return .legacyRetarget (← given.value? .chain) (← secondsOfText? firstBlockTime)
  | .wellReport, [] => do
    return .wellReport (← given.value? .chain) ((given.value? .spacing).bind secondsOfText?)
      ((given.value? .minWindow).bind countOfText?) ((given.value? .maxWindow).bind countOfText?)
  | .decodeCompact, [bits] => some (.decodeCompact bits)
  | .encodeCompact, [target] => some (.encodeCompact target)
  | _, _ => none

/-- What is asked for behind the name of an action. -/
def requestOf? (env : Environment) (outer : Given) (verb : Verb) (rest : List String) :
    Option Request := do
  match ← readInner (verb.flags ++ Flag.common) verb.places Given.nothing rest with
  | .finished inner =>
    let action ← verb.action? inner
    let network ← commonValue? env outer inner .network
    let paramsFile ← commonValue? env outer inner .params
    let network := (network.bind networkOfText?).getD Network.default
    return .perform ⟨network, paramsFile, action⟩
  | .help => return .help
  | .version => return .version
  | .word _ _ _ => none

/-- Whether `help` may be followed by these words: by nothing, or by one name. -/
def helpTopic : List String → Bool
  | [] => true
  | [topic] => topic = "help" || (Verb.ofName? topic).isSome
  | _ => false

/-- **What a command line asks for**; nothing if it is misused. -/
def Request.ofArguments? (env : Environment) (arguments : List String) : Option Request := do
  match ← readOuter Given.nothing arguments with
  | .word outer text rest =>
    if text = "help" then (if helpTopic rest then some .help else none)
    else requestOf? env outer (← Verb.ofName? text) rest
  | .help => return .help
  | .version => return .version
  | .finished _ => none

end ProofOfWork
