import ProofOfWork.Json.Number
import ProofOfWork.Text.Hex

/-!
# Json/Token — the words of a JSON text

A text is scanned in one pass, one character at a time, by `Scan.step`: between tokens, inside a bare
word (a literal name or a number), or inside a string.  A bare word ends where a character comes that
cannot belong to one, and only then is it looked at as a whole; so `01`, `1.` and `nul` are refused
there.  Blanks are the space, the tab, the line feed and the carriage return, and nothing else.

In a string a character below U+0020 has to be escaped.  An escape by number spells one UTF-16 unit,
and two units that form a surrogate pair spell one character (`joinPieces`); a surrogate on its own is
well-formed but leaves the string without a text.

`Token.text` writes a token back, and `Scan.ofText?` reads a whole text.
-/

namespace ProofOfWork.Json

/-- **One token.** -/
inductive Token where
  | openObject
  | closeObject
  | openArray
  | closeArray
  | comma
  | colon
  | null
  | bool (b : Bool)
  | number (n : Number)
  /-- A string; it has no text if an escape in it spells half of a surrogate pair. -/
  | string (text : Option String)
  deriving DecidableEq

/-! ## Strings -/

/-- What one character or escape of a string spells. -/
inductive Piece where
  | char (c : Char)
  /-- Half of a surrogate pair. -/
  | half (unit : Nat)
  deriving DecidableEq

/-- The piece that a UTF-16 unit spells. -/
def Piece.ofUnit (unit : Nat) : Piece :=
  if 0xd800 ≤ unit ∧ unit < 0xe000 then .half unit else .char (Char.ofNat unit)

/-- **The text that pieces spell**, each high half joined with the low half behind it. -/
def joinPieces : List Piece → Option (List Char)
  | [] => some []
  | .char c :: rest => (joinPieces rest).map (c :: ·)
  | .half high :: .half low :: rest =>
    if high < 0xdc00 ∧ 0xdc00 ≤ low then
      (joinPieces rest).map (Char.ofNat (0x10000 + (high - 0xd800) * 0x400 + (low - 0xdc00)) :: ·)
    else none
  | .half _ :: _ => none

/-- The character that a one-letter escape spells. -/
def escapedChar? : Char → Option Char
  | '\x22' => some '\x22'
  | '\\' => some '\\'
  | '/' => some '/'
  | 'b' => some '\x08'
  | 'f' => some '\x0c'
  | 'n' => some '\n'
  | 'r' => some '\r'
  | 't' => some '\t'
  | _ => none

/-- How a character is written in a string. -/
def escapeChar (c : Char) : List Char :=
  if c = '\x22' then ['\\', '\x22']
  else if c = '\\' then ['\\', '\\']
  else if c = '\x08' then ['\\', 'b']
  else if c = '\x0c' then ['\\', 'f']
  else if c = '\n' then ['\\', 'n']
  else if c = '\r' then ['\\', 'r']
  else if c = '\t' then ['\\', 't']
  else if c.toNat < 0x20 then ['\\', 'u'] ++ Hex.fixed 4 c.toNat
  else [c]

/-! ## Writing -/

/-- The bare word of a truth value. -/
def boolWord (b : Bool) : List Char := if b then "true".toList else "false".toList

/-- What stands between the quotes of a string.  One without a text is written as a single half. -/
def stringBody : Option String → List Char
  | some text => text.toList.flatMap escapeChar
  | none => "\\ud800".toList

/-- **The text of a token.** -/
def Token.text : Token → List Char
  | .openObject => ['\x7b']
  | .closeObject => ['\x7d']
  | .openArray => ['[']
  | .closeArray => [']']
  | .comma => [',']
  | .colon => [':']
  | .null => "null".toList
  | .bool b => boolWord b
  | .number n => n.text
  | .string text => ['\x22'] ++ stringBody text ++ ['\x22']

/-- A string with a text is that text between quotes, with its escapes. -/
theorem Token.text_string (text : String) :
    (Token.string (some text)).text = ['\x22'] ++ text.toList.flatMap escapeChar ++ ['\x22'] := rfl

/-! ## Scanning -/

/-- The characters that may stand between tokens. -/
def isGap (c : Char) : Bool := c == ' ' || c == '\t' || c == '\n' || c == '\r'

/-- The characters of bare words. -/
def isWordChar (c : Char) : Bool := c.isAlphanum || c == '-' || c == '+' || c == '.'

/-- The token that a punctuation mark is. -/
def punctuation? : Char → Option Token
  | '\x7b' => some .openObject
  | '\x7d' => some .closeObject
  | '[' => some .openArray
  | ']' => some .closeArray
  | ',' => some .comma
  | ':' => some .colon
  | _ => none

/-- The token that a bare word is. -/
def ofWord? (word : List Char) : Option Token :=
  if word = "null".toList then some .null
  else if word = "true".toList then some (.bool true)
  else if word = "false".toList then some (.bool false)
  else (Number.ofText? word).map .number

/-- Where a scan stands within a token. -/
inductive Mode where
  | between
  /-- In a bare word, of which `read` holds what has come, backwards. -/
  | word (read : List Char)
  /-- In a string, of which `read` holds what has come, backwards. -/
  | string (read : List Piece)
  /-- Behind a backslash. -/
  | escape (read : List Piece)
  /-- In an escape by number that lacks `owed` digits and is worth `value` so far. -/
  | unit (read : List Piece) (owed value : Nat)

/-- How far a scan has come: the tokens found, backwards, and the one it is in. -/
structure Scan where
  tokens : List Token
  mode : Mode

namespace Scan

/-- One more token. -/
def found (scan : Scan) (token : Token) : Scan := ⟨token :: scan.tokens, .between⟩

/-- A character between tokens. -/
def begin? (scan : Scan) (c : Char) : Option Scan :=
  if isGap c then some { scan with mode := .between }
  else if c = '\x22' then some { scan with mode := .string [] }
  else if isWordChar c then some { scan with mode := .word [c] }
  else (punctuation? c).map scan.found

/-- The end of a bare word. -/
def endWord? (scan : Scan) (read : List Char) : Option Scan :=
  (ofWord? read.reverse).map scan.found

/-- A character inside a string. -/
def inString? (scan : Scan) (read : List Piece) (c : Char) : Option Scan :=
  if c = '\x22' then some (scan.found (.string ((joinPieces read.reverse).map String.ofList)))
  else if c = '\\' then some { scan with mode := .escape read }
  else if c.toNat < 0x20 then none
  else some { scan with mode := .string (.char c :: read) }

/-- A digit of an escape by number. -/
def inUnit? (scan : Scan) (read : List Piece) (owed value : Nat) (c : Char) : Option Scan :=
  (Hex.shiftIn? value c).map fun value =>
    if owed ≤ 1 then { scan with mode := .string (Piece.ofUnit value :: read) }
    else { scan with mode := .unit read (owed - 1) value }

/-- **One character further.** -/
def step (scan : Scan) (c : Char) : Option Scan :=
  match scan.mode with
  | .between => scan.begin? c
  | .word read =>
    if isWordChar c then some { scan with mode := .word (c :: read) }
    else (scan.endWord? read).bind fun ended => ended.begin? c
  | .string read => scan.inString? read c
  | .escape read =>
    if c = 'u' then some { scan with mode := .unit read 4 0 }
    else (escapedChar? c).map fun spelled => { scan with mode := .string (.char spelled :: read) }
  | .unit read owed value => scan.inUnit? read owed value c

/-- The tokens at the end of a text, which must not come in the middle of a string. -/
def finish? (scan : Scan) : Option (List Token) :=
  match scan.mode with
  | .between => some scan.tokens.reverse
  | .word read => (scan.endWord? read).map fun ended => ended.tokens.reverse
  | _ => none

/-- **The tokens of a text.** -/
def ofText? (text : List Char) : Option (List Token) :=
  (text.foldlM step ⟨[], .between⟩).bind finish?

end Scan

end ProofOfWork.Json
