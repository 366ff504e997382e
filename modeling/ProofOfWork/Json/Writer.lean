import ProofOfWork.Json.Token
import ProofOfWork.Json.Value

/-!
# Json/Writer — documents as text

`Value.compact` writes a document without any blank, as the texts of its tokens one after the other.
`Value.pretty` puts every item and every member on a line of its own, two spaces further in than the
container around it; an empty container stays on one line.
-/

namespace ProofOfWork.Json

namespace Value

mutual

/-- The tokens of a document. -/
def tokens : Value → List Token
  | .null => [.null]
  | .bool b => [.bool b]
  | .number n => [.number n]
  | .string text => [.string text]
  | .array [] => [.openArray, .closeArray]
  | .array (v :: rest) => .openArray :: (v.tokens ++ itemTokens rest ++ [.closeArray])
  | .object [] => [.openObject, .closeObject]
  | .object ((key, v) :: rest) =>
    .openObject :: .string key :: .colon :: (v.tokens ++ memberTokens rest ++ [.closeObject])

/-- The tokens of the items behind the first one. -/
def itemTokens : List Value → List Token
  | [] => []
  | v :: rest => .comma :: (v.tokens ++ itemTokens rest)

/-- The tokens of the members behind the first one. -/
def memberTokens : List (Option String × Value) → List Token
  | [] => []
  | (key, v) :: rest => .comma :: .string key :: .colon :: (v.tokens ++ memberTokens rest)

end

/-- **The document without blanks.** -/
def compact (v : Value) : String := String.ofList (v.tokens.flatMap Token.text)

/-- The start of a line `depth` containers deep. -/
def newLine (depth : Nat) : List Char := '\n' :: List.replicate (2 * depth) ' '

/-- A key and the colon behind it. -/
def keyText (key : Option String) : List Char := (Token.string key).text ++ [':', ' ']

mutual

/-- The lines of a document `depth` containers deep. -/
def layout (depth : Nat) : Value → List Char
  | .null => Token.null.text
  | .bool b => (Token.bool b).text
  | .number n => (Token.number n).text
  | .string text => (Token.string text).text
  | .array [] => ['[', ']']
  | .array (v :: rest) =>
    ['['] ++ newLine (depth + 1) ++ v.layout (depth + 1) ++ itemLayout (depth + 1) rest ++
      newLine depth ++ [']']
  | .object [] => ['\x7b', '\x7d']
  | .object ((key, v) :: rest) =>
    ['\x7b'] ++ newLine (depth + 1) ++ keyText key ++ v.layout (depth + 1) ++
      memberLayout (depth + 1) rest ++ newLine depth ++ ['\x7d']

/-- The lines of the items behind the first one. -/
def itemLayout (depth : Nat) : List Value → List Char
  | [] => []
  | v :: rest => [','] ++ newLine depth ++ v.layout depth ++ itemLayout depth rest

/-- The lines of the members behind the first one. -/
def memberLayout (depth : Nat) : List (Option String × Value) → List Char
  | [] => []
  | (key, v) :: rest =>
    [','] ++ newLine depth ++ keyText key ++ v.layout depth ++ memberLayout depth rest

end

/-- **The document on lines.** -/
def pretty (v : Value) : String := String.ofList (v.layout 0)

end Value

end ProofOfWork.Json
