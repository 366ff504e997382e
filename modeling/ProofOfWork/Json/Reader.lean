import ProofOfWork.Json.Token
import ProofOfWork.Json.Value

/-!
# Json/Reader — documents out of tokens

The tokens of a document are consumed one by one.  What has been opened and not yet closed lies on a
stack of `Frame`s, so arrays and objects may be nested to any depth; what may come next is the
constructor of the `Expecting` state.  A document is one value with nothing behind it.
-/

namespace ProofOfWork.Json

/-- A container that is still open, with what it holds so far, backwards. -/
inductive Frame where
  | array (items : List Value)
  /-- An object that waits for the value of `key`. -/
  | object (members : List (Option String × Value)) (key : Option String)

/-- **What may come next**, inside the open containers `outer`, the innermost first. -/
inductive Expecting where
  | value (outer : List Frame)
  /-- The first item of an array, or its end. -/
  | firstItem (outer : List Frame)
  /-- The first key of an object, or its end. -/
  | firstKey (outer : List Frame)
  /-- A further key of an object. -/
  | key (members : List (Option String × Value)) (outer : List Frame)
  /-- The colon behind a key. -/
  | colon (members : List (Option String × Value)) (key : Option String) (outer : List Frame)
  /-- A comma or the end of an array. -/
  | moreItems (items : List Value) (outer : List Frame)
  /-- A comma or the end of an object. -/
  | moreMembers (members : List (Option String × Value)) (outer : List Frame)
  /-- Nothing: the document is complete. -/
  | nothing (document : Value)

namespace Expecting

/-- A value is complete. -/
def complete (v : Value) : List Frame → Expecting
  | [] => .nothing v
  | .array items :: outer => .moreItems (v :: items) outer
  | .object members name :: outer => .moreMembers ((name, v) :: members) outer

/-- The first token of a value. -/
def begin? (outer : List Frame) : Token → Option Expecting
  | .null => some (complete .null outer)
  | .bool b => some (complete (.bool b) outer)
  | .number n => some (complete (.number n) outer)
  | .string text => some (complete (.string text) outer)
  | .openArray => some (.firstItem outer)
  | .openObject => some (.firstKey outer)
  | _ => none

/-- **One token further.** -/
def step : Expecting → Token → Option Expecting
  | .value outer, token => begin? outer token
  | .firstItem outer, .closeArray => some (complete (.array []) outer)
  | .firstItem outer, token => begin? (.array [] :: outer) token
  | .firstKey outer, .closeObject => some (complete (.object []) outer)
  | .firstKey outer, .string name => some (.colon [] name outer)
  | .key members outer, .string name => some (.colon members name outer)
  | .colon members name outer, .colon => some (.value (.object members name :: outer))
  | .moreItems items outer, .comma => some (.value (.array items :: outer))
  | .moreItems items outer, .closeArray => some (complete (.array items.reverse) outer)
  | .moreMembers members outer, .comma => some (.key members outer)
  | .moreMembers members outer, .closeObject => some (complete (.object members.reverse) outer)
  | _, _ => none

/-- The document, where nothing is missing. -/
def document? : Expecting → Option Value
  | .nothing v => some v
  | _ => none

end Expecting

namespace Value

/-- The document that tokens make up. -/
def ofTokens? (tokens : List Token) : Option Value :=
  (tokens.foldlM Expecting.step (.value [])).bind Expecting.document?

/-- **The document that a text is.** -/
def read? (text : String) : Option Value :=
  (Scan.ofText? text.toList).bind ofTokens?

end Value

end ProofOfWork.Json
