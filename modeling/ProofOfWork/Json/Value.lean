import ProofOfWork.Json.Number

/-!
# Json/Value — JSON documents

A document is kept as it was written: numbers as literals, members in their order and with their
repetitions.  A string may spell half of a surrogate pair by an escape; it is then well-formed but
names no text, and is kept as `none`, as a value and as a key alike.

`Value.record?` picks the fields of a record out of a document: from an object, whose unknown members
do not matter and whose known ones must occur once each, or from an array that holds exactly the
fields in their order.
-/

namespace ProofOfWork.Json

/-- **A JSON document.** -/
inductive Value where
  | null
  | bool (b : Bool)
  | number (n : Number)
  | string (text : Option String)
  | array (items : List Value)
  | object (members : List (Option String × Value))

namespace Value

/-- A string that names a text. -/
def text (s : String) : Value := .string (some s)

/-- An integer. -/
def int (n : Int) : Value := .number (Number.ofInt n)

/-- A binary64 number; one that is not finite is written as null. -/
def float (x : Float) : Value :=
  match Number.ofFloat? x with
  | some n => .number n
  | none => .null

/-- An object with the given fields in their order. -/
def record (fields : List (String × Value)) : Value :=
  .object (fields.map fun (key, value) => (some key, value))

/-! ## Reading -/

/-- The text of a string. -/
def text? : Value → Option String
  | .string text => text
  | _ => none

/-- The integer of a number literal. -/
def int? : Value → Option Int
  | .number n => n.toInt?
  | _ => none

/-- The integer of a number literal, where it lies between zero and `bound`. -/
def natBelow? (bound : Nat) (v : Value) : Option Nat :=
  v.int?.bind fun n => if 0 ≤ n ∧ n < bound then some n.toNat else none

/-- The binary64 number of a number literal. -/
def float? : Value → Option Float
  | .number n => n.toFloat?
  | _ => none

/-- A truth value. -/
def bool? : Value → Option Bool
  | .bool b => some b
  | _ => none

/-- The value of the one member with a key. -/
def member? (members : List (Option String × Value)) (key : String) : Option Value :=
  match members.filter fun member => member.1 == some key with
  | [(_, value)] => some value
  | _ => none

/-- **The fields of a record**, in the order of `keys`. -/
def record? (keys : List String) : Value → Option (List Value)
  | .object members =>
    if members.all fun member => member.1.isSome then keys.mapM (member? members) else none
  | .array items => if items.length = keys.length then some items else none
  | _ => none

end Value

end ProofOfWork.Json
