import DraftSchema.Json.Token

/-!
# `DraftSchema.Json.Reader`: from a text to a value

The tokens of a text drive a machine with a stack of open brackets, one step a
token, which builds the value as it was written (`Written`): names may repeat
and strings may hold half of a surrogate pair. `Written.value?` turns that into
a `Json` value. A repeated name keeps its first place and takes its last value.
An object whose first name is `numberName` is a number in another form, or
nothing.

`Json.parse?` reads a whole text with at most 127 brackets open at a time.
-/

set_option autoImplicit false

namespace DraftSchema.Json

/-- A value as it was written. -/
inductive Written where
  | null
  | bool (value : Bool)
  | number (value : Number)
  | string (units : List TextUnit)
  | array (elements : List Written)
  | object (members : List (List TextUnit × Written))
deriving Inhabited

/-- The name by which an object stands for a number. -/
def numberName : String := "$serde_json::private::Number"

namespace Written

/-- The first name of an object is the one by which it stands for a number. -/
def standsForNumber : List (List TextUnit × Written) → Bool
  | [] => false
  | (units, _) :: _ => TextUnit.decode? units = some numberName.toList

/-- The number that an object stands for: a literal in a string, which must be
its only member. -/
def number? : List (List TextUnit × Written) → Option Number
  | [(_, .string units)] => do Number.ofChars? (← TextUnit.decode? units)
  | _ => none

mutual

/-- The value that a written value stands for: strings are decoded and a
repeated name takes its last value. -/
def value? : Written → Option Json
  | .null => some .null
  | .bool b => some (.bool b)
  | .number n => some (.number n)
  | .string units => (TextUnit.decode? units).map fun cs => .string (String.ofList cs)
  | .array elements => (elementValues? elements).map .array
  | .object members =>
    match standsForNumber members with
    | true => (number? members).map .number
    | false => (memberValues? members []).map .object

/-- The values of an array's elements. -/
def elementValues? : List Written → Option (List Json)
  | [] => some []
  | w :: rest => do
    let v ← w.value?
    let vs ← elementValues? rest
    return v :: vs

/-- The values of an object's members, set one after the other in `before`. -/
def memberValues? : List (List TextUnit × Written) → Members → Option Members
  | [], before => some before
  | (units, w) :: rest, before => do
    let name ← TextUnit.decode? units
    let v ← w.value?
    memberValues? rest (before.insert (String.ofList name) v)

end

end Written

namespace Reader

/-- An open bracket with what was read behind it, last first. -/
inductive Frame where
  | array (elements : List Written)
  | object (members : List (List TextUnit × Written)) (name : List TextUnit)

/-- What the machine waits for. -/
inductive State where
  /-- A value. -/
  | value (stack : List Frame)
  /-- The first element of an array, or its end. -/
  | element (stack : List Frame)
  /-- The first name of an object, or its end. -/
  | member (stack : List Frame)
  /-- A further name of an object. -/
  | name (members : List (List TextUnit × Written)) (stack : List Frame)
  /-- The colon behind a name. -/
  | colon (members : List (List TextUnit × Written)) (name : List TextUnit) (stack : List Frame)
  /-- The comma behind an element, or the end of the array. -/
  | arrayNext (elements : List Written) (stack : List Frame)
  /-- The comma behind a member, or the end of the object. -/
  | objectNext (members : List (List TextUnit × Written)) (stack : List Frame)
  /-- Nothing more: the whole text was read. -/
  | done (value : Written)

/-- The state after a value is complete. -/
def State.complete (v : Written) : List Frame → State
  | [] => .done v
  | .array elements :: stack => .arrayNext (v :: elements) stack
  | .object members key :: stack => .objectNext ((key, v) :: members) stack

/-- Opens a bracket, which must leave no more than `limit` open. -/
def State.opened? (limit : Option Nat) (stack : List Frame) (next : State) : Option State :=
  match limit with
  | none => some next
  | some n => if stack.length < n then some next else none

/-- Takes the first token of a value. -/
def State.begin? (limit : Option Nat) (stack : List Frame) : Token → Option State
  | .null => some (.complete .null stack)
  | .bool b => some (.complete (.bool b) stack)
  | .number n => some (.complete (.number n) stack)
  | .string units => some (.complete (.string units) stack)
  | .openArray => State.opened? limit stack (.element stack)
  | .openObject => State.opened? limit stack (.member stack)
  | .closeArray | .closeObject | .comma | .colon => none

/-- Takes one token. -/
def State.step? (limit : Option Nat) : State → Token → Option State
  | .value stack, t => State.begin? limit stack t
  | .element stack, .closeArray => some (.complete (.array []) stack)
  | .element stack, t => State.begin? limit (.array [] :: stack) t
  | .member stack, .closeObject => some (.complete (.object []) stack)
  | .member stack, .string units => some (.colon [] units stack)
  | .member _, _ => none
  | .name members stack, .string units => some (.colon members units stack)
  | .name _ _, _ => none
  | .colon members key stack, .colon => some (.value (.object members key :: stack))
  | .colon _ _ _, _ => none
  | .arrayNext elements stack, .comma => some (.value (.array elements :: stack))
  | .arrayNext elements stack, .closeArray =>
    some (.complete (.array elements.reverse) stack)
  | .arrayNext _ _, _ => none
  | .objectNext members stack, .comma => some (.name members stack)
  | .objectNext members stack, .closeObject =>
    some (.complete (.object members.reverse) stack)
  | .objectNext _ _, _ => none
  | .done _, _ => none

/-- The value that a whole run of tokens spells. -/
def run? (limit : Option Nat) (tokens : List Token) : Option Written :=
  match tokens.foldlM (State.step? limit) (.value []) with
  | some (.done v) => some v
  | _ => none

end Reader

/-- Reads a text as it was written, with no limit on open brackets. -/
def Written.parse? (text : String) : Option Written := do
  Reader.run? none (← Token.scan text.toList)

/-- The most brackets that may be open at a time in a text. -/
def nestingLimit : Nat := 127

/-- Reads a text that holds one value. -/
def parse? (text : String) : Option Json := do
  (← Reader.run? (some nestingLimit) (← Token.scan text.toList)).value?

end DraftSchema.Json
