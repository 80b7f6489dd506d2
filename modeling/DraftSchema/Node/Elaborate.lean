import DraftSchema.Node
import DraftSchema.SchemaError

/-!
# `DraftSchema.Node.Elaborate`: from a schema's value to a node

`Node.elaborate` reads a value as a schema. Next to the node, or to the first
defect, it tells which locations were referred to on the way, in the order in
which they were met: what is wrong with one of them comes before a defect that
was met later.
-/

set_option autoImplicit false

namespace DraftSchema

/-- A result with the references that were met on the way to it. -/
structure Elaboration (α : Type) where
  references : List Url
  result : Except Defect α

namespace Elaboration

variable {α β : Type}

/-- A result without references. -/
def ofExcept (result : Except Defect α) : Elaboration α := ⟨[], result⟩

/-- Stops at a defect. -/
def fail (d : Defect) : Elaboration α := ofExcept (.error d)

/-- Goes on with a result, if there is one. -/
protected def bind (x : Elaboration α) (f : α → Elaboration β) : Elaboration β :=
  match x.result with
  | .error d => ⟨x.references, .error d⟩
  | .ok a => ⟨x.references ++ (f a).references, (f a).result⟩

instance : Monad Elaboration where
  pure a := ofExcept (.ok a)
  bind := Elaboration.bind

@[simp] theorem references_ofExcept (result : Except Defect α) :
    (ofExcept result).references = [] := rfl

@[simp] theorem result_ofExcept (result : Except Defect α) : (ofExcept result).result = result :=
  rfl

@[simp] theorem pure_eq (a : α) : (pure a : Elaboration α) = ofExcept (.ok a) := rfl

@[simp] theorem bind_ofExcept_ok (a : α) (f : α → Elaboration β) :
    ofExcept (.ok a) >>= f = f a := by
  simp [Bind.bind, Elaboration.bind, ofExcept]

@[simp] theorem bind_ofExcept_error (d : Defect) (f : α → Elaboration β) :
    ofExcept (.error d) >>= f = ofExcept (.error d) := rfl

/-- Nothing is gone on with after a defect. -/
theorem bind_error {x : Elaboration α} {d : Defect} (h : x.result = .error d)
    (f : α → Elaboration β) : x >>= f = ⟨x.references, .error d⟩ := by
  simp [Bind.bind, Elaboration.bind, h]

/-- References add up. -/
theorem bind_ok {x : Elaboration α} {a : α} (h : x.result = .ok a) (f : α → Elaboration β) :
    x >>= f = ⟨x.references ++ (f a).references, (f a).result⟩ := by
  simp [Bind.bind, Elaboration.bind, h]

end Elaboration

namespace Node

/-! ### Keywords -/

/-- A keyword whose value is a string. -/
def stringKeyword? (members : Json.Members) (name : String) : Except Defect (Option String) :=
  match members.get? name with
  | none => .ok none
  | some (.string s) => .ok (some s)
  | some _ => .error (.keyword name "a string")

/-- A keyword whose value is a boolean. -/
def boolKeyword? (members : Json.Members) (name : String) : Except Defect (Option Bool) :=
  match members.get? name with
  | none => .ok none
  | some (.bool b) => .ok (some b)
  | some _ => .error (.keyword name "a boolean")

/-- The number of counts: a count is below it. -/
def countLimit : Nat := Nat.pow 2 64

/-- The count that a value is. -/
def count? : Json → Option Nat
  | .number n => n.toNat?.filter (· < countLimit)
  | _ => none

/-- A keyword whose value is a count. -/
def countKeyword? (members : Json.Members) (name : String) : Except Defect (Option Nat) :=
  match members.get? name with
  | none => .ok none
  | some v =>
    match count? v with
    | some n => .ok (some n)
    | none => .error (.keyword name "a non-negative integer")

/-- A keyword whose value is a decimal. -/
def decimalKeyword? (members : Json.Members) (name : String) : Except Defect (Option Decimal) :=
  match members.get? name with
  | none => .ok none
  | some (.number n) =>
    match Decimal.ofNumber? n with
    | some d => .ok (some d)
    | none => .error (.conflict (.boundOutOfRange name n))
  | some _ => .error (.keyword name "a number")

/-- A keyword whose value is a list of values. -/
def listKeyword? (members : Json.Members) (name : String) : Except Defect (Option (List Json)) :=
  match members.get? name with
  | none => .ok none
  | some (.array values) => .ok (some values)
  | some _ => .error (.keyword name "an array")

/-- The keyword that holds a pattern. -/
def patternKeyword? (members : Json.Members) : Except Defect (Option Pattern) := do
  match ← stringKeyword? members "pattern" with
  | none => .ok none
  | some source =>
    match Pattern.ofSource? source with
    | some p => .ok (some p)
    | none => .error (.pattern source)

/-- The keywords that put conditions on a simple type. -/
def simpleKeywords? (members : Json.Members) : Except Defect SimpleSchema.Keywords := do
  let pattern ← patternKeyword? members
  let format ← stringKeyword? members "format"
  let minLength ← countKeyword? members "minLength"
  let maxLength ← countKeyword? members "maxLength"
  let minimum ← decimalKeyword? members "minimum"
  let maximum ← decimalKeyword? members "maximum"
  let exclusiveMinimum ← boolKeyword? members "exclusiveMinimum"
  let exclusiveMaximum ← boolKeyword? members "exclusiveMaximum"
  let enumeration ← listKeyword? members "enumeration"
  return { pattern, format, minLength, maxLength, minimum, maximum,
           exclusiveMinimum, exclusiveMaximum, enumeration }

/-! ### Types -/

/-- The simple type with a name. -/
def simpleType? (name : String) : Except Defect SimpleType :=
  match SimpleType.ofName? name with
  | some t => .ok t
  | none => .error (.unknownType name)

/-- The node of a schema that names a simple type. -/
def simple? (name : String) (members : Json.Members) : Except Defect Node := do
  let type ← simpleType? name
  let keywords ← simpleKeywords? members
  match SimpleSchema.ofKeywords? type keywords with
  | .ok s => return .simple s
  | .error c => .error (.conflict c)

/-- The node of a type that is only named. -/
def named? (name : String) : Except Defect Node :=
  match name with
  | "object" => .ok anyObject
  | "array" => .ok anyArray
  | _ => (simpleType? name).map fun t => .simple (.ofType t)

/-- The node of a schema that is a reference. -/
def elaborateReference (base : Url) : Json → Elaboration Node
  | .string text =>
    match Reference.resolve base text with
    | .ok location => ⟨[location], .ok (.reference location)⟩
    | .error fault => .fail (.reference text fault)
  | v => .fail (.reference v.compact .notString)

/-- Whether a declared property is required. -/
def required? : Json → Except Defect Bool
  | .object members => (boolKeyword? members "required").map (·.getD false)
  | _ => .ok false

mutual

/-- The node of a schema in the document at `base`. A schema that is a reference
is nothing else, and a schema without a type is that of every value. -/
def elaborate (base : Url) (raw : Json) : Elaboration Node :=
  match raw with
  | .object members =>
    match Json.Members.get? members "$ref" with
    -- The keywords beside a reference are not looked at.
    | some target => elaborateReference base target
    | none =>
      match _h : Json.Members.get? members "type" with
      | none => pure any
      | some (.string "object") => elaborateObject base members
      | some (.string "array") => elaborateArray base members
      | some (.string name) => .ofExcept (simple? name members)
      -- Nor are those beside a list of types.
      | some (.array entries) => .union <$> elaborateEntries base entries
      | some _ => .fail (.keyword "type" "a string or an array")
  | _ => .fail .notAnObject
termination_by (sizeOf raw, 0)
decreasing_by
  · decreasing_tactic
  · decreasing_tactic
  · have := Json.Members.sizeOf_lt_of_get?_eq_some _h
    simp only [Json.array.sizeOf_spec] at this
    decreasing_tactic

/-- The nodes of the members of a union. -/
def elaborateEntries (base : Url) (entries : List Json) : Elaboration (List Node) :=
  match entries with
  | [] => pure []
  | entry :: rest => do
    let node ← elaborateEntry base entry
    let nodes ← elaborateEntries base rest
    return node :: nodes
termination_by (sizeOf entries, 0)

/-- The node of a member of a union: the name of a type or a schema. -/
def elaborateEntry (base : Url) (entry : Json) : Elaboration Node :=
  match entry with
  | .string name => .ofExcept (named? name)
  | .object members => elaborate base (.object members)
  | _ => .fail (.keyword "type" "an array of type names or schemas")
termination_by (sizeOf entry, 1)

/-- The node of an object. Undeclared members are read before declared ones. -/
def elaborateObject (base : Url) (members : Json.Members) : Elaboration Node := do
  let additional ← elaborateAdditional base members
  let properties ← elaborateDeclared base members
  return .object properties additional
termination_by (sizeOf members, 2)

/-- What holds for the undeclared members of an object. -/
def elaborateAdditional (base : Url) (members : Json.Members) :
    Elaboration (Additional Node) :=
  match _h : members.get? "additionalProperties" with
  | none | some (.bool true) => pure .allowed
  | some (.bool false) => pure .forbidden
  | some (.object nested) => .schema <$> elaborate base (.object nested)
  | some _ => .fail (.keyword "additionalProperties" "a boolean or a schema")
termination_by (sizeOf members, 1)
decreasing_by
  have := Json.Members.sizeOf_lt_of_get?_eq_some _h
  simp only [Json.object.sizeOf_spec] at this
  decreasing_tactic

/-- The declared properties of an object. -/
def elaborateDeclared (base : Url) (members : Json.Members) :
    Elaboration (List (Property Node)) :=
  match _h : members.get? "properties" with
  | none => pure []
  | some (.object entries) => elaborateProperties base entries
  | some _ => .fail (.keyword "properties" "an object")
termination_by (sizeOf members, 1)
decreasing_by
  have := Json.Members.sizeOf_lt_of_get?_eq_some _h
  simp only [Json.object.sizeOf_spec] at this
  decreasing_tactic

/-- The properties that are declared one after the other. -/
def elaborateProperties (base : Url) (entries : List (String × Json)) :
    Elaboration (List (Property Node)) :=
  match entries with
  | [] => pure []
  | (name, raw) :: rest => do
    -- Whether a property is required is its object's matter, and so it is read first.
    let required ← .ofExcept (required? raw)
    let schema ← elaborate base raw
    let properties ← elaborateProperties base rest
    return ⟨name, required, schema⟩ :: properties
termination_by (sizeOf entries, 0)

/-- The node of an array. -/
def elaborateArray (base : Url) (members : Json.Members) : Elaboration Node := do
  let items ← elaborateItems base members
  let minItems ← .ofExcept (countKeyword? members "minItems")
  let maxItems ← .ofExcept (countKeyword? members "maxItems")
  return .array items (minItems.getD 0) (maxItems.getD 0)
termination_by (sizeOf members, 2)

/-- The schema of the elements of an array. -/
def elaborateItems (base : Url) (members : Json.Members) : Elaboration Node :=
  match _h : members.get? "items" with
  | none => pure any
  | some (.object nested) => elaborate base (.object nested)
  | some _ => .fail (.keyword "items" "a schema object")
termination_by (sizeOf members, 1)
decreasing_by
  have := Json.Members.sizeOf_lt_of_get?_eq_some _h
  simp only [Json.object.sizeOf_spec] at this
  decreasing_tactic

end

end Node
end DraftSchema
