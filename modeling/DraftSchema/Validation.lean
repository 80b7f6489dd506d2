import DraftSchema.Node
import DraftSchema.SchemaError

/-!
# `DraftSchema.Validation`: checking a value against a node

`Resolver.validate` lists what a value violates, in an order that is part of the
answer: declared properties before undeclared members, each in its own order.
References are looked up where they are met. A look-up may compile a schema, so
the walk is made in a monad.

A schema that refers to itself is followed again for every part of a value, and
parts get smaller. Between two parts at most `Resolver.limit` references are
followed; more are met only where references run in a circle.
-/

set_option autoImplicit false

namespace DraftSchema

/-- Why there is no node for a reference. -/
inductive Unresolved where
  /-- The registry does not exist any more. -/
  | registryGone
  | failed (error : SchemaError)
  /-- References run in a circle. -/
  | endless

/-- The text of the reason. -/
def Unresolved.message : Unresolved → String
  | .registryGone => "schema registry is no longer available"
  | .failed error => error.message
  | .endless => "references run in a circle"

/-- What a value violates in a schema that has parts. -/
inductive StructureFault where
  | notAnObject
  | missingProperty (name : String)
  | unexpectedProperty
  | notAnArray
  | tooManyItems (count bound : Nat)
  | tooFewItems (count bound : Nat)
  /-- The value is of none of the types that were described. -/
  | noAlternative (descriptions : List String)
  | unresolved (location : Url) (reason : Unresolved)

/-- The text of a fault. -/
def StructureFault.message : StructureFault → String
  | .notAnObject => "Invalid type: must be an object"
  | .missingProperty name => s!"Missing required property {name}"
  | .unexpectedProperty => "Unexpected property"
  | .notAnArray => "Invalid type: must be an array"
  | .tooManyItems count bound =>
    s!"Current array size of {count} is greater than allowed maximum array size of {bound}"
  | .tooFewItems count bound =>
    s!"Current array size of {count} is less than allowed minimum array size of {bound}"
  | .noAlternative descriptions =>
    let listed := String.intercalate ", " (descriptions.map fun d => "\"" ++ d ++ "\"")
    s!"Invalid type: must be one of: [{listed}]"
  | .unresolved location reason => s!"Unable to resolve schema {location}: {reason.message}"

/-- How references are resolved. -/
structure Resolver (m : Type → Type) where
  resolve : Url → m (Except Unresolved Node)
  /-- The most references that may be followed one after the other. -/
  limit : Nat

namespace Resolver

variable {m : Type → Type} [Monad m]

/-- The node that a reference stands for, with the number of references that may
still be followed. -/
def follow (r : Resolver m) (hops : Nat) (location : Url) :
    m (Except Unresolved (Node × { left : Nat // left < hops })) :=
  match hops with
  | 0 => pure (.error .endless)
  | hops + 1 => do
    match ← r.resolve location with
    | .ok node => return .ok (node, ⟨hops, Nat.lt_succ_self hops⟩)
    | .error e => return .error e

/-! ### Types -/

mutual

/-- The value is of a type that the node accepts. A reference that cannot be
resolved accepts every type. -/
def accepts (r : Resolver m) (hops : Nat) (node : Node) (value : Json) : m Bool :=
  match node with
  | .simple s => pure (s.type.accepts value)
  | .object _ _ => pure (value matches .object _)
  | .array _ _ _ => pure (value matches .array _)
  | .union members => anyAccepts r hops members value
  | .reference location => do
    match ← r.follow hops location with
    | .ok (target, ⟨left, _⟩) => accepts r left target value
    | .error _ => return true
termination_by (hops, sizeOf node)

/-- The value is of a type that one of the nodes accepts; those behind the first
one that does are not asked. -/
def anyAccepts (r : Resolver m) (hops : Nat) (members : List Node) (value : Json) : m Bool :=
  match members with
  | [] => pure false
  | node :: rest => do
    if ← accepts r hops node value then return true else anyAccepts r hops rest value
termination_by (hops, sizeOf members)

end

/-- The name of the types that a node accepts. -/
def describe (r : Resolver m) (hops : Nat) (node : Node) : m String :=
  match node with
  | .simple s => pure s.type.name
  | .object _ _ => pure "object"
  | .array _ _ _ => pure "array"
  | .union _ => pure "union"
  | .reference location => do
    match ← r.follow hops location with
    | .ok (target, ⟨left, _⟩) => describe r left target
    | .error _ => return "unresolved"
termination_by hops

/-- The names of the types that some nodes accept. -/
def describeAll (r : Resolver m) (hops : Nat) : List Node → m (List String)
  | [] => pure []
  | node :: rest => do
    let name ← r.describe hops node
    let names ← r.describeAll hops rest
    return name :: names

/-! ### Violations -/

/-- Each text once, in the order of first occurrence. -/
def distinct (texts : List String) : List String :=
  texts.foldl (fun seen t => if t ∈ seen then seen else seen ++ [t]) []

/-- The first of the shortest lists, or no violations if there is no list. -/
def fewest : List (List Violation) → List Violation
  | [] => []
  | vs :: rest => rest.foldl (fun best vs => if vs.length < best.length then vs else best) vs

/-- The violation of the whole value that a fault is. -/
def violation (fault : StructureFault) : Violation := .atRoot fault.message

/-- The violations by the number of an array's elements. -/
def sizeViolations (minItems maxItems count : Nat) : List Violation :=
  (if 0 < maxItems ∧ maxItems < count then [violation (.tooManyItems count maxItems)] else [])
    ++ (if 0 < minItems ∧ count < minItems then [violation (.tooFewItems count minItems)] else [])

mutual

/-- What a value violates. -/
def validate (r : Resolver m) (hops : Nat) (node : Node) (value : Json) : m (List Violation) :=
  match node, value with
  | .simple s, value => pure (s.violations value)
  | .object properties additional, .object members => do
    let declared ← declaredViolations r properties members
    let undeclared ← additionalViolations r properties additional members
    return declared ++ undeclared
  | .object _ _, _ => pure [violation .notAnObject]
  | .array items minItems maxItems, .array elements => do
    let found ← elementViolations r items 0 elements
    return sizeViolations minItems maxItems elements.length ++ found
  | .array _ _ _, _ => pure [violation .notAnArray]
  | .union members, value => do
    -- Only where no member accepts the type are the types named.
    if ← r.anyAccepts hops members value then
      return fewest (← alternatives r hops members value)
    else
      return [violation (.noAlternative (distinct (← r.describeAll hops members)))]
  | .reference location, value => do
    match ← r.follow hops location with
    | .ok (target, ⟨left, _⟩) => validate r left target value
    | .error e => return [violation (.unresolved location e)]
termination_by (sizeOf value, hops, sizeOf node)

/-- What the declared members of an object violate. -/
def declaredViolations (r : Resolver m) (properties : List (Property Node))
    (members : Json.Members) : m (List Violation) :=
  match properties with
  | [] => pure []
  | p :: rest => do
    let here ← propertyViolations r p members
    let others ← declaredViolations r rest members
    return here ++ others
termination_by (sizeOf members, 1, sizeOf properties)

/-- What the member that a property declares violates. -/
def propertyViolations (r : Resolver m) (p : Property Node) (members : Json.Members) :
    m (List Violation) :=
  match _h : members.get? p.name with
  | some value => do
    -- The member is smaller than the object, so references are counted anew.
    let found ← validate r r.limit p.schema value
    return found.map (·.within p.name)
  | none =>
    pure (if p.required then [⟨p.name, (StructureFault.missingProperty p.name).message⟩] else [])
termination_by (sizeOf members, 0, 0)
decreasing_by
  have := Json.Members.sizeOf_lt_of_get?_eq_some _h
  decreasing_tactic

/-- What the undeclared members of an object violate. -/
def additionalViolations (r : Resolver m) (properties : List (Property Node))
    (additional : Additional Node) (members : List (String × Json)) : m (List Violation) :=
  match members with
  | [] => pure []
  | (name, value) :: rest => do
    let here ←
      if properties.any (·.name = name) then pure []
      else undeclaredViolations r additional name value
    let others ← additionalViolations r properties additional rest
    return here ++ others
termination_by (sizeOf members, 0, 0)

/-- What one undeclared member of an object violates. -/
def undeclaredViolations (r : Resolver m) (additional : Additional Node) (name : String)
    (value : Json) : m (List Violation) :=
  match additional with
  | .allowed => pure []
  | .forbidden => pure [⟨name, StructureFault.unexpectedProperty.message⟩]
  | .schema node => do
    let found ← validate r r.limit node value
    return found.map (·.within name)
termination_by (sizeOf value, r.limit + 1, 0)

/-- What the elements of an array violate; the first one has the index `index`. -/
def elementViolations (r : Resolver m) (items : Node) (index : Nat) (elements : List Json) :
    m (List Violation) :=
  match elements with
  | [] => pure []
  | value :: rest => do
    let here ← validate r r.limit items value
    let others ← elementViolations r items (index + 1) rest
    return here.map (·.within s!"[{index}]") ++ others
termination_by (sizeOf elements, 0, 0)

/-- What a value violates in each of some schemas. -/
def alternatives (r : Resolver m) (hops : Nat) (members : List Node) (value : Json) :
    m (List (List Violation)) :=
  match members with
  | [] => pure []
  | node :: rest => do
    let here ← validate r hops node value
    let others ← alternatives r hops rest value
    return here :: others
termination_by (sizeOf value, hops, sizeOf members)

end

end Resolver
end DraftSchema
