import DraftSchema.Decimal
import DraftSchema.Json

/-!
# `DraftSchema.Json.Equality`: when two values are the same

Numbers are the same when their decimals have the same value, so `1` is `1.0`; a
literal that spells no decimal is the same as itself only. Arrays are compared
place by place, and objects without regard to the order of their members.
-/

set_option autoImplicit false

namespace DraftSchema.Json

/-- Two literals spell the same number. -/
def Number.sameValue (m n : Number) : Bool :=
  match Decimal.ofNumber? m, Decimal.ofNumber? n with
  | some a, some b => a.sameValue b
  | _, _ => m = n

mutual

/-- Two values are the same. -/
def sameValue : Json → Json → Bool
  | .null, .null => true
  | .bool a, .bool b => a = b
  | .number m, .number n => m.sameValue n
  | .string s, .string t => s = t
  | .array vs, .array ws => sameElements vs ws
  | .object ms, .object ns => ms.length = ns.length && membersIn ms ns
  | _, _ => false

/-- Two lists hold the same values in the same places. -/
def sameElements : List Json → List Json → Bool
  | [], [] => true
  | v :: vs, w :: ws => sameValue v w && sameElements vs ws
  | _, _ => false

/-- Every member of the first object has the same value in the second one. -/
def membersIn : List (String × Json) → Members → Bool
  | [], _ => true
  | (name, v) :: ms, ns =>
    (match ns.get? name with
      | some w => sameValue v w
      | none => false) && membersIn ms ns

end

end DraftSchema.Json
