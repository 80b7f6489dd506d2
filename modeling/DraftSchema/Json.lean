import DraftSchema.Json.Number

/-!
# `DraftSchema.Json`: JSON values

A JSON value keeps the order of the members of its objects, because error lists
follow that order. Look-ups take the first member of a name; values that come
from a text have every name once (`DraftSchema.Json.Reader`).
-/

set_option autoImplicit false

namespace DraftSchema

/-- A JSON value. -/
inductive Json where
  | null
  | bool (value : Bool)
  | number (value : Json.Number)
  | string (value : String)
  | array (elements : List Json)
  | object (members : List (String × Json))
deriving Inhabited

namespace Json

/-- The members of an object. -/
abbrev Members := List (String × Json)

/-- The value of the member called `name`. -/
def Members.get? (members : Members) (name : String) : Option Json :=
  members.lookup name

/-- The first member has the value of its name, and the others those of theirs. -/
theorem Members.get?_cons (first : String) (value : Json) (rest : Members) (name : String) :
    Members.get? ((first, value) :: rest) name
      = if name = first then some value else rest.get? name := by
  by_cases h : name = first
  · simp [get?, h]
  · rw [get?, List.lookup_cons, beq_false_of_ne h, if_neg h]
    rfl

/-- The member that a name is looked up to is one of the members. -/
theorem Members.mem_of_get? {members : Members} {name : String} {value : Json}
    (h : members.get? name = some value) : (name, value) ∈ members := by
  obtain ⟨front, rest, rfl, -⟩ := List.lookup_eq_some_iff.mp h
  simp

/-- The object has a member called `name`. -/
def Members.has (members : Members) (name : String) : Bool :=
  (members.get? name).isSome

/-- Sets the member called `name`: in place where there is one, else at the
end. -/
def Members.insert (members : Members) (name : String) (value : Json) : Members :=
  match members with
  | [] => [(name, value)]
  | (n, v) :: rest =>
    if n = name then (n, value) :: rest else (n, v) :: Members.insert rest name value

/-- Reading a member gives a value that is smaller than the members. -/
theorem Members.sizeOf_lt_of_get?_eq_some {members : Members} {name : String} {value : Json}
    (h : members.get? name = some value) : sizeOf value < sizeOf members := by
  induction members with
  | nil => simp [get?] at h
  | cons m rest ih =>
    obtain ⟨n, v⟩ := m
    simp only [get?, List.lookup_cons] at h ih
    split at h
    · simp only [Option.some.injEq] at h
      subst h
      simp
      omega
    · have := ih h
      simp
      omega

/-- The value of a member is smaller than the members. -/
theorem Members.sizeOf_lt_of_mem {members : Members} {name : String} {value : Json}
    (h : (name, value) ∈ members) : sizeOf value < sizeOf members := by
  have hentry := List.sizeOf_lt_of_mem h
  simp only [Prod.mk.sizeOf_spec] at hentry
  omega

end Json
end DraftSchema
