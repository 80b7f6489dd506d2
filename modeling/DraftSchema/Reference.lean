import DraftSchema.Url.Parser

/-!
# `DraftSchema.Reference`: references from one schema to another

A reference is a text that is resolved against the location of the document it
stands in. It names a whole document, so the fragment of the result is dropped.
Only locations that can be fetched may be named.
-/

set_option autoImplicit false

namespace DraftSchema

/-- The schemes whose locations can be fetched. -/
def fetchableSchemes : List String := ["file", "http", "https"]

/-- The location can be fetched. -/
def Url.isFetchable (u : Url) : Bool := fetchableSchemes.contains u.scheme

namespace Reference

/-- What is wrong with a reference. -/
inductive Fault where
  /-- The reference is a value of another type. -/
  | notString
  | notUrl (error : Url.Error)
  | unsupportedScheme (scheme : String)
deriving DecidableEq, Repr

/-- The text of a fault. -/
def Fault.message : Fault → String
  | .notString => "$ref must be a string"
  | .notUrl error => error.message
  | .unsupportedScheme scheme => s!"unsupported scheme '{scheme}'"

/-- The location that a reference in the document at `base` names. -/
def resolve (base : Url) (reference : String) : Except Fault Url :=
  match base.join reference with
  | .error e => .error (.notUrl e)
  | .ok u =>
    if u.isFetchable then .ok u.withoutFragment else .error (.unsupportedScheme u.scheme)

/-- A resolved reference can be fetched and has no fragment. -/
theorem resolve_eq_ok {base u : Url} {reference : String} (h : resolve base reference = .ok u) :
    u.isFetchable ∧ u.withoutFragment = u := by
  unfold resolve at h
  split at h
  · simp at h
  · split at h
    · rename_i v _ hv
      injection h with h
      subst h
      exact ⟨hv, Url.withoutFragment_withoutFragment v⟩
    · simp at h

end Reference
end DraftSchema
