import DraftSchema.Proofs.Compilation.Batch
import DraftSchema.Proofs.Validation.Answers
import DraftSchema.Session

/-!
# `DraftSchema.Proofs.Session.Checks`: checks in a session

A session compiles a schema when a reference leads to one that is not registered. In a
session with a sound registry a check against a registered node never comes to that.
The theorems:

* `run_get?` and `run_compile`: what a session does when it is asked for a node.
* `run_validate`, `run_accepts` and `run_describe`: a check gives the answer of the
  registry and leaves the session as it was, whatever the source would answer.
* `run_validate_bounded`, `run_accepts_bounded` and `run_describe_bounded`: so does a
  check under any bound on the number of references from the number of nodes upward.
-/

set_option autoImplicit false

namespace DraftSchema.Session

variable {s : Session} {n : Node}

/-! ### Compiling -/

/-- A session takes over the registry and the log of a compilation. -/
theorem run_compile (source : Source) (location : Url) (s : Session) :
    (compile source location).run s =
      ((Compilation.compile source s.registry location).result,
        ⟨(Compilation.compile source s.registry location).registry,
          s.fetched ++ (Compilation.compile source s.registry location).fetched⟩) := rfl

/-- Asking for a node compiles its location. -/
theorem run_get? (source : Source) (location : Url) (s : Session) :
    (get? source location).run s = (compile source location).run s := by
  rw [run_compile, ← Compilation.get_eq_compile]
  rfl

/-- Nothing is done for a registered location. -/
theorem run_get?_of_eq_some {location : Url} (source : Source)
    (h : s.registry.get? location = some n) :
    (get? source location).run s = (.ok n, s) := by
  rw [run_get?, run_compile, Compilation.compile_of_get? h, List.append_nil]

/-! ### Checking -/

/-- A session is a server of its registry, with any bound on the number of references
from the number of nodes upward. -/
def server (source : Source) (s : Session) (limit : Nat) (h : s.registry.size ≤ limit) :
    s.registry.Server .none where
  m := StateM Session
  monad := inferInstance
  resolver := { resolver source s.registry with limit }
  returns x a := x.run s = (a, s)
  returns_pure _ := rfl
  returns_bind hx hf := by
    rw [StateT.run_bind, hx]
    exact hf
  resolves h := by
    -- What is registered is neither compiled nor logged.
    show StateT.run (_ >>= _) s = _
    rw [StateT.run_bind, run_get?_of_eq_some source h]
    rfl
  refuses _ h := by cases h
  enough := h

/-- All references of a session's resolver may be followed. -/
theorem size_le_limit (source : Source) (r : Registry) : r.size ≤ (resolver source r).limit := by
  show r.size ≤ r.size + source.size + 1
  omega

section

variable (hsound : s.registry.Sound) (hn : n.ClosedIn s.registry) (source : Source)

include hsound hn

/-- Under any bound from the number of nodes upward a check gives the answer of the
registry and leaves the session as it was. -/
theorem run_validate_bounded (v : Json) {limit : Nat} (h : s.registry.size ≤ limit) :
    ({ resolver source s.registry with limit : Resolver _ }.validate limit n v).run s
      = (s.registry.violations n v, s) :=
  Registry.returns_validate hsound hn v (server source s limit h)
    ((Registry.height_le_size hsound.acyclic n).trans h)

theorem run_accepts_bounded (v : Json) {limit : Nat} (h : s.registry.size ≤ limit) :
    ({ resolver source s.registry with limit : Resolver _ }.accepts limit n v).run s
      = (s.registry.accepts n v, s) :=
  Registry.returns_accepts hsound hn v (server source s limit h)
    ((Registry.height_le_size hsound.acyclic n).trans h)

theorem run_describe_bounded {limit : Nat} (h : s.registry.size ≤ limit) :
    ({ resolver source s.registry with limit : Resolver _ }.describe limit n).run s
      = (s.registry.describe n, s) :=
  Registry.returns_describe hsound hn (server source s limit h)
    ((Registry.height_le_size hsound.acyclic n).trans h)

/-- A check gives the answer of the registry and leaves the session as it was. -/
theorem run_validate (v : Json) :
    (validate source n v).run s = (s.registry.violations n v, s) :=
  run_validate_bounded hsound hn source v (size_le_limit source s.registry)

theorem run_accepts (v : Json) :
    (accepts source n v).run s = (s.registry.accepts n v, s) :=
  run_accepts_bounded hsound hn source v (size_le_limit source s.registry)

theorem run_describe :
    (describe source n).run s = (s.registry.describe n, s) :=
  run_describe_bounded hsound hn source (size_le_limit source s.registry)

end

end DraftSchema.Session
