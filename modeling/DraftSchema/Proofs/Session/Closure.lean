import DraftSchema.Proofs.Session.Runs

/-!
# `DraftSchema.Proofs.Session.Closure`: registered schemas are complete

All that a registered schema refers to is registered as well, after every run of a
session that registers nothing by hand. A check against a registered schema therefore
asks the source for nothing. The theorems:

* `violations_resolved`: in a sound registry no violation tells of a reference that
  could not be resolved.
* `registered_schemas_complete`: the property of all runs.
-/

set_option autoImplicit false

namespace DraftSchema

/-! ### Messages -/

/-- The violation tells that a reference could not be resolved. -/
def Violation.TellsUnresolved (x : Violation) : Prop :=
  ∃ location reason, x.message = (StructureFault.unresolved location reason).message

/-- None of the violations tells that a reference could not be resolved. -/
def AllResolved (vs : List Violation) : Prop := ∀ x ∈ vs, ¬ x.TellsUnresolved

/-- A text is written as it is. -/
@[simp] theorem toString_string (s : String) : toString s = s := rfl

/-- Three letters tell messages about references from all others. -/
theorem take_message_unresolved (location : Url) (reason : Unresolved) :
    (StructureFault.unresolved location reason).message.toList.take 3 = ['U', 'n', 'a'] := by
  unfold StructureFault.message
  simp

theorem Violation.not_tellsUnresolved {x : Violation}
    (h : x.message.toList.take 3 ≠ ['U', 'n', 'a']) : ¬ x.TellsUnresolved := by
  rintro ⟨location, reason, hmessage⟩
  rw [hmessage] at h
  exact h (take_message_unresolved location reason)

/-- Simple schemas have no references. -/
theorem SimpleSchema.violations_resolved (schema : SimpleSchema) (v : Json) :
    AllResolved (schema.violations v) := by
  intro x h
  apply Violation.not_tellsUnresolved
  unfold SimpleSchema.violations at h
  split at h
  · obtain ⟨fault, -, rfl⟩ := List.mem_map.mp h
    simp only [Violation.atRoot]
    unfold SimpleSchema.Fault.message
    split <;> simp
  · rw [List.mem_singleton.mp h]
    simp [Violation.atRoot]

/-- Other faults of schemas with parts are not about references. -/
theorem StructureFault.not_tellsUnresolved {fault : StructureFault} {place : String}
    (h : ∀ location reason, fault ≠ .unresolved location reason) :
    ¬ (Violation.mk place fault.message).TellsUnresolved := by
  apply Violation.not_tellsUnresolved
  unfold StructureFault.message
  split <;> simp at h ⊢

theorem Violation.tellsUnresolved_within {place : String} {x : Violation} :
    (x.within place).TellsUnresolved ↔ x.TellsUnresolved := by
  simp only [TellsUnresolved, message_within]

namespace AllResolved

variable {vs vs' : List Violation}

theorem nil : AllResolved [] := by simp [AllResolved]

/-- A fault that is not about references. -/
theorem fault {fault : StructureFault} {place : String}
    (h : ∀ location reason, fault ≠ .unresolved location reason) :
    AllResolved [⟨place, fault.message⟩] := by
  intro x hx
  rw [List.mem_singleton.mp hx]
  exact StructureFault.not_tellsUnresolved h

/-- Violations in a part of a value are violations in the value. -/
theorem within (h : AllResolved vs) (place : String) : AllResolved (vs.map (·.within place)) := by
  intro x hx
  obtain ⟨y, hy, rfl⟩ := List.mem_map.mp hx
  rw [Violation.tellsUnresolved_within]
  exact h y hy

theorem append (h : AllResolved vs) (h' : AllResolved vs') : AllResolved (vs ++ vs') := by
  intro x hx
  rcases List.mem_append.mp hx with hx | hx
  · exact h x hx
  · exact h' x hx

theorem flatMap {α : Type} {l : List α} {f : α → List Violation}
    (h : ∀ a ∈ l, AllResolved (f a)) : AllResolved (l.flatMap f) := by
  intro x hx
  obtain ⟨a, ha, hx⟩ := List.mem_flatMap.mp hx
  exact h a ha x hx

end AllResolved

/-! ### Answers -/

namespace Registry

variable {r : Registry} {n : Node} {v : Json}

/-- A declared member that is missing is a fault of its own. -/
theorem propertyViolations_resolved {members : Json.Members} {p : Property Node}
    (h : ∀ v, members.get? p.name = some v → AllResolved (r.violations p.schema v)) :
    AllResolved (r.propertyViolations members p) := by
  unfold propertyViolations
  split
  · rename_i v hv
    exact (h v hv).within p.name
  · split
    · exact .fault (by simp)
    · exact .nil

/-- So is a member that is not allowed. -/
theorem undeclaredViolations_resolved {additional : Additional Node} {name : String}
    (h : ∀ schema, additional = .schema schema → AllResolved (r.violations schema v)) :
    AllResolved (r.undeclaredViolations additional name v) := by
  cases additional with
  | allowed => exact .nil
  | forbidden => exact .fault (by simp)
  | schema schema => exact (h schema rfl).within name

/-- The size of an array has nothing to do with references. -/
theorem sizeViolations_resolved (minItems maxItems count : Nat) :
    AllResolved (Resolver.sizeViolations minItems maxItems count) := by
  unfold Resolver.sizeViolations
  refine .append ?_ ?_
  all_goals
    split
    · exact .fault (by simp)
    · exact .nil

/-- In a sound registry no violation tells of a reference that could not be resolved. -/
theorem violations_resolved (h : r.Sound) (hn : n.ClosedIn r) :
    AllResolved (r.violations n v) := by
  refine h.check_induction (motive := fun n v => AllResolved (r.violations n v))
    (fun n v hn ih => ?_) hn v
  cases n with
  | simple schema =>
    rw [violations_simple]
    exact schema.violations_resolved v
  | object properties additional =>
    cases v with
    | object members =>
      rw [violations_object]
      refine .append (.flatMap fun p hp => ?_) (.flatMap fun entry hentry => ?_)
      · exact propertyViolations_resolved fun v hv => ih p.schema v (.property hp hv)
      · obtain ⟨name, v⟩ := entry
        split
        · exact .nil
        · refine undeclaredViolations_resolved fun schema heq => ?_
          subst heq
          exact ih schema v (.undeclared hentry)
    | _ =>
      rw [violations_object_of_not r _ _ (by simp)]
      exact .fault (by simp)
  | array items minItems maxItems =>
    cases v with
    | array elements =>
      rw [violations_array]
      refine (sizeViolations_resolved _ _ _).append (.flatMap fun entry hentry => ?_)
      exact (ih items entry.1 (.element (List.fst_mem_of_mem_zipIdx hentry))).within _
    | _ =>
      rw [violations_array_of_not r _ _ _ (by simp)]
      exact .fault (by simp)
  | union members =>
    rw [violations_union]
    split
    · rename_i hany
      -- The violations of a union are those of one of its members.
      obtain ⟨n, hmem, heq⟩ := List.mem_map.mp (Resolver.fewest_mem (map_violations_ne_nil hany))
      rw [← heq]
      exact ih n v (.member hmem)
    · exact .fault (by simp)
  | reference u =>
    obtain ⟨n, hget⟩ := has_iff.mp (hn u (by simp [Node.references]))
    rw [violations_reference h hget]
    exact ih n v (.target hget)

/-- In a sound registry the types of every node have a name. -/
theorem describe_ne_unresolved (h : r.Sound) (hn : n.ClosedIn r) :
    r.describe n ≠ "unresolved" := by
  refine h.check_induction (motive := fun n _ => r.describe n ≠ "unresolved")
    (fun n v hn ih => ?_) hn .null
  cases n with
  | simple schema =>
    rw [describe_simple]
    cases schema.type <;> decide
  | object properties additional => simp
  | array items minItems maxItems => simp
  | union members => simp
  | reference u =>
    obtain ⟨n, hget⟩ := has_iff.mp (hn u (by simp [Node.references]))
    rw [describe_reference h hget]
    exact ih n v (.target hget)

end Registry

namespace Session

/-- After every run without a node made by hand, whatever the source answered and
however it changed: all locations that a registered node refers to are registered, and
a check against a registered node changes nothing, asks the source for nothing and
tells of no reference that could not be resolved. -/
theorem registered_schemas_complete {requests : List (Source × Request)}
    (h : ∀ request ∈ requests, request.2.byHand = false) {location : Url} {node : Node}
    (hnode : (after requests).registry.get? location = some node) :
    (∀ u ∈ node.references, (after requests).registry.has u) ∧
      ∀ (source : Source) (document : Json),
        (∃ found, (validate source node document).run (after requests)
            = (found, after requests) ∧ ∀ x ∈ found, ¬ x.TellsUnresolved) ∧
          (∃ yes, (accepts source node document).run (after requests)
            = (yes, after requests)) ∧
          ∃ name, (describe source node).run (after requests) = (name, after requests) ∧
            name ≠ "unresolved" := by
  have hsound := sound_after h
  have hclosed : node.ClosedIn (after requests).registry := hsound.closed location node hnode
  refine ⟨hclosed, fun source document => ⟨?_, ?_, ?_⟩⟩
  · exact ⟨_, run_validate hsound hclosed source document,
      Registry.violations_resolved hsound hclosed⟩
  · exact ⟨_, run_accepts hsound hclosed source document⟩
  · exact ⟨_, run_describe hsound hclosed source,
      Registry.describe_ne_unresolved hsound hclosed⟩

/-- The rest of a linked list can be checked after its schema was asked for. -/
theorem linkedList_complete :
    (after [(LinkedList.source, .get LinkedList.location)]).registry.has LinkedList.location ∧
      ∃ found, (validate LinkedList.source LinkedList.node (.object [])).run
          (after [(LinkedList.source, .get LinkedList.location)])
        = (found, after [(LinkedList.source, .get LinkedList.location)]) ∧
          ∀ x ∈ found, ¬ x.TellsUnresolved := by
  obtain ⟨hclosed, hchecks⟩ :=
    registered_schemas_complete (by simp [Request.byHand]) LinkedList.get?_after
  refine ⟨hclosed LinkedList.location ?_, (hchecks LinkedList.source (.object [])).1⟩
  simp [LinkedList.node, Node.references, Node.propertyReferences, Node.additionalReferences]

end Session
end DraftSchema
