import DraftSchema.Proofs.Compilation.Extraction
import DraftSchema.Proofs.Session.Laziness
import DraftSchema.Proofs.Validation.Inlining

/-!
# `DraftSchema.Proofs.Session.Extraction`: moving a schema to a document of its own

A document may become two: one of the schemas in it is moved to a location of its own, and a
reference to that location is left in its place. The nodes are not the same then, and neither
is what is fetched and registered. But all locations that could be asked for can be asked
for as before, and the same is found in every document. The theorems:

* `Extraction.node_eq_inline`: how the nodes of the two sources differ.
* `Extraction.answers_eq`: sessions with the two sources give the same answers.
* `extraction_unobservable`: the property of all schemas that are moved, with what is compiled
  from a fresh start.
-/

set_option autoImplicit false

namespace DraftSchema

/-! ### The answers of a source -/

namespace Session

section

variable {source : Source} {r : Registry} {s : Session} {n : Node} (hsized : source.Sized)
  (hs : Compilation.History source s.registry) (hr : Compilation.History source r)
  (hn : n.ClosedIn r)

include hsized hs hr hn

/-- What a document violates in a session with some source is what it violates in any nodes
of the source, if the node refers to those only. -/
theorem validate_eq_violations (document : Json) :
    ((validate source n document).run s).1 = r.violations n document := by
  obtain ⟨library, hlibrary⟩ := exists_library hsized
  obtain ⟨found, hfound⟩ := hlibrary.always_validate hsized n document
  rw [(hfound s hs).1, ← (hfound ⟨r, []⟩ hr).1, run_validate (s := ⟨r, []⟩) hr.sound hn]

/-- So is whether the document is of an accepted type. -/
theorem accepts_eq_accepts (document : Json) :
    ((accepts source n document).run s).1 = r.accepts n document := by
  obtain ⟨library, hlibrary⟩ := exists_library hsized
  obtain ⟨accepted, haccepted⟩ := hlibrary.always_accepts hsized n document
  rw [(haccepted s hs).1, ← (haccepted ⟨r, []⟩ hr).1, run_accepts (s := ⟨r, []⟩) hr.sound hn]

/-- So is the name of the accepted types. -/
theorem describe_eq_describe : ((describe source n).run s).1 = r.describe n := by
  obtain ⟨library, hlibrary⟩ := exists_library hsized
  obtain ⟨name, hname⟩ := hlibrary.always_describe hsized n
  rw [(hname s hs).1, ← (hname ⟨r, []⟩ hr).1, run_describe (s := ⟨r, []⟩) hr.sound hn]

end

end Session

/-! ### The answers of two sources -/

namespace Compilation.Extraction

variable {source source' : Source} {home away location : Url} {n n' : Node} {s s' : Session}
  (h : Extraction source source' home away)

include h

/-- Let a session with the second source have a node. Then that node, with the schema that was
moved in the place of the references to it, is what the first source has there. -/
theorem node_eq_inline (hs' : History source' s'.registry)
    (hne : location.withoutFragment ≠ away)
    (hn : (compile source ∅ location).result = .ok n)
    (hn' : s'.registry.get? location = some n') :
    ∃ r t, History source r ∧ Registry.Inlines r s'.registry away t ∧
      r.get? location = some n ∧ n'.inline away t = n := by
  obtain ⟨r, t, hr, hinlines, -⟩ := h.exists_inlines hs'
  have hget : r.get? location = some (n'.inline away t) := by
    rw [hinlines.get?_eq location hne, hn', Option.map_some]
  have hresult := result_of_history hr h.sized hget
  rw [hn] at hresult
  obtain rfl : n = n'.inline away t := Except.ok.inj hresult
  exact ⟨r, t, hr, hinlines, hget, rfl⟩

/-- Sessions with the two sources give the same answers, if the second one has the node that
is asked for. -/
theorem answers_eq (hs : History source s.registry) (hs' : History source' s'.registry)
    (hne : location.withoutFragment ≠ away)
    (hn : (compile source ∅ location).result = .ok n)
    (hn' : s'.registry.get? location = some n') :
    (∀ document : Json,
      ((Session.validate source n document).run s).1
        = ((Session.validate source' n' document).run s').1 ∧
      ((Session.accepts source n document).run s).1
        = ((Session.accepts source' n' document).run s').1) ∧
    ((Session.describe source n).run s).1 = ((Session.describe source' n').run s').1 := by
  obtain ⟨r, t, hr, hinlines, hget, rfl⟩ := h.node_eq_inline hs' hne hn hn'
  have hclosed : (n'.inline away t).ClosedIn r := hr.sound.closed location _ hget
  have hclosed' : n'.ClosedIn s'.registry := hs'.sound.closed location n' hn'
  -- Each session answers as its source does, and the sources answer alike.
  refine ⟨fun document => ⟨?_, ?_⟩, ?_⟩
  · rw [Session.validate_eq_violations h.sized hs hr hclosed,
      Session.validate_eq_violations h.sized' hs' hs' hclosed',
      hinlines.violations_inline hclosed']
  · rw [Session.accepts_eq_accepts h.sized hs hr hclosed,
      Session.accepts_eq_accepts h.sized' hs' hs' hclosed', hinlines.accepts_inline hclosed']
  · rw [Session.describe_eq_describe h.sized hs hr hclosed,
      Session.describe_eq_describe h.sized' hs' hs' hclosed', hinlines.describe_inline hclosed']

end Compilation.Extraction

namespace Session

variable {source source' : Source} {home away location : Url}

/-- What was compiled from a fresh start is registered then, and is a node of the source. -/
theorem registered_of_compile {n : Node} {s : Session}
    (h : (compile source location).run start = (.ok n, s)) :
    (Compilation.compile source ∅ location).result = .ok n ∧
      Compilation.History source s.registry ∧ s.registry.get? location = some n := by
  rw [run_compile] at h
  obtain ⟨hresult, rfl⟩ := Prod.mk.inj h
  exact ⟨hresult, (Compilation.History.empty source).compile location,
    Compilation.get?_of_compile hresult⟩

/-- Let a schema in one of finitely many documents be moved to a location that was not in
use, and let a reference be left in its place, with what it says about being required if it
is the schema of a declared property. References in it are absolute, if there are any. Then
every location but the new one can be compiled from a fresh start if it could be before. The
same violations are found in every document, in the same order and with the same places and
texts, the same documents are of an accepted type, and the accepted types have the same
names. -/
theorem extraction_unobservable (h : Compilation.Extraction source source' home away)
    (hne : location.withoutFragment ≠ away) :
    ((∃ n s, (compile source location).run start = (.ok n, s)) ↔
      ∃ n' s', (compile source' location).run start = (.ok n', s')) ∧
    ∀ n s n' s', (compile source location).run start = (.ok n, s) →
      (compile source' location).run start = (.ok n', s') →
      (∀ document : Json,
        ((validate source n document).run s).1 = ((validate source' n' document).run s').1 ∧
        ((accepts source n document).run s).1 = ((accepts source' n' document).run s').1) ∧
      ((describe source n).run s).1 = ((describe source' n').run s').1 := by
  constructor
  · have hiff := h.exists_compile_iff hne
    constructor
    · rintro ⟨n, s, hrun⟩
      obtain ⟨n', hn'⟩ := hiff.mp ⟨n, (registered_of_compile hrun).1⟩
      exact ⟨n', _, (run_compile _ _ _).trans (congrArg (·, _) hn')⟩
    · rintro ⟨n', s', hrun⟩
      obtain ⟨n, hn⟩ := hiff.mpr ⟨n', (registered_of_compile hrun).1⟩
      exact ⟨n, _, (run_compile _ _ _).trans (congrArg (·, _) hn)⟩
  · intro n s n' s' hrun hrun'
    obtain ⟨hn, hs, -⟩ := registered_of_compile hrun
    obtain ⟨-, hs', hn'⟩ := registered_of_compile hrun'
    exact h.answers_eq hs hs' hne hn hn'

end Session

/-! ### An example: lists of texts

The schema of lists refers to itself, for the rest of a list. What a text is gets a document
of its own. -/

namespace TextList

/-- Where the schema of texts is moved to. -/
def text : Url := { LinkedList.location with path := "/text" }

/-- The schema of texts. A list without one is not allowed. -/
def part : Json.Members := [("type", .string "string"), ("required", .bool true)]

/-- The schema of lists, with some schema of texts. -/
def raw (texts : Json) : Json := .object
  [("type", .string "object"),
    ("properties", .object [("text", texts), ("next", .object [("$ref", .string "list")])])]

/-- What is left of the schema of texts. -/
def link : Json := .object [("$ref", .string "text"), ("required", .bool true)]

/-- The node of the schema of lists. -/
def node : Node := .object
  [⟨"text", true, .simple (.ofType .string)⟩, ⟨"next", false, .reference LinkedList.location⟩]
  .allowed

/-- The document of lists. -/
def source : Source := .ofDocuments [(LinkedList.location, .ok (raw (.object part)).compact)]

/-- The two documents. -/
def source' : Source := .ofDocuments
  [(LinkedList.location, .ok (raw link).compact), (text, .ok (Json.object part).compact)]

theorem elaborate_raw :
    Node.elaborate LinkedList.location (raw (.object part))
      = ⟨[LinkedList.location], .ok node⟩ := by
  have hresolve : Reference.resolve LinkedList.location "list" = .ok LinkedList.location := by cbv
  have htexts : Node.simple? "string" [("type", .string "string"), ("required", .bool true)]
      = .ok (.simple (.ofType .string)) := by cbv
  simp [raw, part, node, htexts, Node.elaborate.eq_def, Node.elaborateObject,
    Node.elaborateAdditional.eq_def, Node.elaborateDeclared.eq_def, Node.elaborateProperties,
    Node.elaborateReference, Json.Members.get?, List.lookup_cons, hresolve, Node.required?,
    Node.boolKeyword?, Elaboration.bind_ok, Elaboration.ofExcept, Except.map]

theorem holds : source.Holds LinkedList.location (raw (.object part)) := ⟨_, rfl, by cbv⟩

/-- The source has one document. -/
theorem eq_of_holds {u : Url} {other : Json} (h : source.Holds u other) :
    u = LinkedList.location := by
  obtain ⟨written, hfetch, -⟩ := h
  by_contra hne
  simp [source, Source.ofDocuments, List.lookup_cons, beq_false_of_ne hne] at hfetch

theorem makes_node : Compilation.Makes source LinkedList.location node := by
  rw [Compilation.makes_iff_of_holds holds, elaborate_raw]

theorem text_ne_location : text ≠ LinkedList.location := fun heq =>
  absurd (congrArg Url.path heq) (by decide)

/-- There is no schema in the schema of texts. -/
theorem not_subschema_part (inner : Json) : ¬ Json.Subschema (.object part) inner := by
  have htype : Json.Members.get? part "type" = some (.string "string") := rfl
  intro h
  cases h with
  | alternative h =>
    obtain ⟨-, hlist, -⟩ := h
    simp [htype] at hlist
  | declared _ hobject _ => simp [htype] at hobject
  | additional _ hobject _ => simp [htype] at hobject
  | items _ harray _ => simp [htype] at harray

/-- The schema of texts is moved. -/
def extraction : Compilation.Extraction source source' LinkedList.location text where
  raw := raw (.object part)
  raw' := raw link
  part := part
  reference := "text"
  sized := Source.sized_ofDocuments _
  sized' := Source.sized_ofDocuments _
  plain := LinkedList.withoutFragment_location
  holds := holds
  holds' := ⟨_, rfl, by cbv⟩
  holdsPart := ⟨(Json.object part).compact, by cbv, by cbv⟩
  fetch_eq v hlist htext := by
    simp [source, source', Source.ofDocuments, List.lookup_cons, beq_false_of_ne hlist,
      beq_false_of_ne htext]
  extracts := by
    have hlink : link = .object (Json.link "text" (Json.Members.get? part "required")) := rfl
    rw [hlink]
    exact @Json.Extracts.declared "text" part _ _ [] _ "text" _ _ rfl rfl rfl (.here true)
  resolves := by cbv
  absolute members reference hreach href := by
    rcases hreach.cases_head with heq | ⟨inner, hinner, -⟩
    · cases heq
      cases href
    · exact absurd hinner (not_subschema_part inner)
  unused other h := text_ne_location (eq_of_holds h)
  unreferred v h := by
    have hv : v = LinkedList.location := by
      obtain ⟨other, -, hholds, -⟩ := h
      exact eq_of_holds hholds
    rw [hv, ← makes_node.mem_references_iff] at h
    have hreferences : node.references = [LinkedList.location] := rfl
    rw [hreferences, List.mem_singleton] at h
    exact text_ne_location h

/-- The compilation of the one document registers the schema of lists. -/
theorem run_compile_source : (Session.compile source LinkedList.location).run Session.start
    = (.ok node, ⟨⟨[(LinkedList.location, node)]⟩, [LinkedList.location]⟩) := by
  have hread : Compilation.Worklist.read source LinkedList.location = .ok (raw (.object part)) :=
    Compilation.read_eq_ok_iff.mpr holds
  have hloop : Compilation.findLoop? ∅ [(LinkedList.location, node)] = none := by cbv
  have hcompile := Compilation.compile_single LinkedList.withoutFragment_location rfl
    Nat.zero_lt_one hread (by rw [elaborate_raw]) (by simp [elaborate_raw]) hloop
  rw [Session.run_compile]
  show (_, _) = _
  simp only [Session.start, hcompile]
  rfl

end TextList

/-- The two documents can be compiled as the one could, and a text that is none is found in a
list. -/
theorem Session.textList_extracted :
    ∃ n s, (compile TextList.source' LinkedList.location).run start = (.ok n, s) ∧
      ((validate TextList.source' n (.object [("text", .null)])).run s).1
        = [⟨"text", "Invalid type: must be of type string"⟩] := by
  have hne : LinkedList.location.withoutFragment ≠ TextList.text := by
    rw [LinkedList.withoutFragment_location]
    exact TextList.text_ne_location.symm
  -- The one document is compiled and checked, and the two follow.
  obtain ⟨hiff, hsame⟩ := extraction_unobservable TextList.extraction hne
  obtain ⟨n, s, hrun⟩ := hiff.mp ⟨_, _, TextList.run_compile_source⟩
  have hanswers := hsame _ _ n s TextList.run_compile_source hrun
  obtain ⟨-, hhistory, hget⟩ := registered_of_compile TextList.run_compile_source
  refine ⟨n, s, hrun, ?_⟩
  rw [← (hanswers.1 _).1,
    run_validate hhistory.sound (hhistory.sound.closed LinkedList.location _ hget)]
  have htext : (SimpleSchema.ofType .string).violations .null
      = [⟨"", "Invalid type: must be of type string"⟩] := by cbv
  rw [TextList.node, Registry.violations_object]
  simp [Registry.propertyViolations, Registry.violations_simple, Json.Members.get?,
    List.lookup_cons, htext, Violation.within, Violation.separator]

end DraftSchema
