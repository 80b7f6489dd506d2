import DraftSchema.Compilation.Loops
import DraftSchema.Json.Reader
import DraftSchema.Node.Elaborate
import DraftSchema.Source

/-!
# `DraftSchema.Compilation`: from a location to nodes

Compiling a location compiles every schema that can be reached from it by
references. A location is fetched when it is first met, in the order in which
references are met, and its document waits in a queue. The nodes of one
compilation are registered together, after all of them were made and no loop was
found; an error leaves the registry as it was.
-/

set_option autoImplicit false

namespace DraftSchema
namespace Compilation

/-- A compilation under way. -/
structure Worklist where
  /-- The documents that wait, first in first out. -/
  pending : List (Url × Json)
  /-- The locations whose documents waited at some time. -/
  scheduled : List Url
  /-- The locations that the source was asked for, in order. -/
  fetched : List Url
  /-- The nodes that were made, in order. -/
  compiled : List (Url × Node)

namespace Worklist

/-- The compilation before it starts. -/
def start : Worklist := ⟨[], [], [], []⟩

/-- Reads the document at a location. -/
def read (source : Source) (u : Url) : Except SchemaError Json :=
  match source.fetch u with
  | .error e => .error ⟨u.text, .fetch e⟩
  | .ok text =>
    match Json.parse? text with
    | some raw => .ok raw
    | none => .error ⟨u.text, .invalidText⟩

/-- Lets the document at a location wait, unless the location is registered or
was met before. -/
def schedule (source : Source) (registry : Registry) (w : Worklist) (u : Url) :
    Worklist × Option SchemaError :=
  if registry.has u || w.scheduled.contains u then (w, none)
  else
    match read source u with
    | .error e => ({ w with fetched := w.fetched ++ [u] }, some e)
    | .ok raw =>
      ({ w with
          pending := w.pending ++ [(u, raw)]
          scheduled := w.scheduled ++ [u]
          fetched := w.fetched ++ [u] }, none)

/-- Lets the documents at some locations wait, up to the first error. -/
def scheduleAll (source : Source) (registry : Registry) (w : Worklist) :
    List Url → Worklist × Option SchemaError
  | [] => (w, none)
  | u :: rest =>
    match w.schedule source registry u with
    | (w, some e) => (w, some e)
    | (w, none) => w.scheduleAll source registry rest

/-- Compiles the documents that wait, up to the first error. A reference that
cannot be read comes before a defect that is met behind it. -/
def drain (source : Source) (registry : Registry) (limit : Nat) (w : Worklist) :
    Worklist × Option SchemaError :=
  match w.pending with
  | [] => (w, none)
  | (u, raw) :: rest =>
    match limit with
    | 0 => (w, some ⟨u.text, .tooManyDocuments⟩)
    | limit + 1 =>
      let e := Node.elaborate u raw
      -- References come first, so that one that cannot be read hides a later defect.
      match { w with pending := rest }.scheduleAll source registry e.references with
      | (w, some e) => (w, some e)
      | (w, none) =>
        match e.result with
        | .error d => (w, some ⟨u.text, .defect d⟩)
        | .ok node =>
          { w with compiled := w.compiled ++ [(u, node)] }.drain source registry limit

end Worklist

/-- The error for a loop, which ends where it starts. -/
def loopError (loop : List Url) : SchemaError :=
  let chain := loop.map Url.text
  ⟨chain.getLast?.getD "", .loop chain⟩

end Compilation

/-- What a compilation ends with. -/
structure Compilation where
  /-- The locations that the source was asked for, in order. -/
  fetched : List Url
  registry : Registry
  result : Except SchemaError Node

namespace Compilation

/-- Compiles a location, which has a node already if it is registered. -/
def compile (source : Source) (registry : Registry) (location : Url) : Compilation :=
  let u := location.withoutFragment
  match Worklist.start.schedule source registry u with
  | (w, some e) => ⟨w.fetched, registry, .error e⟩
  | (w, none) =>
    match w.drain source registry source.size with
    | (w, some e) => ⟨w.fetched, registry, .error e⟩
    | (w, none) =>
      -- Nothing is registered until all of it is known to be good.
      match findLoop? registry w.compiled with
      | some loop => ⟨w.fetched, registry, .error (loopError loop)⟩
      | none =>
        let registry := registry.registerAll w.compiled
        let result := match registry.get? u with
          | some node => .ok node
          | none => .error (.notFound u.text)
        ⟨w.fetched, registry, result⟩

/-- The node at a location, compiled if there is none yet. -/
def get (source : Source) (registry : Registry) (location : Url) : Compilation :=
  match registry.get? location with
  | some node => ⟨[], registry, .ok node⟩
  | none => compile source registry location

end Compilation
end DraftSchema
