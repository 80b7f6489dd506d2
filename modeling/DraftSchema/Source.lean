import DraftSchema.SchemaError
import DraftSchema.Url.Parser

/-!
# `DraftSchema.Source`: where the texts of schemas come from

A source answers a location with a text or with the reason why there is none. It
states how many locations it answers with a text, which bounds the documents that
one compilation can come to.
-/

set_option autoImplicit false

namespace DraftSchema

/-- Texts by location. -/
structure Source where
  fetch : Url → Except FetchError String
  /-- No more locations than this are answered with a text. -/
  size : Nat

namespace Source

/-- The locations that a source answers with a text are in the list. -/
def AnswersOnly (source : Source) (locations : List Url) : Prop :=
  ∀ u, (source.fetch u).toBool → u ∈ locations

/-- The source states its size rightly. -/
def Sized (source : Source) : Prop :=
  ∃ locations : List Url, locations.length ≤ source.size ∧ source.AnswersOnly locations

/-- The source that holds some documents. -/
def ofDocuments (documents : List (Url × Except FetchError String)) : Source where
  fetch u := (documents.lookup u).getD (.error .notFound)
  size := documents.length

/-- A source of some documents answers for their locations only. -/
theorem answersOnly_ofDocuments (documents : List (Url × Except FetchError String)) :
    (ofDocuments documents).AnswersOnly (documents.map (·.1)) := by
  intro u h
  have found : (documents.lookup u).isSome := by
    rcases hd : documents.lookup u with _ | answer
    · simp [ofDocuments, hd, Except.toBool] at h
    · rfl
  simp only [List.lookup_isSome_iff] at found
  obtain ⟨entry, hm, he⟩ := found
  exact List.mem_map.2 ⟨entry, hm, by simpa using (beq_iff_eq.1 he).symm⟩

/-- So it states its size rightly. -/
theorem sized_ofDocuments (documents : List (Url × Except FetchError String)) :
    (ofDocuments documents).Sized :=
  ⟨documents.map (·.1), by simp [ofDocuments], answersOnly_ofDocuments documents⟩

end Source
end DraftSchema
