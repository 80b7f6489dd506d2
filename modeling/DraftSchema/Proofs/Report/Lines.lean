import DraftSchema.Proofs.Json.RoundTrip
import DraftSchema.Report

/-!
# `DraftSchema.Proofs.Report.Lines`: reports that are written line by line

Reports that are written as JSON can be told apart and read back, whatever characters stand
in the names of documents, in places, in messages and in the reasons why a document could
not be read. The theorems:

* `ofWritten?_written`: a report is read from the value that it is written as.
* `parse?_compact`: so it is from the text of that value.
* `splitOn_jsonLines`: the line feeds of the output are those between the reports.
* `jsonLines_lossless`: every report has a line of its own, from which it is read back.
-/

set_option autoImplicit false

namespace DraftSchema

open Json (Written TextUnit)

/-! ### Records -/

namespace Json

/-- A string is read back from its units. -/
theorem string?_written (s : String) : (Json.string s).written.string? = some s := by
  show (TextUnit.decode? (s.toList.map TextUnit.ofChar)).map String.ofList = some s
  rw [TextUnit.decode?_map_ofChar, Option.map_some, String.ofList_toList]

/-- The members of an object are given under the names that they were written with. -/
theorem Record.giveAll?_writtenMembers (r : Record) (members : Members) :
    r.giveAll? (writtenMembers members)
      = members.foldlM (fun r m => r.give? m.1 m.2.written) r := by
  induction members generalizing r with
  | nil => rfl
  | cons m rest ih =>
    obtain ⟨name, v⟩ := m
    rw [writtenMembers, Record.giveAll?, TextUnit.decode?_map_ofChar, List.foldlM_cons]
    simp only [Option.bind_eq_bind, Option.bind_some, String.ofList_toList, ih]

/-- The record that an object is read as. -/
theorem Record.ofWritten?_object (names : List String) (members : Members) :
    Record.ofWritten? names (Json.object members).written
      = members.foldlM (fun r m => r.give? m.1 m.2.written) (Record.blank names) :=
  Record.giveAll?_writtenMembers (Record.blank names) members

/-- A list is read back if its elements are. -/
theorem list?_written {α : Type} {read : Written → Option α} {write : α → Json} {xs : List α}
    (h : ∀ x ∈ xs, read (write x).written = some x) :
    Written.list? read (Json.array (xs.map write)).written = some xs := by
  show (writtenElements (xs.map write)).mapM read = some xs
  rw [writtenElements_eq_map, List.map_map]
  induction xs with
  | nil => rfl
  | cons x xs ih =>
    rw [List.forall_mem_cons] at h
    obtain ⟨hx, hxs⟩ := h
    simp only [List.map_cons, List.mapM_cons, Function.comp_apply, hx, ih hxs]
    rfl

end Json

/-- A violation is read from the value that it is written as. -/
theorem Violation.ofWritten?_written (v : Violation) :
    Violation.ofWritten? v.toJson.written = some v := by
  have hrecord : Json.Record.ofWritten? ["location", "message"] v.toJson.written
      = some [("location", some (Json.string v.location).written),
          ("message", some (Json.string v.message).written)] := by
    rw [Violation.toJson, Json.Record.ofWritten?_object]
    rfl
  rw [Violation.ofWritten?, hrecord]
  simp [Json.Record.required?, Json.Record.get?, List.lookup_cons, Json.string?_written]

namespace Report

/-- A report is read from the value that it is written as. Where no reason is written why
the document could not be read, there is none. -/
theorem ofWritten?_written (r : Report) : ofWritten? r.toJson.written = some r := by
  obtain ⟨document, valid, violations, readError⟩ := r
  have hviolations : Written.list? Violation.ofWritten?
      (Json.array (violations.map Violation.toJson)).written = some violations :=
    Json.list?_written fun v _ => v.ofWritten?_written
  -- The record has what was written for its fields, and nothing for the one left out.
  have hrecord : Json.Record.ofWritten? ["document", "valid", "errors", "read_error"]
      (toJson ⟨document, valid, violations, readError⟩).written
      = some [("document", some (Json.string document).written),
          ("valid", some (Json.bool valid).written),
          ("errors", some (Json.array (violations.map Violation.toJson)).written),
          ("read_error", readError.map fun reason => (Json.string reason).written)] := by
    cases readError <;>
    · rw [toJson, Json.Record.ofWritten?_object]
      rfl
  have hvalid : (Json.bool valid).written.bool? = some valid := rfl
  have hreadError : ∀ reason, Written.nullable? Written.string? (Json.string reason).written
      = some (some reason) := by
    intro reason
    show (Written.string? (Json.string reason).written).map some = _
    rw [Json.string?_written, Option.map_some]
  rw [ofWritten?, hrecord]
  cases readError <;>
    simp [Json.Record.required?, Json.Record.optional?, Json.Record.get?, List.lookup_cons,
      Json.string?_written, hviolations, hvalid, hreadError]

/-- No number is written in a report. -/
theorem numberFree_toJson (r : Report) : r.toJson.NumberFree := by
  have hviolation : ∀ v : Violation, v.toJson.NumberFree := by
    intro v
    refine .object fun m hm => ?_
    simp only [List.mem_cons, List.not_mem_nil, or_false] at hm
    rcases hm with rfl | rfl <;> exact .string _
  have hviolations : (Json.array (r.violations.map Violation.toJson)).NumberFree := by
    refine .array fun u hu => ?_
    obtain ⟨v, -, rfl⟩ := List.mem_map.mp hu
    exact hviolation v
  refine .object fun m hm => ?_
  simp only [List.mem_append, List.mem_cons, List.not_mem_nil, or_false] at hm
  rcases hm with (rfl | rfl | rfl) | hreadError
  · exact .string _
  · exact .bool _
  · exact hviolations
  · split at hreadError
    · cases hreadError
    · rw [List.mem_singleton.mp hreadError]
      exact .string _

/-- A report is read from its text. -/
theorem parse?_compact (r : Report) : parse? r.toJson.compact = some r := by
  rw [parse?, Json.written_parse?_compact r.numberFree_toJson]
  exact ofWritten?_written r

/-! ### Lines -/

/-- Every report ends with a line feed, and no other line feed is written. -/
theorem splitOn_jsonLines (reports : List Report) :
    (jsonLines reports).toList.splitOn '\n' = reports.map (·.toJson.chars) ++ [[]] := by
  have hjoined : (jsonLines reports).toList
      = ['\n'].intercalate (reports.map (·.toJson.chars) ++ [[]]) := by
    unfold jsonLines
    induction reports with
    | nil => rfl
    | cons r rest ih =>
      rw [List.map_cons, String.join_cons, String.toList_append, ih, List.map_cons,
        List.cons_append, List.intercalate_cons_of_ne_nil (by simp), String.toList_append,
        Json.compact, String.toList_ofList]
      rfl
  rw [hjoined]
  refine List.splitOn_intercalate '\n' (fun line hline => ?_) (by simp)
  rcases List.mem_append.mp hline with hline | hline
  · obtain ⟨r, -, rfl⟩ := List.mem_map.mp hline
    exact r.toJson.newline_not_mem_chars
  · rw [List.mem_singleton.mp hline]
    exact List.not_mem_nil

/-- Reports that are written as JSON are one to a line, in their order, each line with a line
feed behind it. No line is empty, and from each one its report is read back as it was. How
much is written for people makes no difference. -/
theorem jsonLines_lossless (verbosity : Verbosity) (reports : List Report) :
    ∃ lines : List String,
      (render .json verbosity reports).toList.splitOn '\n' = (lines ++ [""]).map String.toList ∧
      lines.length = reports.length ∧ (∀ line ∈ lines, line ≠ "") ∧
      lines.map parse? = reports.map some := by
  refine ⟨reports.map fun r => r.toJson.compact, ?_, by simp, ?_, ?_⟩
  · have hchars : (String.toList ∘ fun r : Report => r.toJson.compact)
        = fun r => r.toJson.chars := by
      funext r
      exact String.toList_ofList
    rw [render, splitOn_jsonLines, List.map_append, List.map_map, hchars]
    rfl
  · intro line hline
    obtain ⟨r, -, rfl⟩ := List.mem_map.mp hline
    -- A line starts with the bracket of an object.
    have hlength : 0 < r.toJson.compact.toList.length := by
      rw [Json.compact, String.toList_ofList]
      exact Nat.succ_pos _
    intro hempty
    rw [hempty] at hlength
    exact absurd hlength (by decide)
  · rw [List.map_map]
    exact List.map_congr_left fun r _ => parse?_compact r

end Report
end DraftSchema
