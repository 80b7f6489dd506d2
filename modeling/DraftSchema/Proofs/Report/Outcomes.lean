import DraftSchema.Report
import Mathlib

/-!
# `DraftSchema.Proofs.Report.Outcomes`: reports, blocks and counters

Three parts of the library sort reports: the text of a report has one of three labels, a
summary counts it as valid, invalid or unreadable, and quiet output leaves it out or not.
`Report.Counts` says which counter of a summary a report adds to, by what a summary of any
reports becomes with this one among them.

Text and summary agree on all reports (`label_prefix_block_iff`). Quiet output asks only
whether a report is marked as valid, so it disagrees on a report that is marked as valid and
has a reason why its document could not be read. No document that was looked at has such a
report, but a record that is read may be one (`quiet_hides_unreadable`). The theorems:

* `counts_iff`: a report adds to one counter, which its fields tell.
* `label_prefix_block_iff`: the label of its block is that of this counter.
* `humanText_eq_of_marks`: what is written for people, by the marks of the reports.
* `quiet_shows_failures`: quiet output is the blocks of the reports that are not counted as
  valid, and is empty exactly if all are.
-/

set_option autoImplicit false

namespace DraftSchema

/-! ### Counters -/

/-- What became of a document. -/
inductive Outcome where
  | valid
  | invalid
  | unreadable
deriving DecidableEq, Repr

/-- The word that a block of lines about a document starts with. -/
def Outcome.label : Outcome → String
  | .valid => "VALID"
  | .invalid => "INVALID"
  | .unreadable => "ERROR"

/-- The counter of a summary for an outcome. -/
def Summary.count (s : Summary) : Outcome → Nat
  | .valid => s.valid
  | .invalid => s.invalid
  | .unreadable => s.unreadable

namespace Report

/-- A summary counts the report with an outcome: with this report among others, its counter
is one higher than without. -/
def Counts (r : Report) (o : Outcome) : Prop :=
  ∀ before after : List Report,
    (Summary.ofReports (before ++ r :: after)).count o
      = (Summary.ofReports (before ++ after)).count o + 1

/-- The outcome that the fields of a report tell. A reason why the document could not be read
goes before the mark. -/
def outcome (r : Report) : Outcome :=
  match r.readError, r.valid with
  | some _, _ => .unreadable
  | none, true => .valid
  | none, false => .invalid

/-- A counter of a summary is the number of reports with its outcome. -/
theorem count_ofReports (reports : List Report) (o : Outcome) :
    (Summary.ofReports reports).count o = reports.countP fun r => r.outcome = o := by
  have hcongr : ∀ p : Report → Bool, (∀ r, p r = decide (r.outcome = o)) →
      reports.countP p = reports.countP fun r => r.outcome = o := by
    intro p hp
    exact List.countP_congr fun r _ => by rw [hp r]
  cases o with
  | valid =>
    refine hcongr (fun r => r.readError.isNone && r.valid) fun r => ?_
    rcases r with ⟨_, _ | _, _, _ | _⟩ <;> rfl
  | invalid =>
    refine hcongr (fun r => r.readError.isNone && !r.valid) fun r => ?_
    rcases r with ⟨_, _ | _, _, _ | _⟩ <;> rfl
  | unreadable =>
    refine hcongr (fun r => r.readError.isSome) fun r => ?_
    rcases r with ⟨_, _ | _, _, _ | _⟩ <;> rfl

/-- A report adds to the counter of its outcome and to no other. -/
theorem counts_iff {r : Report} {o : Outcome} : r.Counts o ↔ r.outcome = o := by
  have hstep : ∀ before after : List Report,
      (Summary.ofReports (before ++ r :: after)).count o
        = (Summary.ofReports (before ++ after)).count o + if r.outcome = o then 1 else 0 := by
    intro before after
    rw [count_ofReports, count_ofReports, List.countP_append, List.countP_append,
      List.countP_cons]
    simp only [decide_eq_true_eq]
    omega
  constructor
  · intro hcounts
    have hone := hcounts [] []
    rw [hstep [] []] at hone
    by_contra hne
    rw [if_neg hne] at hone
    omega
  · intro heq before after
    rw [hstep before after, if_pos heq]

instance (r : Report) (o : Outcome) : Decidable (r.Counts o) :=
  decidable_of_iff _ counts_iff.symm

/-- Every report adds to one counter. -/
theorem existsUnique_counts (r : Report) : ∃! o, r.Counts o := by
  refine ⟨r.outcome, counts_iff.mpr rfl, ?_⟩
  intro o hcounts
  exact (counts_iff.mp hcounts).symm

/-- All reports are counted, each once. -/
theorem total_ofReports (reports : List Report) :
    (Summary.ofReports reports).total
      = (Summary.ofReports reports).valid + (Summary.ofReports reports).invalid
        + (Summary.ofReports reports).unreadable := by
  show reports.length = (Summary.ofReports reports).count .valid
    + (Summary.ofReports reports).count .invalid + (Summary.ofReports reports).count .unreadable
  rw [count_ofReports, count_ofReports, count_ofReports]
  induction reports with
  | nil => rfl
  | cons r rest ih =>
    rw [List.length_cons, ih]
    simp only [List.countP_cons, decide_eq_true_eq]
    cases r.outcome <;> simp <;> omega

/-- A summary counts valid documents only exactly if every report is counted as valid. -/
theorem allValid_iff_counts (reports : List Report) :
    (Summary.ofReports reports).allValid = true ↔ ∀ r ∈ reports, r.Counts .valid := by
  show decide ((Summary.ofReports reports).count .valid = reports.length) = true ↔ _
  rw [decide_eq_true_iff, count_ofReports, List.countP_eq_length]
  simp only [decide_eq_true_eq, counts_iff]

/-! ### Blocks -/

/-- The lines about one document. -/
def block (r : Report) : String := r.text ++ "\n"

/-- The text of a report starts with the label of its outcome. -/
theorem exists_text_eq (r : Report) : ∃ rest, r.text = r.outcome.label ++ rest := by
  rcases r with ⟨document, valid, violations, _ | reason⟩
  · cases valid with
    | true =>
      refine ⟨"    " ++ document, ?_⟩
      show "VALID    " ++ document = "VALID" ++ ("    " ++ document)
      rw [← String.append_assoc]
      rfl
    | false =>
      have hmark : ∃ rest, text ⟨document, false, violations, none⟩ = "INVALID  " ++ rest :=
        ⟨_, by
          simp only [text, String.append_assoc]
          rfl⟩
      obtain ⟨rest, hrest⟩ := hmark
      refine ⟨"  " ++ rest, ?_⟩
      show text ⟨document, false, violations, none⟩ = "INVALID" ++ ("  " ++ rest)
      rw [hrest, ← String.append_assoc]
      rfl
  · have hmark : ∃ rest, text ⟨document, valid, violations, some reason⟩ = "ERROR    " ++ rest :=
      ⟨_, by
        simp only [text, String.append_assoc]
        rfl⟩
    obtain ⟨rest, hrest⟩ := hmark
    refine ⟨"    " ++ rest, ?_⟩
    show text ⟨document, valid, violations, some reason⟩ = "ERROR" ++ ("    " ++ rest)
    rw [hrest, ← String.append_assoc]
    rfl

/-- The block of a report starts with the label of the counter that it adds to, and with no
other label. -/
theorem label_prefix_block_iff (r : Report) (o : Outcome) :
    o.label.toList <+: r.block.toList ↔ r.Counts o := by
  obtain ⟨rest, hrest⟩ := r.exists_text_eq
  have hlabel : r.outcome.label.toList <+: r.block.toList := by
    refine ⟨(rest ++ "\n").toList, ?_⟩
    rw [block, hrest, String.append_assoc]
    exact String.toList_append.symm
  rw [counts_iff]
  constructor
  · intro hprefix
    -- Of two labels at the start of one text, one is the start of the other.
    rcases List.prefix_or_prefix_of_prefix hlabel hprefix with h | h
    · revert h
      cases r.outcome <;> cases o <;> decide
    · revert h
      cases r.outcome <;> cases o <;> decide
  · intro heq
    exact heq ▸ hlabel

/-! ### Output -/

/-- What people are shown at a verbosity: all reports, or if it is quiet those that are not
marked as valid. -/
theorem humanText_eq_of_marks (verbosity : Verbosity) (reports : List Report) :
    humanText verbosity reports
      = String.join ((reports.filter fun r => verbosity ≠ .quiet ∨ r.valid = false).map block)
        ++ if verbosity = .verbose then (Summary.ofReports reports).text else "" := by
  have hshown : (fun r : Report => !(r.valid && verbosity = .quiet))
      = fun r => decide (verbosity ≠ .quiet ∨ r.valid = false) := by
    funext r
    cases r.valid <;> cases verbosity <;> rfl
  show String.join (List.map (fun r : Report => r.text ++ "\n") (reports.filter _)) ++ _ = _
  rw [hshown]
  rfl

/-- Blocks are not empty, so there is no text only where there is no block. -/
theorem join_map_block_eq_empty_iff (reports : List Report) :
    String.join (reports.map block) = "" ↔ reports = [] := by
  cases reports with
  | nil => exact iff_of_true rfl rfl
  | cons r rest =>
    refine iff_of_false ?_ (List.cons_ne_nil r rest)
    rw [List.map_cons, String.join_cons]
    intro hempty
    have hlength := congrArg String.length hempty
    rw [String.length_append, block, String.length_append] at hlength
    exact absurd hlength (by simp)

/-- Where no report is marked as valid whose document could not be read, a mark tells which
counter a report adds to. -/
theorem valid_eq_false_iff_counts {r : Report} (h : r.valid = true → r.readError = none) :
    r.valid = false ↔ r.Counts .invalid ∨ r.Counts .unreadable := by
  rw [counts_iff, counts_iff]
  rcases r with ⟨document, valid, violations, _ | reason⟩
  · cases valid <;> simp [outcome]
  · cases valid with
    | false => simp [outcome]
    | true => exact absurd (h rfl) (Option.some_ne_none reason)

/-- Every report adds to one of three counters of a summary, which add up to the total, and
at every verbosity the label of its block is that of this counter. What is not quiet has the
blocks of all reports, in their order, and behind them the summary if it is verbose. Let no
report be marked as valid that says why its document could not be read. Then quiet output is
exactly the blocks of the reports that are counted as invalid or unreadable, in their order,
and it is empty exactly if all documents are counted as valid. -/
theorem quiet_shows_failures (reports : List Report) :
    let summary := Summary.ofReports reports
    summary.total = summary.valid + summary.invalid + summary.unreadable ∧
    (∀ r : Report, (∃! o, r.Counts o) ∧
      ∀ o : Outcome, o.label.toList <+: r.block.toList ↔ r.Counts o) ∧
    (∀ verbosity, verbosity ≠ .quiet →
      render .human verbosity reports
        = String.join (reports.map block) ++ if verbosity = .verbose then summary.text else "") ∧
    ((∀ r ∈ reports, r.valid = true → r.readError = none) →
      render .human .quiet reports
        = String.join
            ((reports.filter fun r => r.Counts .invalid ∨ r.Counts .unreadable).map block) ∧
      (render .human .quiet reports = "" ↔ summary.allValid = true)) := by
  intro summary
  refine ⟨total_ofReports reports, fun r => ⟨existsUnique_counts r, label_prefix_block_iff r⟩,
    ?_, ?_⟩
  · intro verbosity hloud
    have hall : reports.filter (fun r => verbosity ≠ .quiet ∨ r.valid = false) = reports := by
      rw [List.filter_eq_self]
      intro r _
      exact decide_eq_true (Or.inl hloud)
    show humanText verbosity reports = _
    rw [humanText_eq_of_marks, hall]
  · intro hmarks
    have hquiet : humanText .quiet reports
        = String.join
            ((reports.filter fun r => r.Counts .invalid ∨ r.Counts .unreadable).map block) := by
      have hshown : reports.filter (fun r => Verbosity.quiet ≠ .quiet ∨ r.valid = false)
          = reports.filter fun r => r.Counts .invalid ∨ r.Counts .unreadable := by
        refine List.filter_congr fun r hr => decide_eq_decide.mpr ?_
        rw [or_iff_right (fun hne => hne rfl)]
        exact valid_eq_false_iff_counts (hmarks r hr)
      rw [humanText_eq_of_marks, hshown]
      exact String.append_empty
    refine ⟨hquiet, ?_⟩
    show humanText .quiet reports = "" ↔ _
    rw [hquiet, join_map_block_eq_empty_iff, List.filter_eq_nil_iff, allValid_iff_counts]
    refine forall₂_congr fun r _ => ?_
    rw [decide_eq_true_eq, counts_iff, counts_iff, counts_iff]
    cases r.outcome <;> decide

/-- Of a document that is valid, one with a violation and one that is in no file, quiet
output tells the last two. -/
theorem quiet_of_three :
    render .human .quiet
        [ofViolations "a.json" [], ofViolations "b.json" [.atRoot "Expected a number"],
          unreadable "c.json" "No such file"]
      = "INVALID  b.json - 1 error\n    (root): Expected a number\n"
        ++ "ERROR    c.json - No such file\n" := by
  obtain ⟨-, -, -, hquiet⟩ := quiet_shows_failures
    [ofViolations "a.json" [], ofViolations "b.json" [.atRoot "Expected a number"],
      unreadable "c.json" "No such file"]
  rw [(hquiet (by decide)).1]
  cbv

/-- A report that is marked as valid and says why its document could not be read is counted
as unreadable and has the block of such a report, but it is not in quiet output, which is
empty although not all documents are counted as valid. -/
theorem quiet_hides_unreadable :
    let r : Report := ⟨"a.json", true, [], some "No such file"⟩
    render .human .quiet [r]
        ≠ String.join (([r].filter fun r => r.Counts .invalid ∨ r.Counts .unreadable).map block) ∧
      render .human .quiet [r] = "" ∧ (Summary.ofReports [r]).allValid = false := by
  intro r
  have hquiet : render .human .quiet [r] = "" := by
    show humanText .quiet [r] = ""
    rw [humanText_eq_of_marks]
    rfl
  refine ⟨?_, hquiet, rfl⟩
  rw [hquiet]
  intro hempty
  have hnone := (join_map_block_eq_empty_iff _).mp hempty.symm
  exact absurd hnone (by decide)

end Report
end DraftSchema
