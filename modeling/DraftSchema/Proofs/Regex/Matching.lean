import DraftSchema.Regex
import Mathlib.Data.List.Perm.Subperm

/-!
# `DraftSchema.Proofs.Regex.Matching`: what an expression matches

What part of a text an expression spans is said by recursion on the expression (`Regex.Spans`),
with any number of copies of a repetition and without lists of positions. The theorems:

* `mem_upTo_iff` and `mem_closure_iff`: a search that goes on from new positions only finds all
  positions that so many steps, or any number of steps, lead to.
* `runs_ends`: the positions where matches may end are those up to which the expression spans.
* `isMatch_iff`: an expression matches a text exactly if it spans some part of it.
-/

set_option autoImplicit false

namespace DraftSchema.Regex

/-! ### What an expression spans -/

/-- So many steps one after the other. -/
def Copies (step : Nat → Nat → Prop) : Nat → Nat → Nat → Prop
  | 0, i, j => i = j
  | n + 1, i, j => ∃ k, step i k ∧ Copies step n k j

/-- The expression matches the text from one position up to another one. A repetition makes its
least number of copies even where its greatest number is smaller. -/
def Spans (text : Array Char) : Regex → Nat → Nat → Prop
  | .empty, i, j => i = j
  | .chars set, i, j => j = i + 1 ∧ ∃ c, text[i]? = some c ∧ set.has c.toNat
  | .look a, i, j => i = j ∧ a.holds text i
  | .concat a b, i, j => ∃ k, Spans text a i k ∧ Spans text b k j
  | .choice a b, i, j => Spans text a i j ∨ Spans text b i j
  | .repetition a min max, i, j =>
    ∃ n, min ≤ n ∧ (∀ m, max = some m → n ≤ m ∨ n = min) ∧ Copies (Spans text a) n i j
  | .group a, i, j => Spans text a i j

variable {bound i j n : Nat} {s t seen frontier : List Nat} {step : Nat → Nat → Prop}
  {next : List Nat → List Nat}

theorem Copies.append {m k : Nat} (h : Copies step m i k) (h' : Copies step n k j) :
    Copies step (m + n) i j := by
  induction m generalizing i with
  | zero =>
    cases h
    rwa [Nat.zero_add]
  | succ m ih =>
    obtain ⟨l, hstep, hrest⟩ := h
    rw [Nat.add_right_comm]
    exact ⟨l, hstep, ih hrest⟩

/-- The copies are parted anywhere. -/
theorem copies_add_iff {m : Nat} :
    Copies step (m + n) i j ↔ ∃ k, Copies step m i k ∧ Copies step n k j := by
  refine ⟨fun h => ?_, fun ⟨k, h, h'⟩ => h.append h'⟩
  induction m generalizing i with
  | zero => exact ⟨i, rfl, by rwa [Nat.zero_add] at h⟩
  | succ m ih =>
    rw [Nat.add_right_comm] at h
    obtain ⟨l, hstep, hrest⟩ := h
    obtain ⟨k, hk, hj⟩ := ih hrest
    exact ⟨k, ⟨l, hstep, hk⟩, hj⟩

/-! ### Lists of positions -/

/-- A strictly descending list of positions up to a bound. -/
structure Positions (bound : Nat) (s : List Nat) : Prop where
  descending : s.Pairwise (· > ·)
  bounded : ∀ i ∈ s, i ≤ bound

theorem positions_nil : Positions bound [] := ⟨.nil, by simp⟩

theorem Positions.sublist (h : Positions bound s) (hsub : t.Sublist s) : Positions bound t :=
  ⟨h.descending.sublist hsub, fun i hi => h.bounded i (hsub.subset hi)⟩

theorem Positions.nodup (h : Positions bound s) : s.Nodup :=
  h.descending.imp fun hlt => Nat.ne_of_gt hlt

/-- There are not more positions than up to the bound. -/
theorem Positions.length_le (h : Positions bound s) : s.length ≤ bound + 1 := by
  have hsub : s ⊆ List.range (bound + 1) := fun i hi =>
    List.mem_range.mpr (Nat.lt_succ_of_le (h.bounded i hi))
  simpa using (h.nodup.subperm hsub).length_le

theorem mem_mergeDesc : i ∈ mergeDesc s t ↔ i ∈ s ∨ i ∈ t := by
  fun_induction mergeDesc s t <;> grind

theorem mergeDesc_descending (hs : s.Pairwise (· > ·)) (ht : t.Pairwise (· > ·)) :
    (mergeDesc s t).Pairwise (· > ·) := by
  fun_induction mergeDesc s t with
  | case1 t => exact ht
  | case2 s hne => exact hs
  | case3 a s b t hlt ih =>
    rw [List.pairwise_cons] at hs ht
    refine List.pairwise_cons.mpr ⟨fun k hk => ?_, ih hs.2 (List.pairwise_cons.mpr ht)⟩
    rcases mem_mergeDesc.mp hk with hk | hk
    · exact hs.1 k hk
    · rcases List.mem_cons.mp hk with rfl | hk
      · exact hlt
      · exact Nat.lt_trans (ht.1 k hk) hlt
  | case4 a s b t _ hlt ih =>
    rw [List.pairwise_cons] at hs ht
    refine List.pairwise_cons.mpr ⟨fun k hk => ?_, ih (List.pairwise_cons.mpr hs) ht.2⟩
    rcases mem_mergeDesc.mp hk with hk | hk
    · rcases List.mem_cons.mp hk with rfl | hk
      · exact hlt
      · exact Nat.lt_trans (hs.1 k hk) hlt
    · exact ht.1 k hk
  | case5 a s b t hle hge ih =>
    obtain rfl : a = b := by omega
    rw [List.pairwise_cons] at hs ht
    refine List.pairwise_cons.mpr ⟨fun k hk => ?_, ih hs.2 ht.2⟩
    exact (mem_mergeDesc.mp hk).elim (hs.1 k) (ht.1 k)

theorem Positions.mergeDesc (hs : Positions bound s) (ht : Positions bound t) :
    Positions bound (mergeDesc s t) :=
  ⟨mergeDesc_descending hs.descending ht.descending, fun i hi =>
    (mem_mergeDesc.mp hi).elim (hs.bounded i) (ht.bounded i)⟩

theorem diffDesc_sublist : (diffDesc s t).Sublist s := by
  fun_induction diffDesc s t with
  | case1 => exact .refl _
  | case2 => exact .refl _
  | case3 a s b t _ ih => exact ih.cons_cons a
  | case4 a s b t _ _ ih => exact ih
  | case5 a s b t _ _ ih => exact ih.cons a

theorem mem_diffDesc (hs : s.Pairwise (· > ·)) (ht : t.Pairwise (· > ·)) :
    i ∈ diffDesc s t ↔ i ∈ s ∧ i ∉ t := by
  fun_induction diffDesc s t with
  | case1 => simp
  | case2 => simp
  | case3 a s b t hlt ih =>
    have hnot : a ∉ b :: t := by
      intro hmem
      rcases List.mem_cons.mp hmem with rfl | hmem
      · omega
      · have := (List.pairwise_cons.mp ht).1 a hmem
        omega
    rw [List.mem_cons, ih (List.pairwise_cons.mp hs).2 ht, List.mem_cons]
    grind
  | case4 a s b t _ hlt ih =>
    have hnot : b ∉ a :: s := by
      intro hmem
      rcases List.mem_cons.mp hmem with rfl | hmem
      · omega
      · have := (List.pairwise_cons.mp hs).1 b hmem
        omega
    rw [ih hs (List.pairwise_cons.mp ht).2, List.mem_cons]
    grind
  | case5 a s b t hle hge ih =>
    obtain rfl : a = b := by omega
    have hnot : a ∉ s := fun hmem => Nat.lt_irrefl a ((List.pairwise_cons.mp hs).1 a hmem)
    rw [ih (List.pairwise_cons.mp hs).2 (List.pairwise_cons.mp ht).2, List.mem_cons, List.mem_cons]
    grind

/-! ### Searching -/

/-- The function on lists makes the step from each position. -/
structure Runs (bound : Nat) (next : List Nat → List Nat) (step : Nat → Nat → Prop) : Prop where
  positions : ∀ {s}, Positions bound s → Positions bound (next s)
  mem_iff : ∀ {s}, Positions bound s → ∀ j, j ∈ next s ↔ ∃ i ∈ s, step i j

/-- From all positions that were seen, apart from those at the frontier, the step leads to
positions that were seen. -/
structure Explored (bound : Nat) (step : Nat → Nat → Prop) (seen frontier : List Nat) : Prop where
  ofSeen : Positions bound seen
  ofFrontier : Positions bound frontier
  subset : ∀ i ∈ frontier, i ∈ seen
  closed : ∀ i ∈ seen, i ∉ frontier → ∀ j, step i j → j ∈ seen

/-- Everything may be at the frontier. -/
theorem Positions.explored (h : Positions bound s) : Explored bound step s s :=
  ⟨h, h, fun _ => id, fun _ hi hnot => absurd hi hnot⟩

namespace Explored

variable (h : Explored bound step seen frontier) (hnext : Runs bound next step)

include h hnext

/-- What is new. -/
theorem mem_fresh_iff : j ∈ diffDesc (next frontier) seen ↔ j ∈ next frontier ∧ j ∉ seen :=
  mem_diffDesc (hnext.positions h.ofFrontier).descending h.ofSeen.descending

/-- A step leads from what was seen to what was seen or is new. -/
theorem mem_of_step (hi : i ∈ seen) (hstep : step i j) :
    j ∈ mergeDesc (diffDesc (next frontier) seen) seen := by
  rw [mem_mergeDesc, h.mem_fresh_iff hnext]
  by_cases hfrontier : i ∈ frontier
  · have hj : j ∈ next frontier := (hnext.mem_iff h.ofFrontier j).mpr ⟨i, hfrontier, hstep⟩
    by_cases hseen : j ∈ seen
    · exact .inr hseen
    · exact .inl ⟨hj, hseen⟩
  · exact .inr (h.closed i hi hfrontier j hstep)

/-- What is new is the next frontier. -/
theorem advance : Explored bound step (mergeDesc (diffDesc (next frontier) seen) seen)
    (diffDesc (next frontier) seen) where
  ofSeen := ((hnext.positions h.ofFrontier).sublist diffDesc_sublist).mergeDesc h.ofSeen
  ofFrontier := (hnext.positions h.ofFrontier).sublist diffDesc_sublist
  subset _ hi := mem_mergeDesc.mpr (.inl hi)
  closed _ hi hnot _ hstep :=
    h.mem_of_step hnext ((mem_mergeDesc.mp hi).resolve_left hnot) hstep

/-- If nothing is new, nothing else is reached. -/
theorem mem_of_copies (hnone : diffDesc (next frontier) seen = []) {n : Nat} (hi : i ∈ seen)
    (hcopies : Copies step n i j) : j ∈ seen := by
  induction n generalizing i with
  | zero => exact hcopies ▸ hi
  | succ n ih =>
    obtain ⟨k, hstep, hrest⟩ := hcopies
    have hk := h.mem_of_step hnext hi hstep
    rw [hnone, mem_mergeDesc] at hk
    exact ih (hk.resolve_left (by simp)) hrest

/-- What is reached after what is new was reached before with one step less. -/
theorem exists_of_copies_fresh {n : Nat}
    (hi : i ∈ mergeDesc (diffDesc (next frontier) seen) seen) (hcopies : Copies step n i j) :
    ∃ k ∈ seen, Copies step n k j ∨ Copies step (n + 1) k j := by
  rcases mem_mergeDesc.mp hi with hi | hi
  · obtain ⟨k, hk, hstep⟩ := (hnext.mem_iff h.ofFrontier i).mp ((h.mem_fresh_iff hnext).mp hi).1
    exact ⟨k, h.subset k hk, .inr ⟨i, hstep, hcopies⟩⟩
  · exact ⟨i, hi, .inl hcopies⟩

/-- The search with a bound on the number of steps. -/
theorem mem_upTo_iff (n : Nat) : Positions bound (upTo next n seen frontier) ∧
    (j ∈ upTo next n seen frontier ↔ ∃ i ∈ seen, ∃ m ≤ n, Copies step m i j) := by
  induction n generalizing seen frontier with
  | zero =>
    refine ⟨h.ofSeen, fun hj => ⟨j, hj, 0, Nat.le_refl 0, rfl⟩, ?_⟩
    rintro ⟨i, hi, m, hm, hcopies⟩
    obtain rfl : m = 0 := Nat.le_zero.mp hm
    exact hcopies ▸ hi
  | succ n ih =>
    rw [upTo]
    split
    · rename_i hnone
      refine ⟨h.ofSeen, fun hj => ⟨j, hj, 0, Nat.zero_le _, rfl⟩, ?_⟩
      rintro ⟨i, hi, m, -, hcopies⟩
      exact h.mem_of_copies hnext hnone hi hcopies
    · obtain ⟨hpositions, hmem⟩ := ih (h.advance hnext)
      refine ⟨hpositions, hmem.trans ⟨?_, ?_⟩⟩
      · rintro ⟨i, hi, m, hm, hcopies⟩
        obtain ⟨k, hk, hcopies | hcopies⟩ := h.exists_of_copies_fresh hnext hi hcopies
        · exact ⟨k, hk, m, by omega, hcopies⟩
        · exact ⟨k, hk, m + 1, by omega, hcopies⟩
      · rintro ⟨i, hi, m, hm, hcopies⟩
        cases m with
        | zero => exact ⟨i, mem_mergeDesc.mpr (.inr hi), 0, Nat.zero_le _, hcopies⟩
        | succ m =>
          obtain ⟨k, hstep, hrest⟩ := hcopies
          exact ⟨k, h.mem_of_step hnext hi hstep, m, by omega, hrest⟩

/-- Something new makes the positions more that were seen. -/
theorem length_lt (hsome : diffDesc (next frontier) seen ≠ []) :
    seen.length < (mergeDesc (diffDesc (next frontier) seen) seen).length := by
  obtain ⟨k, hk⟩ := List.exists_mem_of_ne_nil _ hsome
  have hnot : k ∉ seen := ((h.mem_fresh_iff hnext).mp hk).2
  have hnodup : (k :: seen).Nodup := List.nodup_cons.mpr ⟨hnot, h.ofSeen.nodup⟩
  have hsub : k :: seen ⊆ mergeDesc (diffDesc (next frontier) seen) seen := by
    intro l hl
    rw [mem_mergeDesc]
    rcases List.mem_cons.mp hl with rfl | hl
    · exact .inl hk
    · exact .inr hl
  exact (hnodup.subperm hsub).length_le

/-- The search without a bound on the number of steps. There are as many steps as positions that
may still be met. -/
theorem mem_closure_iff {fuel : Nat} (hfuel : seen = [] ∨ bound + 1 < fuel + seen.length) :
    Positions bound (closure next fuel seen frontier) ∧
      (j ∈ closure next fuel seen frontier ↔ ∃ i ∈ seen, ∃ m, Copies step m i j) := by
  induction fuel generalizing seen frontier with
  | zero =>
    have hempty : seen = [] := by
      have := h.ofSeen.length_le
      exact hfuel.resolve_right (by omega)
    subst hempty
    exact ⟨positions_nil, by simp [closure]⟩
  | succ fuel ih =>
    rw [closure]
    split
    · rename_i hnone
      refine ⟨h.ofSeen, fun hj => ⟨j, hj, 0, rfl⟩, ?_⟩
      rintro ⟨i, hi, m, hcopies⟩
      exact h.mem_of_copies hnext hnone hi hcopies
    · rename_i hsome
      have hlonger := h.length_lt hnext hsome
      have hne : seen ≠ [] := by
        rintro rfl
        obtain ⟨k, hk⟩ := List.exists_mem_of_ne_nil _ hsome
        obtain ⟨l, hl, -⟩ :=
          (hnext.mem_iff h.ofFrontier k).mp ((h.mem_fresh_iff hnext).mp hk).1
        exact absurd (h.subset l hl) (by simp)
      have hleft := hfuel.resolve_left hne
      obtain ⟨hpositions, hmem⟩ := ih (h.advance hnext) (.inr (by omega))
      refine ⟨hpositions, hmem.trans ⟨?_, ?_⟩⟩
      · rintro ⟨i, hi, m, hcopies⟩
        obtain ⟨k, hk, hcopies | hcopies⟩ := h.exists_of_copies_fresh hnext hi hcopies
        · exact ⟨k, hk, m, hcopies⟩
        · exact ⟨k, hk, m + 1, hcopies⟩
      · rintro ⟨i, hi, m, hcopies⟩
        exact ⟨i, mem_mergeDesc.mpr (.inr hi), m, hcopies⟩

end Explored

namespace Runs

variable {f g : List Nat → List Nat} {R S : Nat → Nat → Prop}

theorem congr (h : Runs bound f R) (heq : ∀ i j, R i j ↔ S i j) : Runs bound f S :=
  ⟨h.positions, fun hs j =>
    (h.mem_iff hs j).trans (exists_congr fun i => and_congr_right' (heq i j))⟩

/-- No step. -/
theorem refl : Runs bound id fun i j => i = j :=
  ⟨id, fun _ j => ⟨fun hj => ⟨j, hj, rfl⟩, fun ⟨_, hi, heq⟩ => heq ▸ hi⟩⟩

/-- One step or the other one. -/
theorem choice (hf : Runs bound f R) (hg : Runs bound g S) :
    Runs bound (fun s => mergeDesc (f s) (g s)) fun i j => R i j ∨ S i j := by
  refine ⟨fun hs => (hf.positions hs).mergeDesc (hg.positions hs), fun hs j => ?_⟩
  rw [mem_mergeDesc, hf.mem_iff hs, hg.mem_iff hs]
  simp only [and_or_left, exists_or]

/-- One step after another one. -/
theorem comp (hf : Runs bound f R) (hg : Runs bound g S) :
    Runs bound (fun s => g (f s)) fun i j => ∃ k, R i k ∧ S k j := by
  refine ⟨fun hs => hg.positions (hf.positions hs), fun hs j => ?_⟩
  rw [hg.mem_iff (hf.positions hs)]
  simp only [hf.mem_iff hs]
  refine ⟨?_, ?_⟩
  · rintro ⟨k, ⟨i, hi, hR⟩, hS⟩
    exact ⟨i, hi, k, hR, hS⟩
  · rintro ⟨i, hi, k, hR, hS⟩
    exact ⟨k, ⟨i, hi, hR⟩, hS⟩

variable (hnext : Runs bound next step)

include hnext

/-- So many steps. -/
theorem power (n : Nat) : Runs bound (power next n) (Copies step n) := by
  induction n with
  | zero => exact refl
  | succ n ih =>
    have hboth := hnext.comp ih
    refine ⟨fun {s} hs => ?_, fun {s} hs j => ?_⟩ <;> rw [Regex.power] <;> split
    · exact positions_nil
    · exact hboth.positions hs
    · rename_i hempty
      simp [List.isEmpty_iff.mp hempty]
    · exact hboth.mem_iff hs j

/-- At most so many steps. -/
theorem upTo (n : Nat) : Runs bound (fun s => upTo next n s s) fun i j =>
    ∃ m ≤ n, Copies step m i j :=
  ⟨fun hs => (hs.explored.mem_upTo_iff hnext n (j := 0)).1,
    fun hs _ => (hs.explored.mem_upTo_iff hnext n).2⟩

/-- Any number of steps. -/
theorem closure : Runs bound (fun s => closure next (bound + 1) s s) fun i j =>
    ∃ m, Copies step m i j := by
  have hfuel : ∀ s : List Nat, s = [] ∨ bound + 1 < bound + 1 + s.length := by
    intro s
    cases s with
    | nil => exact .inl rfl
    | cons i s => exact .inr (by simp)
  exact ⟨fun {s} hs => (hs.explored.mem_closure_iff hnext (hfuel s) (j := 0)).1,
    fun {s} hs _ => (hs.explored.mem_closure_iff hnext (hfuel s)).2⟩

/-- At least so many steps. -/
theorem atLeast (least : Nat) :
    Runs bound (fun s => Regex.closure next (bound + 1) (Regex.power next least s)
      (Regex.power next least s)) fun i j => ∃ n, least ≤ n ∧ Copies step n i j := by
  refine ((hnext.power least).comp hnext.closure).congr fun i j => ⟨?_, ?_⟩
  · rintro ⟨k, hstart, m, hrest⟩
    exact ⟨least + m, Nat.le_add_right _ _, hstart.append hrest⟩
  · rintro ⟨n, hn, hcopies⟩
    obtain ⟨m, rfl⟩ := Nat.exists_eq_add_of_le hn
    obtain ⟨k, hstart, hrest⟩ := copies_add_iff.mp hcopies
    exact ⟨k, hstart, m, hrest⟩

/-- At least and at most so many steps, or exactly so many where the bounds cross. -/
theorem between (least most : Nat) :
    Runs bound (fun s => Regex.upTo next (most - least) (Regex.power next least s)
      (Regex.power next least s)) fun i j =>
        ∃ n, least ≤ n ∧ (n ≤ most ∨ n = least) ∧ Copies step n i j := by
  refine ((hnext.power least).comp (hnext.upTo (most - least))).congr fun i j => ⟨?_, ?_⟩
  · rintro ⟨k, hstart, m, hm, hrest⟩
    exact ⟨least + m, Nat.le_add_right _ _, by omega, hstart.append hrest⟩
  · rintro ⟨n, hn, hmost, hcopies⟩
    obtain ⟨m, rfl⟩ := Nat.exists_eq_add_of_le hn
    obtain ⟨k, hstart, hrest⟩ := copies_add_iff.mp hcopies
    exact ⟨k, hstart, m, by omega, hrest⟩

end Runs

/-! ### Matching -/

variable {text : Array Char}

theorem runs_chars (set : Unicode.CodePoints) :
    Runs text.size (ends text (.chars set)) (Spans text (.chars set)) := by
  refine ⟨fun {s} hs => ⟨?_, ?_⟩, fun {s} _ j => ?_⟩
  · refine hs.descending.filterMap _ fun i i' hlt k hk k' hk' => ?_
    simp only [Option.ite_none_right_eq_some, Option.some.injEq] at hk hk'
    omega
  · intro k hk
    obtain ⟨i, -, hi⟩ := List.mem_filterMap.mp hk
    simp only [Option.ite_none_right_eq_some, Option.some.injEq, Option.any_eq_true] at hi
    obtain ⟨⟨c, hc, -⟩, rfl⟩ := hi
    exact (Array.getElem?_eq_some_iff.mp hc).1
  · simp only [ends, List.mem_filterMap, Option.ite_none_right_eq_some, Option.some.injEq,
      Option.any_eq_true, Spans]
    grind

/-- Where matches end that start at some positions. -/
theorem runs_ends (r : Regex) : Runs text.size (ends text r) (Spans text r) := by
  induction r with
  | empty => exact .refl
  | chars set => exact runs_chars set
  | look a =>
    refine ⟨fun {s} hs => hs.sublist List.filter_sublist, fun {s} _ j => ?_⟩
    simp only [ends, List.mem_filter, Spans]
    grind
  | concat a b iha ihb => exact iha.comp ihb
  | choice a b iha ihb => exact iha.choice ihb
  | group a ih => exact ⟨ih.positions, ih.mem_iff⟩
  | repetition a min max ih =>
    cases max with
    | none => exact (ih.atLeast min).congr fun i j => by simp [Spans]
    | some most => exact (ih.between min most).congr fun i j => by simp [Spans]

theorem positions_positionsFrom : Positions n (positionsFrom n) := by
  unfold positionsFrom
  refine ⟨List.pairwise_reverse.mpr ?_, fun i hi => ?_⟩
  · exact List.pairwise_lt_range
  · have := List.mem_range.mp (List.mem_reverse.mp hi)
    omega

/-- An expression matches a text if it spans some part of it. -/
theorem isMatch_iff {r : Regex} {s : String} :
    r.isMatch s ↔ ∃ i j, i ≤ s.toList.toArray.size ∧ Spans s.toList.toArray r i j := by
  have hmem : ∀ i, i ∈ positionsFrom s.toList.toArray.size ↔ i ≤ s.toList.toArray.size := by
    intro i
    simp only [positionsFrom, List.mem_reverse, List.mem_range]
    omega
  have hends := (@runs_ends s.toList.toArray r).mem_iff positions_positionsFrom
  rw [isMatch, Bool.not_eq_true', List.isEmpty_eq_false_iff_exists_mem]
  simp only [hends, hmem]
  exact exists_comm.trans (by simp only [exists_and_left])

end DraftSchema.Regex
