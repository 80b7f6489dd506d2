import DraftSchema.Proofs.Regex.Closing

/-!
# `DraftSchema.Proofs.Regex.Tokens`: reading an expression inside of groups

One step of reading an expression takes a token, which does not depend on what was read before
apart from verbose mode. An expression is therefore read in the same way inside of open groups,
up to the parenthesis that closes the innermost one. The theorems:

* `out_exprStep`: a step is a token and what it adds to the progress.
* `Progress.take?_under`: what a token adds does not depend on the groups further out.
* `Progress.read_append`: what follows an expression is read after it, unless a comment at the
  end of the expression swallows it.
-/

set_option autoImplicit false

namespace DraftSchema.Regex

open Scanner (out_bind out_bind_eq_some_iff)

variable {cs rest t : List Char} {verbose : Bool}

/-! ### Tokens -/

/-- What one step reads, wherever it stands in the expression. -/
inductive Token where
  | item (e : Expr)
  | repetition (min : Nat) (max : Option Nat)
  | bar
  | opening (o : Opening)
  | closing

/-- The token that starts with a character. -/
def tokenAt (verbose : Bool) : Char → Scanner Token
  | '(' => do Scanner.skip 1; return .opening (← groupOpening verbose)
  | ')' => do Scanner.skip 1; return .closing
  | '|' => do Scanner.skip 1; return .bar
  | '[' => return .item (← bracketedClass verbose)
  | '?' => do Scanner.skip 1; lazyMark; return .repetition 0 (some 1)
  | '*' => do Scanner.skip 1; lazyMark; return .repetition 0 none
  | '+' => do Scanner.skip 1; lazyMark; return .repetition 1 none
  | '\\' => do Scanner.skip 1; return .item (← escape verbose).toExpr
  | '.' => do Scanner.skip 1; return .item .dot
  | '^' => do Scanner.skip 1; return .item (.assertion .startLine)
  | '$' => do Scanner.skip 1; return .item (.assertion .endLine)
  | c =>
    if c = openBrace then do
      let (min, max) ← counts verbose
      return .repetition min max
    else do Scanner.skip 1; return .item (.literal ⟨c, false⟩)

/-- The next token, with the blanks in front of it; there is none at the end. -/
def token (verbose : Bool) : Scanner (Option Token) := do
  skipBlanks verbose
  match ← Scanner.peek with
  | none => return none
  | some c => return some (← tokenAt verbose c)

/-- The progress with a further token. -/
def Progress.take? (s : Progress) : Token → Option Progress
  | .item e => some (s.push e)
  | .repetition min max => s.repeat? min max
  | .bar => some { s with level := s.level.branch }
  | .opening o => s.open? o
  | .closing => s.close?

/-- A step takes a token, or ends where there is none and no group is open. -/
theorem out_exprStep (s : Progress) (cs : List Char) :
    (exprStep s).out cs = ((token s.verbose).out cs).bind fun x =>
      match x.1 with
      | none => if s.groups.isEmpty then some (.inr s.level.toExpr, x.2) else none
      | some tok => (s.take? tok).map fun s' => (.inl s', x.2) := by
  unfold exprStep token
  rw [out_bind, out_bind, Option.bind_assoc]
  refine Option.bind_congr fun x _ => ?_
  rw [Scanner.out_peek_bind, Scanner.out_peek_bind]
  generalize x.2.head? = first
  split
  · cases s.groups.isEmpty <;> rfl
  all_goals
    simp only [tokenAt, out_bind, Scanner.out_ofOption_eq_map, Scanner.out_skip, Scanner.out_pure,
      Option.bind_some, Option.bind_assoc, Option.map_eq_bind, Function.comp_def, Progress.take?]
  rename_i c _ _ _ _ _ _ _ _ _ _ _
  by_cases hbrace : c = openBrace
  · simp only [hbrace, if_true, out_bind, Scanner.out_ofOption_eq_map, Scanner.out_pure,
      Option.bind_some, Option.bind_assoc, Option.map_eq_bind, Function.comp_def]
  · simp only [hbrace, if_false, out_bind, Scanner.out_skip, Scanner.out_pure, Option.bind_some]

/-- A token does not change with a tail. -/
theorem extendsAt_tokenAt (verbose : Bool) (c : Char) (cs : List Char) :
    ExtendsAt (tokenAt verbose c) (c :: cs) := by
  have hone : ∀ {α : Type} {p : Scanner α}, Extends p →
      ExtendsAt (Scanner.skip 1 >>= fun _ => p) (c :: cs) := fun hp =>
    (extendsAt_skip (Nat.le_add_left 1 cs.length)).bind fun _ mid _ => hp mid
  unfold tokenAt
  split
  · exact hone ((extends_groupOpening verbose).bind fun _ => extends_pure _)
  · exact hone (extends_pure _)
  · exact hone (extends_pure _)
  · exact ((extends_bracketedClass verbose).bind fun _ => extends_pure _) _
  iterate 3
    exact hone (extends_lazyMark.bind fun _ => extends_pure _)
  · exact hone ((extends_escape verbose).bind fun _ => extends_pure _)
  iterate 3
    exact hone (extends_pure _)
  · split
    · exact ((extends_counts verbose).bind fun _ => extends_pure _) _
    · exact hone (extends_pure _)

/-- There is no token exactly where there are blanks only. -/
theorem out_token_eq_none_iff : (token verbose).out cs = some (none, rest) ↔
    (skipBlanks verbose).out cs = some ((), []) ∧ rest = [] := by
  unfold token
  rw [out_bind_eq_some_iff]
  constructor
  · rintro ⟨_, mid, hblanks, hout⟩
    rw [Scanner.out_peek_bind] at hout
    cases mid with
    | nil =>
      cases hout
      exact ⟨hblanks, rfl⟩
    | cons c mid =>
      obtain ⟨tok, mid, -, hout⟩ := out_bind_eq_some_iff.mp hout
      cases hout
  · rintro ⟨hblanks, rfl⟩
    exact ⟨(), [], hblanks, rfl⟩

theorem extendsAt_token {tok : Token} (h : (token verbose).out cs = some (some tok, rest)) :
    ExtendsAt (token verbose) cs := by
  refine (extends_skipBlanks verbose cs).bind fun _ mid hblanks => ?_
  cases mid with
  | nil =>
    have hnone := out_token_eq_none_iff.mpr ⟨hblanks, rfl⟩
    rw [hnone] at h
    cases h
  | cons c mid =>
    exact extendsAt_peek_bind_cons ((extendsAt_tokenAt verbose c mid).bind fun _ _ _ =>
      extends_pure _ _)

/-- A tail starts with a closing parenthesis. -/
theorem token_tail (verbose : Bool) (ht : IsTail t) :
    ∃ u, t = ')' :: u ∧ (token verbose).out t = some (some .closing, u) := by
  have hblanks := skipBlanks_tail verbose ht
  rcases ht with rfl | rfl
  · exact ⟨_, rfl, out_bind_eq_some_iff.mpr ⟨(), _, hblanks, rfl⟩⟩
  · exact ⟨_, rfl, out_bind_eq_some_iff.mpr ⟨(), _, hblanks, rfl⟩⟩

/-- A tail is the first token behind blanks, unless a comment swallows it. -/
theorem token_append_of_none (h : (token verbose).out cs = some (none, rest)) :
    (∀ t, IsTail t → (token verbose).out (cs ++ t) = (token verbose).out t) ∨
      '#' ∈ cs ∧ ∀ t, IsTail t → (token verbose).out (cs ++ t) = some (none, []) := by
  obtain ⟨hblanks, -⟩ := out_token_eq_none_iff.mp h
  refine ((extends_skipBlanks verbose cs) () [] hblanks).2.imp (fun happend t ht => ?_)
    fun ⟨_, hcomment, happend⟩ => ⟨hcomment, fun t ht => ?_⟩
  · unfold token
    rw [out_bind, out_bind, happend t ht, skipBlanks_tail verbose ht]
    rfl
  · exact out_token_eq_none_iff.mpr ⟨happend t ht, rfl⟩

/-! ### Outer groups -/

namespace Progress

variable {s s' : Progress} {e : Expr}

/-- The progress with further groups around all others. -/
def under (s : Progress) (gs : List Group) : Progress := { s with groups := s.groups ++ gs }

@[simp]
theorem under_nil : s.under [] = s := by
  simp [under]

@[simp]
theorem under_verbose {gs : List Group} : (s.under gs).verbose = s.verbose := rfl

@[simp]
theorem under_level {gs : List Group} : (s.under gs).level = s.level := rfl

@[simp]
theorem under_groups {gs : List Group} : (s.under gs).groups = s.groups ++ gs := rfl

/-- What a token adds does not depend on the groups further out. -/
theorem take?_under {tok : Token} (h : s.take? tok = some s') (gs : List Group) :
    (s.under gs).take? tok = some (s'.under gs) := by
  cases tok with
  | item e =>
    cases h
    rfl
  | repetition min max =>
    obtain ⟨l, hl, rfl⟩ := Option.map_eq_some_iff.mp h
    exact Option.map_eq_some_iff.mpr ⟨l, hl, rfl⟩
  | bar =>
    cases h
    rfl
  | opening o =>
    cases o with
    | flags change =>
      cases h
      rfl
    | group capturing change name =>
      simp only [take?, Progress.open?, Option.ite_none_left_eq_some] at h ⊢
      obtain ⟨hname, hs⟩ := h
      cases hs
      exact ⟨hname, rfl⟩
  | closing =>
    obtain ⟨level, groups, names, verbose⟩ := s
    cases groups with
    | nil => cases h
    | cons g groups =>
      cases h
      rfl

/-- The expression that is read from here on, and what is left. -/
def read (s : Progress) (cs : List Char) : Option (Expr × List Char) :=
  Scanner.out (Scanner.iterate exprStep s) cs

theorem read_eq (s : Progress) (cs : List Char) :
    s.read cs = ((token s.verbose).out cs).bind fun x =>
      match x.1 with
      | none => if s.groups.isEmpty then some (s.level.toExpr, x.2) else none
      | some tok => (s.take? tok).bind fun s' =>
          if x.2.length < cs.length then s'.read x.2 else none := by
  unfold read
  rw [Scanner.out_iterate, out_exprStep, Option.bind_assoc]
  refine Option.bind_congr fun x _ => ?_
  obtain ⟨_ | tok, rest⟩ := x
  · cases s.groups.isEmpty <;> rfl
  · dsimp only
    rw [Option.bind_map]
    rfl

theorem read_of_none (h : (token s.verbose).out cs = some (none, rest)) :
    s.read cs = if s.groups = [] then some (s.level.toExpr, rest) else none := by
  rw [read_eq, h]
  simp [List.isEmpty_iff]

theorem read_of_some {tok : Token} (h : (token s.verbose).out cs = some (some tok, rest))
    (htake : s.take? tok = some s') (hlt : rest.length < cs.length) : s.read cs = s'.read rest := by
  rw [read_eq, h]
  simp [htake, hlt]

/-- A tail behind the text is read after it, whichever groups are open around the text. -/
def GoesOn (s : Progress) (cs : List Char) (e : Expr) : Prop :=
  ∃ last : Progress, last.groups = [] ∧ last.level.toExpr = e ∧
    ∀ t, IsTail t → ∀ gs, (s.under gs).read (cs ++ t) = (last.under gs).read t

/-- A tail behind the text is swallowed, so that groups around the text stay open. -/
def Swallows (s : Progress) (cs : List Char) (e : Expr) : Prop :=
  ∀ t, IsTail t → ∀ gs, (s.under gs).read (cs ++ t) = if gs = [] then some (e, []) else none

/-- At the end no group may be open. -/
theorem read_nil : s.read [] = if s.groups = [] then some (s.level.toExpr, []) else none := by
  refine read_of_none (out_token_eq_none_iff.mpr ⟨?_, rfl⟩)
  cases s.verbose <;> rfl

/-- A tail is read after blanks as it is read without them. -/
theorem read_append_of_none (h : (token s.verbose).out (cs ++ t) = (token s.verbose).out t)
    (ht : IsTail t) : s.read (cs ++ t) = s.read t := by
  obtain ⟨u, rfl, htail⟩ := token_tail s.verbose ht
  have hlt : u.length < (cs ++ ')' :: u).length := by
    simp only [List.length_append, List.length_cons]
    omega
  rw [read_eq, read_eq, h, htail]
  simp only [Option.bind_some, if_pos hlt, List.length_cons, Nat.lt_succ_self, if_true]

/-- What follows an expression is read after it, unless a comment swallows it. -/
theorem read_append (h : s.read cs = some (e, rest)) :
    rest = [] ∧ (s.GoesOn cs e ∨ '#' ∈ cs ∧ s.Swallows cs e) := by
  induction hlength : cs.length using Nat.strongRecOn generalizing s cs with
  | ind n ih =>
    have hread := h
    rw [read_eq, Option.bind_eq_some_iff] at hread
    obtain ⟨⟨o, mid⟩, htoken, hread⟩ := hread
    cases o with
    | none =>
      rw [read_of_none htoken, Option.ite_none_right_eq_some] at h
      obtain ⟨hgroups, heq⟩ := h
      cases heq
      obtain ⟨-, hnil⟩ := out_token_eq_none_iff.mp htoken
      refine ⟨hnil, (token_append_of_none htoken).imp (fun happend => ?_)
        fun ⟨hcomment, happend⟩ => ⟨hcomment, fun t ht gs => ?_⟩⟩
      · exact ⟨s, hgroups, rfl, fun t ht gs => read_append_of_none (happend t ht) ht⟩
      · rw [read_of_none (s := s.under gs) (happend t ht), under_groups, hgroups]
        rfl
    | some tok =>
      obtain ⟨s', htake, hread⟩ := Option.bind_eq_some_iff.mp hread
      obtain ⟨hlt, hread⟩ := Option.ite_none_right_eq_some.mp hread
      obtain ⟨hmid, htail⟩ := extendsAt_token htoken _ mid htoken
      obtain ⟨hnil, hmore⟩ := ih mid.length (hlength ▸ hlt) hread rfl
      refine ⟨hnil, ?_⟩
      rcases htail with htail | ⟨rfl, hcomment, htail⟩
      · have hstep : ∀ t, IsTail t → ∀ gs,
            (s.under gs).read (cs ++ t) = (s'.under gs).read (mid ++ t) := fun t ht gs =>
          read_of_some (htail t ht) (take?_under htake gs) (by simpa using hlt)
        refine hmore.imp (fun ⟨last, hgroups, he, hlast⟩ => ⟨last, hgroups, he, fun t ht gs => ?_⟩)
          fun ⟨hcomment, hswallow⟩ => ⟨hmid _ hcomment, fun t ht gs => ?_⟩
        · rw [hstep t ht gs, hlast t ht gs]
        · rw [hstep t ht gs, hswallow t ht gs]
      · -- The comment behind the token reaches to the end.
        rw [read_nil, Option.ite_none_right_eq_some] at hread
        obtain ⟨hgroups, heq⟩ := hread
        cases heq
        refine .inr ⟨hcomment, fun t ht gs => ?_⟩
        have hlonger : ([] : List Char).length < (cs ++ t).length := by
          rw [List.length_append]
          exact Nat.lt_of_lt_of_le hlt (Nat.le_add_right _ _)
        rw [read_of_some (s := s.under gs) (htail t ht) (take?_under htake gs) hlonger, read_nil,
          under_groups, hgroups]
        rfl

end Progress

end DraftSchema.Regex
