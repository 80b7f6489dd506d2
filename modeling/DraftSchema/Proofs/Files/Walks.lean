import DraftSchema.Files.Tree
import Mathlib.Data.List.Infix
import Mathlib.Data.List.Count
import Mathlib.Data.List.Basic

/-!
# `DraftSchema.Proofs.Files.Walks`: where paths lead in a tree

A path is followed component by component, so a path behind a path is followed from where the
first one leads. A walk goes down with every name and up with every `..`. If on the way it was
never led up more often than down (`StaysWithin`), it ends below the place where it started,
at names that have been components of the path. The theorems:

* `components_append_slash`: the components of two paths with a slash in between.
* `walk_append`: a walk in two parts.
* `walk_of_staysWithin`: a walk that stays within ends at its start or below it.
* `exists_place_of_find`: what is found on a path is at the place that its components lead to.
* `inside_of_staysWithin`: a path behind that of a directory leads inside, if it stays within.
-/

set_option autoImplicit false

namespace DraftSchema.Files

/-! ### Components -/

theorem components_ne_nil (path : Path) : components path ≠ [] := by
  cases path with
  | nil => simp [components]
  | cons b rest =>
    rw [components]
    split
    · simp
    · split <;> simp

/-- A slash ends a component. -/
theorem components_slash_cons (rest : Path) :
    components (slash :: rest) = [] :: components rest := by
  rw [components]
  split
  · rename_i hnil
    exact absurd hnil (components_ne_nil rest)
  · rename_i name more hrest
    rw [if_pos rfl, hrest]

/-- Another byte belongs to the component that follows. -/
theorem components_cons_of_ne {b : UInt8} (h : b ≠ slash) (rest : Path) :
    ∃ name more, components rest = name :: more ∧ components (b :: rest) = (b :: name) :: more := by
  rcases hrest : components rest with _ | ⟨name, more⟩
  · exact absurd hrest (components_ne_nil rest)
  · refine ⟨name, more, rfl, ?_⟩
    rw [components, hrest]
    exact if_neg h

/-- Two paths with a slash in between have the components of both. -/
theorem components_append_slash (p q : Path) :
    components (p ++ slash :: q) = components p ++ components q := by
  induction p with
  | nil =>
    show components (slash :: q) = [] :: components q
    exact components_slash_cons q
  | cons b rest ih =>
    by_cases hslash : b = slash
    · rw [hslash, List.cons_append, components_slash_cons, components_slash_cons, ih,
        List.cons_append]
    · obtain ⟨name, more, hrest, hpath⟩ := components_cons_of_ne hslash rest
      obtain ⟨name', more', hrest', hpath'⟩ := components_cons_of_ne hslash (rest ++ slash :: q)
      rw [hrest, hrest', List.cons_append] at ih
      obtain ⟨rfl, rfl⟩ := List.cons.inj ih
      rw [List.cons_append, hpath, hpath', List.cons_append]

/-- What is put behind a path, without slashes, is put behind its last component. -/
theorem components_append_of_noSlash (p : Path) {ending : Path} (h : slash ∉ ending) :
    ∃ front last, components p = front ++ [last] ∧
      components (p ++ ending) = front ++ [last ++ ending] := by
  induction p with
  | nil =>
    refine ⟨[], [], rfl, ?_⟩
    show components ending = [ending]
    induction ending with
    | nil => rfl
    | cons b rest ih =>
      rw [List.mem_cons, not_or] at h
      obtain ⟨name, more, hrest, hpath⟩ := components_cons_of_ne (Ne.symm h.1) rest
      rw [ih h.2] at hrest
      obtain ⟨rfl, rfl⟩ := List.cons.inj hrest
      rw [hpath]
  | cons b rest ih =>
    obtain ⟨front, last, hrest, hboth⟩ := ih
    by_cases hslash : b = slash
    · refine ⟨[] :: front, last, ?_, ?_⟩
      · rw [hslash, components_slash_cons, hrest, List.cons_append]
      · rw [hslash, List.cons_append, components_slash_cons, hboth, List.cons_append]
    · obtain ⟨name, more, hname, hpath⟩ := components_cons_of_ne hslash rest
      obtain ⟨name', more', hname', hpath'⟩ := components_cons_of_ne hslash (rest ++ ending)
      rw [List.cons_append, hpath, hpath']
      rw [hrest] at hname
      rw [hboth] at hname'
      cases front with
      | nil =>
        obtain ⟨rfl, rfl⟩ := List.cons.inj hname
        obtain ⟨rfl, rfl⟩ := List.cons.inj hname'
        exact ⟨[], b :: last, rfl, rfl⟩
      | cons first front =>
        obtain ⟨rfl, rfl⟩ := List.cons.inj hname
        obtain ⟨rfl, rfl⟩ := List.cons.inj hname'
        exact ⟨(b :: first) :: front, last, rfl, rfl⟩

/-- No component has a slash. -/
theorem slash_not_mem_of_mem_components {path : Path} {name : Name}
    (h : name ∈ components path) : slash ∉ name := by
  induction path generalizing name with
  | nil =>
    rw [List.mem_singleton.mp h]
    exact List.not_mem_nil
  | cons b rest ih =>
    by_cases hslash : b = slash
    · rw [hslash, components_slash_cons, List.mem_cons] at h
      rcases h with rfl | h
      · exact List.not_mem_nil
      · exact ih h
    · obtain ⟨first, more, hrest, hpath⟩ := components_cons_of_ne hslash rest
      rw [hpath, List.mem_cons] at h
      rcases h with rfl | h
      · have hfirst : slash ∉ first := ih (hrest ▸ List.mem_cons_self)
        rw [List.mem_cons, not_or]
        exact ⟨fun heq => hslash heq.symm, hfirst⟩
      · exact ih (hrest ▸ List.mem_cons_of_mem first h)

/-- The component is the name of something in a directory. -/
def IsName (name : Name) : Prop := name ≠ [] ∧ name ≠ here ∧ name ≠ up ∧ slash ∉ name

instance (name : Name) : Decidable (IsName name) := inferInstanceAs (Decidable (_ ∧ _))

/-- No leading part of the components leads up more often than it leads down. -/
def StaysWithin (names : List Name) : Prop :=
  ∀ leading ∈ names.inits, leading.count up ≤ leading.countP (IsName ·)

instance (names : List Name) : Decidable (StaysWithin names) :=
  inferInstanceAs (Decidable (∀ leading ∈ names.inits, _))

/-! ### Walks -/

namespace Tree

variable {tree : Tree}

/-- A walk in two parts: the second part starts where the first one ends. -/
theorem walk_append (tree : Tree) (place : List Name) (cs ds : List Name) :
    tree.walk place (cs ++ ds) = (tree.walk place cs).bind fun mid => tree.walk mid ds := by
  induction cs generalizing place with
  | nil => rfl
  | cons name rest ih =>
    rw [List.cons_append, walk, walk]
    split
    · rfl
    · split
      · exact ih place
      · split
        · exact ih _
        · split
          · rfl
          · split
            · rfl
            · exact ih _

/-- A step of a walk starts in a directory. It leads nowhere else, up, or down to something
with the name. -/
theorem walk_cons {place final : List Name} {name : Name} {rest : List Name}
    (h : tree.walk place (name :: rest) = .ok final) :
    (name = [] ∨ name = here) ∧ tree.walk place rest = .ok final ∨
      name = up ∧ tree.walk place.dropLast rest = .ok final ∨
      (name ≠ [] ∧ name ≠ here ∧ name ≠ up) ∧ tree.walk (place ++ [name]) rest = .ok final := by
  rw [walk] at h
  split at h
  · cases h
  · split at h
    · rename_i hstay
      exact .inl ⟨hstay, h⟩
    · rename_i hmove
      rw [not_or] at hmove
      split at h
      · rename_i hup
        exact .inr (.inl ⟨hup, h⟩)
      · rename_i hdown
        split at h
        · cases h
        · split at h
          · cases h
          · exact .inr (.inr ⟨⟨hmove.1, hmove.2, hdown⟩, h⟩)

/-- Let a walk go on from some names below its start, and lead up at most as often as there are
names to leave. Then it ends at some names below its start. -/
theorem walk_below {start inner names final : List Name} (hinner : ∀ n ∈ inner, IsName n)
    (hslash : ∀ n ∈ names, slash ∉ n)
    (hstays : ∀ leading ∈ names.inits,
      leading.count up ≤ inner.length + leading.countP (IsName ·))
    (h : tree.walk (start ++ inner) names = .ok final) :
    ∃ below, (∀ n ∈ below, IsName n) ∧ final = start ++ below := by
  induction names generalizing inner with
  | nil =>
    cases h
    exact ⟨inner, hinner, rfl⟩
  | cons name rest ih =>
    rw [List.forall_mem_cons] at hslash
    have hleading : ∀ leading ∈ rest.inits,
        (name :: leading).count up ≤ inner.length + (name :: leading).countP (IsName ·) := by
      intro leading hmem
      refine hstays (name :: leading) ?_
      rw [List.mem_inits] at hmem ⊢
      exact List.cons_prefix_cons.mpr ⟨rfl, hmem⟩
    rcases walk_cons h with ⟨hstay, hrest⟩ | ⟨hup, hrest⟩ | ⟨hdown, hrest⟩
    · -- An empty component and a single point count for nothing.
      have hne : name ≠ up := by
        rintro rfl
        rcases hstay with h | h <;> cases h
      have hname : ¬ IsName name := fun hname => hstay.elim hname.1 hname.2.1
      refine ih hinner hslash.2 ?_ hrest
      intro leading hmem
      have hcount := hleading leading hmem
      rw [List.count_cons_of_ne hne, List.countP_cons_of_neg (by simpa using hname)] at hcount
      exact hcount
    · subst hup
      have hname : ¬ IsName up := fun hname => hname.2.2.1 rfl
      have hone := hleading [] ((List.mem_inits _ _).mpr List.nil_prefix)
      rw [List.count_cons_self, List.countP_cons_of_neg (by simpa using hname)] at hone
      have hnonempty : inner ≠ [] := by
        rintro rfl
        simp at hone
      rw [List.dropLast_append_of_ne_nil hnonempty] at hrest
      refine ih (fun n hn => hinner n (List.mem_of_mem_dropLast hn)) hslash.2 ?_ hrest
      intro leading hmem
      have hcount := hleading leading hmem
      rw [List.count_cons_self, List.countP_cons_of_neg (by simpa using hname)] at hcount
      rw [List.length_dropLast]
      omega
    · have hname : IsName name := ⟨hdown.1, hdown.2.1, hdown.2.2, hslash.1⟩
      rw [List.append_assoc] at hrest
      refine ih ?_ hslash.2 ?_ hrest
      · intro n hn
        rcases List.mem_append.mp hn with hn | hn
        · exact hinner n hn
        · rw [List.mem_singleton.mp hn]
          exact hname
      · intro leading hmem
        have hcount := hleading leading hmem
        rw [List.count_cons_of_ne hdown.2.2, List.countP_cons_of_pos (by simpa using hname)]
          at hcount
        rw [List.length_append, List.length_singleton]
        omega

/-- A walk that stays within ends at its start or below it. -/
theorem walk_of_staysWithin {start final : List Name} {path : Path}
    (hstays : StaysWithin (components path))
    (h : tree.walk start (components path) = .ok final) :
    ∃ below, (∀ n ∈ below, IsName n) ∧ final = start ++ below := by
  have hstart : tree.walk (start ++ []) (components path) = .ok final := by
    rw [List.append_nil]
    exact h
  refine walk_below (by simp) (fun n => slash_not_mem_of_mem_components) ?_ hstart
  intro leading hmem
  rw [List.length_nil, Nat.zero_add]
  exact hstays leading hmem

/-! ### What is found -/

/-- The place where a path starts. -/
def startOf (tree : Tree) (path : Path) : List Name :=
  if isAbsolute path then [] else tree.workingDirectory

/-- What is found on a path is at the place that its components lead to. -/
theorem exists_place_of_find {path : Path} {found : Found} (h : tree.find path = .ok found) :
    path ≠ [] ∧ ∃ place, tree.walk (tree.startOf path) (components path) = .ok place ∧
      tree.content? place = some found.content ∧ found.canonical = pathTo place := by
  unfold find at h
  split at h
  · cases h
  · split at h
    · cases h
    · rename_i hempty
      refine ⟨fun hnil => hempty (List.isEmpty_iff.mpr hnil), ?_⟩
      split at h
      · cases h
      · rcases hwalk : tree.walk (tree.startOf path) (components path) with e | place
        · rw [startOf] at hwalk
          rw [hwalk] at h
          cases h
        · refine ⟨place, rfl, ?_⟩
          rw [startOf] at hwalk
          rw [hwalk] at h
          simp only [bind, Except.bind] at h
          split at h
          · rename_i content hcontent
            cases h
            exact ⟨hcontent, rfl⟩
          · cases h

end Tree

/-- The second canonical path leads inside the directory with the first one, at any depth. -/
def Inside (directory file : Path) : Prop :=
  ∃ place below, directory = Tree.pathTo place ∧ file = Tree.pathTo (place ++ below) ∧
    below ≠ [] ∧ ∀ n ∈ below, IsName n

section

variable {tree : Tree} {front base path name directory file : Path} {bytes : ByteArray}

/-- A path behind that of a directory starts where this one does. -/
theorem startOf_behind (hbase : base = front ∨ base = front ++ [slash]) (hne : base ≠ [])
    (hpath : path = front ++ slash :: name) : tree.startOf path = tree.startOf base := by
  have hhead : path.head? = base.head? := by
    cases front with
    | nil =>
      rcases hbase with rfl | rfl
      · exact absurd rfl hne
      · rw [hpath]
        rfl
    | cons b rest =>
      rcases hbase with rfl | rfl
      · rw [hpath]
        rfl
      · rw [hpath]
        rfl
  unfold Tree.startOf isAbsolute
  rw [hhead]

/-- A path behind that of a directory is followed from where this one leads. A slash at the
end of the first path makes no difference. -/
theorem walk_behind (hbase : base = front ∨ base = front ++ [slash]) {start place final : List Name}
    (hdir : tree.walk start (components base) = .ok place)
    (hfile : tree.walk start (components (front ++ slash :: name)) = .ok final) :
    tree.walk place (components name) = .ok final := by
  have hfront : tree.walk start (components front) = .ok place := by
    rcases hbase with rfl | rfl
    · exact hdir
    · rw [components_append_slash, Tree.walk_append] at hdir
      rcases hmid : tree.walk start (components front) with e | mid
      · rw [hmid] at hdir
        cases hdir
      · rw [hmid] at hdir
        -- The empty component behind the slash leads nowhere else.
        have hlast : tree.walk mid [[]] = .ok place := hdir
        rcases Tree.walk_cons hlast with ⟨-, hend⟩ | ⟨hup, -⟩ | ⟨hdown, -⟩
        · cases hend
          rfl
        · cases hup
        · exact absurd rfl hdown.1
  rw [components_append_slash, Tree.walk_append, hfront] at hfile
  exact hfile

/-- A file on a path behind that of a directory is inside this one, if the path behind it stays
within. -/
theorem inside_of_staysWithin (hbase : base = front ∨ base = front ++ [slash])
    (hpath : path = front ++ slash :: name)
    (hdir : tree.find base = .ok ⟨directory, .directory⟩)
    (hfile : tree.find path = .ok ⟨file, .file bytes⟩)
    (hstays : StaysWithin (components name)) : Inside directory file := by
  obtain ⟨hne, place, hplace, hisDirectory, rfl⟩ := Tree.exists_place_of_find hdir
  obtain ⟨-, final, hfinal, hisFile, rfl⟩ := Tree.exists_place_of_find hfile
  rw [startOf_behind hbase hne hpath, hpath] at hfinal
  obtain ⟨below, hnames, rfl⟩ := Tree.walk_of_staysWithin hstays (walk_behind hbase hplace hfinal)
  refine ⟨place, below, rfl, rfl, ?_, hnames⟩
  -- One place does not have a directory and a file.
  rintro rfl
  rw [List.append_nil, hisDirectory] at hisFile
  cases hisFile

end

/-! ### Texts of paths -/

/-- The bytes from a position on, behind those that were met before it. -/
theorem toList_loop (bytes : ByteArray) (i : Nat) (before : List UInt8) :
    ByteArray.toList.loop bytes i before = before.reverse ++ bytes.data.toList.drop i := by
  induction i, before using ByteArray.toList.loop.induct bytes with
  | case1 i before h ih =>
    have hi : i < bytes.data.toList.length := h
    have hget : bytes.get! i = bytes.data.toList[i] := getElem!_pos bytes.data i h
    rw [ByteArray.toList.loop, if_pos h, ih, List.drop_eq_getElem_cons hi, List.reverse_cons,
      List.append_assoc, hget]
    rfl
  | case2 i before h =>
    have hi : bytes.data.toList.length ≤ i := Nat.le_of_not_lt h
    rw [ByteArray.toList.loop, if_neg h, List.drop_eq_nil_of_le hi, List.append_nil]

/-- The path with a text is its encoding. -/
theorem pathOf_eq (s : String) : pathOf s = s.toByteArray.data.toList := by
  show ByteArray.toList.loop s.toByteArray 0 [] = _
  rw [toList_loop]
  rfl

/-- The path with two texts one after the other has the bytes of both. -/
theorem pathOf_append (s t : String) : pathOf (s ++ t) = pathOf s ++ pathOf t := by
  rw [pathOf_eq, pathOf_eq, pathOf_eq, String.toByteArray_append, ByteArray.toList_data_append]

/-- The path to a name in a directory is that of the directory, a slash and the name, unless
the name is a path from the root. -/
theorem exists_pathOf_join {base name : String} (hbase : pathOf base ≠ [])
    (hname : isAbsolute (pathOf name) = false) :
    ∃ front, (pathOf base = front ∨ pathOf base = front ++ [slash]) ∧
      pathOf (join base name) = front ++ slash :: pathOf name := by
  have hslash : pathOf "/" = [slash] := pathOf_eq "/"
  rw [join, if_neg (by simp [hname])]
  rcases hlast : base.toList.getLast? with _ | c
  · rw [List.getLast?_eq_none_iff, String.toList_eq_nil_iff] at hlast
    subst hlast
    exact absurd (pathOf_eq "") hbase
  · by_cases hc : c = '/'
    · obtain ⟨front, hfront⟩ := List.getLast?_eq_some_iff.mp hlast
      have htext : base = String.ofList front ++ "/" := by
        rw [← String.ofList_toList (s := base), hfront, String.ofList_append, hc]
      refine ⟨pathOf (String.ofList front), .inr ?_, ?_⟩
      · rw [htext, pathOf_append, hslash]
      · simp only [if_pos hc]
        rw [htext, pathOf_append, pathOf_append, hslash, List.append_assoc]
        rfl
    · refine ⟨pathOf base, .inl rfl, ?_⟩
      simp only [if_neg hc]
      rw [pathOf_append, pathOf_append, hslash, List.append_assoc]
      rfl

end DraftSchema.Files
