import DraftSchema.Reference
import DraftSchema.Url.File
import Mathlib.Data.List.DropRight

/-!
# `DraftSchema.Proofs.Url.Fragments`: fragments behind references

A fragment may be put behind a reference that has none and whose end is not blank (`IsBare`). The
two texts are read alike but for the fragment, since the fragment is cut off first. There are two
exceptions. The fragment alone may be resolved against an opaque base, and the empty text may not;
and an authority that is nothing but an at sign must not be followed by anything. Neither concerns
locations that can be fetched: those have an authority (`IsProper`), and one with a host. The
theorems:

* `Reference.exists_ofText_append`: the parts of the two texts.
* `document?_ofReference`: they name the same document, if it can be fetched.
* `isProper_parse`, `isProper_join` and `isProper_ofFilePath`: what is read has an authority if it
  needs one.
* `Reference.toOption_resolve_append`: the two references are resolved to the same location, or
  neither is.
-/

set_option autoImplicit false

namespace DraftSchema

namespace Url

/-! ### Locations -/

/-- The location with a fragment, in the place of the one that it may have. -/
def withFragment (u : Url) (fragment : String) : Url := { u with fragment := some fragment }

@[simp] theorem withoutFragment_withFragment (u : Url) (fragment : String) :
    (u.withFragment fragment).withoutFragment = u.withoutFragment := rfl

/-- A location with a special scheme has an authority. -/
def IsProper (u : Url) : Prop := isSpecialScheme u.scheme → u.authority.isSome

theorem IsProper.withoutFragment {u : Url} (h : u.IsProper) : u.withoutFragment.IsProper := h

theorem isSpecialScheme_of_isFetchable {u : Url} (h : u.isFetchable) :
    isSpecialScheme u.scheme := by
  have hscheme : u.scheme = "file" ∨ u.scheme = "http" ∨ u.scheme = "https" := by
    simpa [isFetchable, fetchableSchemes] using h
  obtain heq | heq | heq := hscheme
  all_goals
    rw [heq]
    rfl

/-- Anything can be resolved against a location that can be fetched. -/
theorem IsProper.isOpaque_eq_false {u : Url} (h : u.IsProper) (hfetchable : u.isFetchable) :
    u.isOpaque = false := by
  obtain ⟨a, ha⟩ := Option.isSome_iff_exists.mp (h (isSpecialScheme_of_isFetchable hfetchable))
  rw [isOpaque, ha]
  rfl

/-! ### Texts

A mark that is no blank ends what is dropped in front of it, and so does it from behind. -/

/-- A text behind which a fragment can be put: it has none, and no blank at its end would be
dropped. -/
structure IsBare (text : String) : Prop where
  noMark : '#' ∉ text.toList
  keepsEnd : ∀ c, text.toList.getLast? = some c → isTrimmed c = false

/-- The text without the blanks around it. -/
def trim (cs : List Char) : List Char := (cs.dropWhile isTrimmed).rdropWhile isTrimmed

theorem dropWhile_append_mark {p : Char → Bool} {mark : Char} (h : p mark = false)
    (cs more : List Char) :
    (cs ++ mark :: more).dropWhile p = cs.dropWhile p ++ mark :: more := by
  rw [List.dropWhile_append, List.dropWhile_cons_of_neg (by simp [h])]
  split
  · rename_i hnil
    rw [List.isEmpty_iff.mp hnil, List.nil_append]
  · rfl

/-- Where the end is not blank, only the front is. -/
theorem trim_eq {cs : List Char} (h : ∀ c, cs.getLast? = some c → isTrimmed c = false) :
    trim cs = cs.dropWhile isTrimmed := by
  refine List.rdropWhile_eq_self_iff.mpr fun hne => ?_
  have hlast : cs.getLast? = some ((cs.dropWhile isTrimmed).getLast hne) :=
    calc cs.getLast? = (cs.takeWhile isTrimmed ++ cs.dropWhile isTrimmed).getLast? := by
          rw [List.takeWhile_append_dropWhile]
      _ = some ((cs.dropWhile isTrimmed).getLast hne) := by
          rw [List.getLast?_append, List.getLast?_eq_getLast_of_ne_nil hne]
          rfl
  simp [h _ hlast]

/-- Behind a mark the end of what stands in front of it is kept. -/
theorem exists_trim_append (cs more : List Char) :
    ∃ kept, trim (cs ++ '#' :: more) = cs.dropWhile isTrimmed ++ '#' :: kept := by
  have hmark : isTrimmed '#' = false := rfl
  refine ⟨more.rdropWhile isTrimmed, ?_⟩
  unfold trim List.rdropWhile
  rw [dropWhile_append_mark hmark, List.reverse_append, List.reverse_cons, List.append_assoc,
    List.singleton_append, dropWhile_append_mark hmark, List.reverse_append, List.reverse_cons,
    List.reverse_reverse, List.append_assoc, List.singleton_append]

section

variable {mark : Char} {cs : List Char} (h : mark ∉ cs)

include h

theorem forall_ne_of_not_mem : ∀ c ∈ cs, decide (c ≠ mark) = true := by
  intro c hc
  rw [decide_eq_true_eq]
  rintro rfl
  exact h hc

theorem cutAtFirst_append (more : List Char) :
    cutAtFirst mark (cs ++ mark :: more) = (cs, some more) := by
  unfold cutAtFirst
  rw [List.dropWhile_append_of_pos (forall_ne_of_not_mem h),
    List.takeWhile_append_of_pos (forall_ne_of_not_mem h)]
  simp

theorem cutAtFirst_of_not_mem : cutAtFirst mark cs = (cs, none) := by
  unfold cutAtFirst
  rw [List.dropWhile_eq_nil_iff.mpr (forall_ne_of_not_mem h)]

end

namespace Reference

/-- The parts of a text with a fragment behind them. -/
def withFragment (r : Reference) (fragment : List Char) : Reference :=
  { r with fragment := some fragment }

variable {text : String} (h : IsBare text)

theorem ofText_eq (text : String) :
    ofText text =
      let (front, fragment) := cutAtFirst '#' ((trim text.toList).filter (!isIgnored ·))
      ⟨(cutAtFirst '?' front).1, (cutAtFirst '?' front).2, fragment⟩ := rfl

include h

theorem mark_not_mem : '#' ∉ (text.toList.dropWhile isTrimmed).filter (!isIgnored ·) :=
  fun hmem => h.noMark ((List.dropWhile_suffix isTrimmed).subset (List.mem_filter.mp hmem).1)

theorem fragment_ofText : (ofText text).fragment = none := by
  rw [ofText_eq, trim_eq h.keepsEnd, cutAtFirst_of_not_mem (mark_not_mem h)]

/-- With a fragment behind it a text has the same parts, and the fragment. -/
theorem exists_ofText_append (fragment : String) :
    ∃ f, ofText (text ++ "#" ++ fragment) = (ofText text).withFragment f := by
  have htext : (text ++ "#" ++ fragment).toList = text.toList ++ '#' :: fragment.toList := by
    simp
  obtain ⟨kept, hkept⟩ := exists_trim_append text.toList fragment.toList
  have hmark : ('#' :: kept).filter (!isIgnored ·) = '#' :: kept.filter (!isIgnored ·) := rfl
  refine ⟨kept.filter (!isIgnored ·), ?_⟩
  rw [ofText_eq, ofText_eq, htext, hkept, List.filter_append, hmark,
    cutAtFirst_append (mark_not_mem h), trim_eq h.keepsEnd, cutAtFirst_of_not_mem (mark_not_mem h)]
  rfl

end Reference

/-! ### Documents

Two results are compared by the document that they name. For all but the authority the fragment
of a text is only copied to the result, where it does not count. -/

/-- The document that a result names, if it can be fetched. -/
def document? : Except Error Url → Option Url
  | .ok u => if u.isFetchable then some u.withoutFragment else none
  | .error _ => none

/-- Locations whose scheme is not special name no document. -/
theorem document?_eq_none {x : Except Error Url}
    (h : ∀ u, x = .ok u → isSpecialScheme u.scheme = false) : document? x = none := by
  rcases x with e | u
  · rfl
  · have hplain : isSpecialScheme u.scheme = false := h u rfl
    refine if_neg fun hfetchable => ?_
    rw [isSpecialScheme_of_isFetchable hfetchable] at hplain
    cases hplain

/-- What follows an authority matters only if the authority is a lone at sign. -/
theorem cutUserinfo_continues (special : Bool) (cs : List Char) :
    cutUserinfo special true cs = cutUserinfo special false cs ∨
      (cutUserinfo special true cs = .error .emptyHost ∧
        cutUserinfo special false cs = .ok ([], [])) := by
  unfold cutUserinfo
  simp only
  generalize cs.takeWhile (!isSlash special ·) = authority
  generalize (authority.reverse.takeWhile (· ≠ '@')).reverse = host
  generalize authority.take (authority.length - host.length - 1) = user
  split
  · rcases user with _ | ⟨c, user⟩
    · rcases host with _ | ⟨c, host⟩
      · rcases cs.dropWhile (!isSlash special ·) with _ | ⟨c, path⟩
        · exact .inr ⟨rfl, rfl⟩
        · exact .inl rfl
      · exact .inl rfl
    · exact .inl rfl
  · exact .inl rfl

section

variable {scheme : String} {r : Reference} {fragment cs : List Char} {u base : Url}

/-- The host of a special scheme must not be empty in any case. -/
theorem cutAuthority_continues (h : isSpecialScheme scheme) (continues : Bool) :
    cutAuthority scheme continues cs = cutAuthority scheme false cs := by
  cases continues with
  | false => rfl
  | true =>
    obtain hsame | ⟨herror, hok⟩ := cutUserinfo_continues (isSpecialScheme scheme) cs
    · simp only [cutAuthority, hsame]
    · simp only [cutAuthority, herror, hok]
      simp only [bind, Except.bind, cutAtFirst, hostLength, List.dropWhile_nil, List.take_nil, h,
        if_true]

/-- What follows two slashes starts with an authority. -/
theorem afterSlashes_eq_ok (h : afterSlashes scheme r cs = .ok u) :
    u.scheme = scheme ∧ u.authority.isSome := by
  unfold afterSlashes at h
  rcases hcut : cutAuthority scheme r.continues cs with e | ⟨authority, rest⟩
  · simp [hcut, bind, Except.bind] at h
  · simp only [hcut, bind, Except.bind, pure, Except.pure, Except.ok.injEq] at h
    subst h
    exact ⟨rfl, rfl⟩

theorem scheme_of_afterPlainScheme (h : afterPlainScheme scheme r cs = .ok u) :
    u.scheme = scheme := by
  unfold afterPlainScheme at h
  dsimp only at h
  split at h
  · exact (afterSlashes_eq_ok h).1
  · cases h
    rfl
  · cases h
    rfl

theorem document?_afterSlashes :
    document? (afterSlashes scheme (r.withFragment fragment) cs)
      = document? (afterSlashes scheme r cs) := by
  rcases hspecial : isSpecialScheme scheme
  · have hnone : ∀ r, document? (afterSlashes scheme r cs) = none := fun r =>
      document?_eq_none fun u hu => by rw [(afterSlashes_eq_ok hu).1, hspecial]
    rw [hnone, hnone]
  · simp only [afterSlashes, cutAuthority_continues hspecial]
    rcases cutAuthority scheme false cs with e | ⟨authority, rest⟩
    · rfl
    · rfl

theorem document?_afterPlainScheme (h : isSpecialScheme scheme = false) :
    document? (afterPlainScheme scheme r cs) = none :=
  document?_eq_none fun u hu => by rw [scheme_of_afterPlainScheme hu, h]

theorem document?_relativeTo :
    document? (relativeTo base (r.withFragment fragment) cs)
      = document? (relativeTo base r cs) := by
  unfold relativeTo
  rcases cs with _ | ⟨c, rest⟩
  · rfl
  · dsimp only
    split
    · split
      · split
        · exact document?_afterSlashes
        · exact document?_afterSlashes
      · rfl
    · rfl

theorem document?_fileAfterSlashes :
    document? (fileAfterSlashes (r.withFragment fragment) cs)
      = document? (fileAfterSlashes r cs) := by
  unfold fileAfterSlashes
  dsimp only
  split
  · rfl
  · rcases fileHost (cs.takeWhile (!isSlash true ·)) with e | host
    · rfl
    · rfl

theorem document?_fromRoot (base : Option Url) :
    document? (.ok (fileRelativeTo.fromRoot base (r.withFragment fragment) cs))
      = document? (.ok (fileRelativeTo.fromRoot base r cs)) := by
  unfold fileRelativeTo.fromRoot
  dsimp only
  split
  · rfl
  · split
    · rfl
    · rfl

theorem document?_relative (base : Option Url) :
    document? (.ok (fileRelativeTo.relative base (r.withFragment fragment) cs))
      = document? (.ok (fileRelativeTo.relative base r cs)) := by
  unfold fileRelativeTo.relative
  rcases base with _ | base
  · rfl
  · dsimp only
    split
    · rfl
    · split
      · rfl
      · rfl

theorem document?_fileRelativeTo (base : Option Url) :
    document? (fileRelativeTo base (r.withFragment fragment) cs)
      = document? (fileRelativeTo base r cs) := by
  unfold fileRelativeTo
  split
  · split
    · split
      · split
        · exact document?_fileAfterSlashes
        · exact document?_fromRoot base
      · exact document?_fromRoot base
    · exact document?_relative base
  · exact document?_relative base

/-- The empty reference names its own document. Against an opaque base it cannot be resolved, but
such a base names no document that can be fetched. -/
theorem document?_ofReference_empty (hbase : base.IsProper) (hmain : r.main = [])
    (hquery : r.query = none) (hnone : r.fragment = none) :
    document? (ofReference (some base) r) = document? (.ok base) := by
  have hencoded : ∀ special, r.encodedQuery special = none := fun special => by
    rw [Reference.encodedQuery, hquery]
    rfl
  unfold ofReference
  rw [hmain, hquery, hnone]
  show document? (if base.isOpaque then .error .opaqueBase
    else if base.scheme = "file" then fileRelativeTo (some base) r [] else relativeTo base r [])
      = document? (.ok base)
  split
  · rename_i hopaque
    refine (if_neg fun hfetchable => ?_).symm
    rw [hbase.isOpaque_eq_false hfetchable] at hopaque
    cases hopaque
  · split
    · show document? (.ok { base with
        query := r.encodedQuery true <|> base.query, fragment := r.encodedFragment }) = _
      rw [hencoded]
      rfl
    · show document? (.ok { base with
        query := r.encodedQuery _ <|> base.query, fragment := r.encodedFragment }) = _
      rw [hencoded]
      rfl

/-- A reference names the same document with a fragment as without. -/
theorem document?_ofReference (hbase : base.IsProper) (hnone : r.fragment = none) :
    document? (ofReference (some base) (r.withFragment fragment))
      = document? (ofReference (some base) r) := by
  have hmain : (r.withFragment fragment).main = r.main := rfl
  have hquery : (r.withFragment fragment).query = r.query := rfl
  rcases hscheme : cutScheme? r.main with _ | ⟨scheme, rest⟩
  · by_cases hempty : r.main = [] ∧ r.query = none
    · obtain ⟨hnil, hplain⟩ := hempty
      rw [document?_ofReference_empty hbase hnil hplain hnone]
      unfold ofReference
      rw [hmain, hquery, hnil, hplain]
      rfl
    · -- Only where nothing else stands in front of it does a fragment decide.
      have hwith : (r.main.isEmpty && r.query.isNone && (r.withFragment fragment).fragment.isSome)
          = false := by
        simpa [Reference.withFragment, Option.isSome_iff_ne_none] using hempty
      unfold ofReference
      rw [hmain, hquery, hscheme]
      dsimp only
      rw [hwith, hnone, Option.isSome_none, Bool.and_false]
      simp only [Bool.false_eq_true, if_false]
      split
      · rfl
      · split
        · exact document?_fileRelativeTo (some base)
        · exact document?_relativeTo
  · unfold ofReference
    rw [hmain, hscheme]
    dsimp only
    split
    · exact document?_fileRelativeTo _
    · split
      · split
        · exact document?_relativeTo
        · exact document?_afterSlashes
      · rename_i hplain
        have hplain : isSpecialScheme scheme = false := by simpa using hplain
        rw [document?_afterPlainScheme hplain, document?_afterPlainScheme hplain]

/-! ### Authorities

What is read has an authority where its scheme asks for one, if the base has. -/

theorem isProper_relativeTo (hbase : base.IsProper) (h : relativeTo base r cs = .ok u) :
    u.IsProper := by
  unfold relativeTo at h
  dsimp only at h
  split at h
  · cases h
    exact hbase
  · split at h
    · split at h
      · split at h
        · exact fun _ => (afterSlashes_eq_ok h).2
        · exact fun _ => (afterSlashes_eq_ok h).2
      · cases h
        exact hbase
    · cases h
      exact hbase

theorem isProper_fileAfterSlashes (h : fileAfterSlashes r cs = .ok u) : u.IsProper := by
  unfold fileAfterSlashes at h
  dsimp only at h
  split at h
  · cases h
    exact fun _ => rfl
  · rcases hhost : fileHost (cs.takeWhile (!isSlash true ·)) with e | host
    · simp [hhost, bind, Except.bind] at h
    · simp only [hhost, bind, Except.bind, pure, Except.pure, Except.ok.injEq] at h
      subst h
      exact fun _ => rfl

theorem isProper_fromRoot (base : Option Url) (r : Reference) (cs : List Char) :
    (fileRelativeTo.fromRoot base r cs).IsProper := by
  unfold fileRelativeTo.fromRoot
  dsimp only
  split
  · exact fun _ => rfl
  · split
    · exact fun _ => rfl
    · exact fun _ => rfl

theorem isProper_relative {base : Option Url} (hbase : ∀ b, base = some b → b.IsProper)
    (r : Reference) (cs : List Char) : (fileRelativeTo.relative base r cs).IsProper := by
  unfold fileRelativeTo.relative
  rcases base with _ | base
  · exact fun _ => rfl
  · dsimp only
    split
    · exact hbase base rfl
    · split
      · exact fun _ => rfl
      · exact hbase base rfl

theorem isProper_fileRelativeTo {base : Option Url} (hbase : ∀ b, base = some b → b.IsProper)
    (h : fileRelativeTo base r cs = .ok u) : u.IsProper := by
  unfold fileRelativeTo at h
  split at h
  · split at h
    · split at h
      · split at h
        · exact isProper_fileAfterSlashes h
        · cases h
          exact isProper_fromRoot base r _
      · cases h
        exact isProper_fromRoot base r _
    · cases h
      exact isProper_relative hbase r _
  · cases h
    exact isProper_relative hbase r _

theorem isProper_ofReference {base : Option Url} (hbase : ∀ b, base = some b → b.IsProper)
    (h : ofReference base r = .ok u) : u.IsProper := by
  unfold ofReference at h
  split at h
  · split at h
    · refine isProper_fileRelativeTo (fun b hb => ?_) h
      exact hbase b (Option.eq_some_of_filter_eq_some hb)
    · split at h
      · split at h
        · rename_i b hb
          exact isProper_relativeTo (hbase b (Option.eq_some_of_filter_eq_some hb)) h
        · exact fun _ => (afterSlashes_eq_ok h).2
      · rename_i hplain
        intro hspecial
        rw [scheme_of_afterPlainScheme h] at hspecial
        exact absurd hspecial hplain
  · split at h
    · cases h
    · rename_i b
      have hb : b.IsProper := hbase b rfl
      split at h
      · cases h
        exact hb
      · split at h
        · cases h
        · split at h
          · exact isProper_fileRelativeTo hbase h
          · exact isProper_relativeTo hb h

end

/-- A location that was read from a text has an authority if it needs one. -/
theorem isProper_parse {text : String} {u : Url} (h : parse text = .ok u) : u.IsProper :=
  isProper_ofReference (fun b hb => by cases hb) h

/-- So has one that was read against a base. -/
theorem isProper_join {base u : Url} {text : String} (hbase : base.IsProper)
    (h : base.join text = .ok u) : u.IsProper := by
  refine isProper_ofReference (fun b hb => ?_) h
  rwa [← Option.some.inj hb]

/-- So has that of a file. -/
theorem isProper_ofFilePath (path : Files.Path) : (ofFilePath path).IsProper := fun _ => rfl

end Url

/-! ### References -/

namespace Reference

open Url

theorem toOption_resolve (base : Url) (text : String) :
    (resolve base text).toOption = document? (base.join text) := by
  unfold resolve
  rcases base.join text with e | u
  · rfl
  · unfold document?
    dsimp only
    split
    · rfl
    · rfl

/-- A reference leads to the same location with a fragment as without, or in both cases to
none. -/
theorem toOption_resolve_append {base : Url} (hbase : base.IsProper) {text : String}
    (h : IsBare text) (fragment : String) :
    (resolve base (text ++ "#" ++ fragment)).toOption = (resolve base text).toOption := by
  obtain ⟨f, hf⟩ := Reference.exists_ofText_append h fragment
  rw [toOption_resolve, toOption_resolve]
  unfold join
  rw [hf]
  exact document?_ofReference hbase (Reference.fragment_ofText h)

/-- What a reference leads to has an authority if it needs one. -/
theorem isProper_of_resolve {base u : Url} {text : String} (hbase : base.IsProper)
    (h : resolve base text = .ok u) : u.IsProper := by
  unfold resolve at h
  split at h
  · cases h
  · rename_i v hv
    split at h
    · cases h
      exact (isProper_join hbase hv).withoutFragment
    · cases h

end Reference
end DraftSchema
