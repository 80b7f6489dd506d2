import DraftSchema.Json.Printer
import DraftSchema.Json.Reader

/-!
# `DraftSchema.Proofs.Json.RoundTrip`: a printed text is read back

The compact text of a value without numbers (`Json.NumberFree`) is cut into the tokens of
the value (`Json.tokens`), which are read as the value (`Json.written`). A string comes back
character by character: `TextUnit.ofChar` tells which unit its text spells. The theorems:

* `decode?_map_ofChar`: the units of a string spell the string.
* `cutsTo_chars`: the text is cut into the tokens of the value.
* `completes_tokens`: from any state that waits for a value, the tokens complete the value.
* `written_parse?_compact`: the text is read as the value that was printed.
* `newline_not_mem_chars`: the text has no line feed.
-/

set_option autoImplicit false

namespace DraftSchema.Json

/-! ### Strings -/

namespace TextUnit

/-- The unit that the text of a character inside a string spells: a control character
without a letter of its own is escaped by its number. -/
def ofChar (c : Char) : TextUnit :=
  if c.toNat < 32 ∧ c ≠ '\x08' ∧ c ≠ '\x0c' ∧ c ≠ '\n' ∧ c ≠ '\r' ∧ c ≠ '\t' then .unit c.toNat
  else .char c

/-- A unit below the surrogates spells its character, whatever comes behind it. -/
theorem decode?_unit_cons {n : Nat} (h : n < 0xD800) (rest : List TextUnit) :
    decode? (.unit n :: rest) = (decode? rest).map (Char.ofNat n :: ·) := by
  have hhigh : isHigh n = false := by simp [isHigh]; omega
  have hlow : isLow n = false := by simp [isLow]; omega
  -- The unit might open a pair only with another unit behind it.
  rcases rest with _ | ⟨_ | _, rest⟩ <;> simp [decode?, hhigh, hlow]

/-- The units of a string spell the string. -/
theorem decode?_map_ofChar (cs : List Char) : decode? (cs.map ofChar) = some cs := by
  induction cs with
  | nil => rfl
  | cons c cs ih =>
    rw [List.map_cons, ofChar]
    split
    · rename_i hcontrol
      rw [decode?_unit_cons (by omega), ih, Char.ofNat_toNat]
      rfl
    · rw [decode?, ih]
      rfl

end TextUnit

namespace Token

/-- The two hexadecimal digits of a control character are read back. -/
theorem hexUnit?_hexDigit {n : Nat} (h : n < 32) :
    hexUnit? '0' '0' (hexDigit (n / 16)) (hexDigit (n % 16)) = some n := by
  revert n
  decide

/-- The text of a character inside a string is read as its unit. -/
theorem stringUnits?_escape (c : Char) (rest : List Char) :
    stringUnits? (escape c ++ rest)
      = (stringUnits? rest).map fun (units, tail) => (TextUnit.ofChar c :: units, tail) := by
  have hbind : ∀ u : TextUnit, (do
      let (units, tail) ← stringUnits? rest
      return (u :: units, tail))
        = (stringUnits? rest).map fun (units, tail) => (u :: units, tail) := by
    intro u
    rcases stringUnits? rest with _ | ⟨units, tail⟩ <;> rfl
  unfold escape
  -- Seven characters are escaped by one letter.
  iterate 7
    split
    · subst_vars
      exact hbind _
  rename_i hquote hbackslash h8 h12 h10 h13 h9
  split
  · rename_i hcontrol
    simp only [List.cons_append, List.nil_append]
    rw [stringUnits?, hexUnit?_hexDigit hcontrol, TextUnit.ofChar,
      if_pos ⟨hcontrol, h8, h12, h10, h13, h9⟩]
    exact hbind _
  · rename_i hcontrol
    have hplain : ¬ (c = '\\' ∨ c.toNat < 32) := fun h => h.elim hbackslash hcontrol
    rw [List.singleton_append, stringUnits?.eq_def, TextUnit.ofChar,
      if_neg (fun h => hcontrol h.1)]
    split
    · rename_i heq
      cases heq
    · rename_i heq
      cases heq
      exact absurd rfl hquote
    · rename_i heq
      cases heq
      exact absurd rfl hbackslash
    · rename_i heq
      cases heq
      exact absurd rfl hbackslash
    · rename_i heq
      cases heq
      rw [if_neg hplain]

/-- What is printed for the characters of a string is read up to the closing quote. -/
theorem stringUnits?_flatMap_escape (cs rest : List Char) :
    stringUnits? (cs.flatMap escape ++ '"' :: rest) = some (cs.map TextUnit.ofChar, rest) := by
  induction cs with
  | nil => rfl
  | cons c cs ih =>
    rw [List.flatMap_cons, List.append_assoc, stringUnits?_escape, ih]
    rfl

/-- A printed string is one token. -/
theorem scan_quoted (s : String) (rest : List Char) :
    scan (quoted s ++ rest)
      = (scan rest).map (.string (s.toList.map TextUnit.ofChar) :: ·) := by
  have hunits : stringUnits? (s.toList.flatMap escape ++ '"' :: rest)
      = some (s.toList.map TextUnit.ofChar, rest) := stringUnits?_flatMap_escape s.toList rest
  rw [quoted, List.cons_append, List.append_assoc, List.singleton_append, scan]
  split
  · rename_i units tail heq
    rw [hunits] at heq
    cases heq
    rfl
  · rename_i heq
    rw [hunits] at heq
    cases heq

end Token

/-! ### Values -/

/-- No number stands in the value. -/
inductive NumberFree : Json → Prop where
  | null : NumberFree .null
  | bool (b : Bool) : NumberFree (.bool b)
  | string (s : String) : NumberFree (.string s)
  | array {elements : List Json} (helements : ∀ v ∈ elements, NumberFree v) :
      NumberFree (.array elements)
  | object {members : Members} (hvalues : ∀ m ∈ members, NumberFree m.2) :
      NumberFree (.object members)

mutual

/-- The tokens of a value. -/
def tokens : Json → List Token
  | .null => [.null]
  | .bool b => [.bool b]
  | .number n => [.number n]
  | .string s => [.string (s.toList.map TextUnit.ofChar)]
  | .array elements => .openArray :: (elementTokens elements ++ [.closeArray])
  | .object members => .openObject :: (memberTokens members ++ [.closeObject])

/-- The tokens of an array's elements, parted by commas. -/
def elementTokens : List Json → List Token
  | [] => []
  | [v] => v.tokens
  | v :: w :: rest => v.tokens ++ .comma :: elementTokens (w :: rest)

/-- The tokens of an object's members, parted by commas. -/
def memberTokens : List (String × Json) → List Token
  | [] => []
  | [(name, v)] => .string (name.toList.map TextUnit.ofChar) :: .colon :: v.tokens
  | (name, v) :: m :: rest =>
    .string (name.toList.map TextUnit.ofChar) :: .colon ::
      (v.tokens ++ .comma :: memberTokens (m :: rest))

end

mutual

/-- The value as it is read back before its strings are decoded. -/
def written : Json → Written
  | .null => .null
  | .bool b => .bool b
  | .number n => .number n
  | .string s => .string (s.toList.map TextUnit.ofChar)
  | .array elements => .array (writtenElements elements)
  | .object members => .object (writtenMembers members)

/-- The elements of an array as they are read back. -/
def writtenElements : List Json → List Written
  | [] => []
  | v :: rest => v.written :: writtenElements rest

/-- The members of an object as they are read back. -/
def writtenMembers : List (String × Json) → List (List TextUnit × Written)
  | [] => []
  | (name, v) :: rest => (name.toList.map TextUnit.ofChar, v.written) :: writtenMembers rest

end

@[simp] theorem writtenElements_eq_map (elements : List Json) :
    writtenElements elements = elements.map written := by
  induction elements with
  | nil => rfl
  | cons v rest ih => rw [writtenElements, ih, List.map_cons]

@[simp] theorem writtenMembers_eq_map (members : Members) :
    writtenMembers members
      = members.map fun m => (m.1.toList.map TextUnit.ofChar, m.2.written) := by
  induction members with
  | nil => rfl
  | cons m rest ih => rw [writtenMembers, ih, List.map_cons]

/-! ### Cutting -/

namespace Token

/-- A text is cut into tokens, with what is behind it cut as it would be by itself. -/
def CutsTo (cs : List Char) (ts : List Token) : Prop :=
  ∀ rest, scan (cs ++ rest) = (scan rest).map (ts ++ ·)

theorem CutsTo.append {cs ds : List Char} {ts us : List Token} (hc : CutsTo cs ts)
    (hd : CutsTo ds us) : CutsTo (cs ++ ds) (ts ++ us) := by
  intro rest
  rw [List.append_assoc, hc, hd, Option.map_map]
  congr 1
  funext more
  exact (List.append_assoc ts us more).symm

theorem cutsTo_quoted (s : String) :
    CutsTo (quoted s) [.string (s.toList.map TextUnit.ofChar)] := scan_quoted s

/-- Brackets and marks are tokens by themselves. -/
theorem cutsTo_mark : CutsTo ['['] [.openArray] ∧ CutsTo [']'] [.closeArray] ∧
    CutsTo ['{'] [.openObject] ∧ CutsTo ['}'] [.closeObject] ∧
    CutsTo [','] [.comma] ∧ CutsTo [':'] [.colon] := by
  refine ⟨?_, ?_, ?_, ?_, ?_, ?_⟩ <;>
  · intro rest
    rw [List.singleton_append, scan]
    rfl

theorem cutsTo_elements {elements : List Json}
    (h : ∀ v ∈ elements, CutsTo v.chars v.tokens) :
    CutsTo (elementsChars elements) (elementTokens elements) := by
  obtain ⟨-, -, -, -, hcomma, -⟩ := cutsTo_mark
  induction elements with
  | nil =>
    intro rest
    show scan rest = (scan rest).map ([] ++ ·)
    cases scan rest <;> rfl
  | cons v rest ih =>
    rw [List.forall_mem_cons] at h
    obtain ⟨hv, hrest⟩ := h
    cases rest with
    | nil => exact hv
    | cons w rest => exact hv.append (hcomma.append (ih hrest))

theorem cutsTo_members {members : Members} (h : ∀ m ∈ members, CutsTo m.2.chars m.2.tokens) :
    CutsTo (membersChars members) (memberTokens members) := by
  obtain ⟨-, -, -, -, hcomma, hcolon⟩ := cutsTo_mark
  induction members with
  | nil =>
    intro rest
    show scan rest = (scan rest).map ([] ++ ·)
    cases scan rest <;> rfl
  | cons m rest ih =>
    obtain ⟨name, v⟩ := m
    rw [List.forall_mem_cons] at h
    obtain ⟨hv, hrest⟩ := h
    have hname : CutsTo (quoted name ++ [':'])
        [.string (name.toList.map TextUnit.ofChar), .colon] := (cutsTo_quoted name).append hcolon
    cases rest with
    | nil =>
      have hmember := hname.append hv
      rwa [List.append_assoc] at hmember
    | cons n rest =>
      have hmember := hname.append (hv.append (hcomma.append (ih hrest)))
      rwa [List.append_assoc] at hmember

/-- The text of a value without numbers is cut into the tokens of the value. -/
theorem cutsTo_chars {v : Json} (h : v.NumberFree) : CutsTo v.chars v.tokens := by
  obtain ⟨hopenArray, hcloseArray, hopenObject, hcloseObject, -, -⟩ := cutsTo_mark
  induction h with
  | null =>
    intro rest
    show scan ('n' :: 'u' :: 'l' :: 'l' :: rest) = _
    rw [scan]
    rfl
  | bool b =>
    intro rest
    cases b with
    | true =>
      show scan ('t' :: 'r' :: 'u' :: 'e' :: rest) = _
      rw [scan]
      rfl
    | false =>
      show scan ('f' :: 'a' :: 'l' :: 's' :: 'e' :: rest) = _
      rw [scan]
      rfl
  | string s => exact cutsTo_quoted s
  | array _ ih => exact hopenArray.append ((cutsTo_elements ih).append hcloseArray)
  | object _ ih => exact hopenObject.append ((cutsTo_members ih).append hcloseObject)

end Token

/-! ### Reading -/

namespace Reader

/-- Tokens that complete a value wherever one is waited for. -/
def Completes (ts : List Token) (w : Written) : Prop :=
  ∀ stack, ts.foldlM (State.step? none) (.value stack) = some (.complete w stack)

/-- The first element of an array is read like any other value. -/
theorem foldlM_element (v : Json) (stack : List Frame) :
    v.tokens.foldlM (State.step? none) (.element stack)
      = v.tokens.foldlM (State.step? none) (.value (.array [] :: stack)) := by
  cases v <;> rfl

theorem foldlM_elements {v : Json} {rest : List Json}
    (h : ∀ u ∈ v :: rest, Completes u.tokens u.written) (before : List Written)
    (stack : List Frame) :
    (elementTokens (v :: rest)).foldlM (State.step? none) (.value (.array before :: stack))
      = some (.arrayNext (((v :: rest).map written).reverse ++ before) stack) := by
  induction rest generalizing v before with
  | nil => exact h v List.mem_cons_self _
  | cons w rest ih =>
    rw [List.forall_mem_cons] at h
    obtain ⟨hv, hrest⟩ := h
    rw [elementTokens, List.foldlM_append, hv]
    -- The comma puts the frame of the array back.
    show (elementTokens (w :: rest)).foldlM (State.step? none)
      (.value (.array (v.written :: before) :: stack)) = _
    rw [ih hrest, List.map_cons (l := w :: rest), List.reverse_cons, List.append_assoc]
    rfl

theorem foldlM_members {m : String × Json} {rest : Members}
    (h : ∀ n ∈ m :: rest, Completes n.2.tokens n.2.written)
    (before : List (List TextUnit × Written)) (stack : List Frame) :
    (memberTokens (m :: rest)).foldlM (State.step? none) (.name before stack)
      = some (.objectNext ((writtenMembers (m :: rest)).reverse ++ before) stack) := by
  induction rest generalizing m before with
  | nil => exact h m List.mem_cons_self _
  | cons n rest ih =>
    obtain ⟨name, v⟩ := m
    rw [List.forall_mem_cons] at h
    obtain ⟨hv, hrest⟩ := h
    show (v.tokens ++ .comma :: memberTokens (n :: rest)).foldlM (State.step? none)
      (.value (.object before (name.toList.map TextUnit.ofChar) :: stack)) = _
    rw [List.foldlM_append, hv]
    show (memberTokens (n :: rest)).foldlM (State.step? none)
      (.name ((name.toList.map TextUnit.ofChar, v.written) :: before) stack) = _
    rw [ih hrest, writtenMembers_eq_map, writtenMembers_eq_map, List.map_cons (l := n :: rest),
      List.reverse_cons, List.append_assoc]
    rfl

/-- The tokens of a value complete it as it was written. -/
theorem completes_tokens {v : Json} (h : v.NumberFree) : Completes v.tokens v.written := by
  induction h with
  | null => exact fun stack => rfl
  | bool b => exact fun stack => rfl
  | string s => exact fun stack => rfl
  | @array elements _ ih =>
    intro stack
    cases elements with
    | nil => rfl
    | cons v rest =>
      show (elementTokens (v :: rest) ++ [Token.closeArray]).foldlM (State.step? none)
        (.element stack) = _
      have hfirst : (elementTokens (v :: rest)).foldlM (State.step? none) (.element stack)
          = (elementTokens (v :: rest)).foldlM (State.step? none)
              (.value (.array [] :: stack)) := by
        cases rest with
        | nil => exact foldlM_element v stack
        | cons w rest =>
          rw [elementTokens, List.foldlM_append, List.foldlM_append, foldlM_element]
      rw [List.foldlM_append, hfirst, foldlM_elements ih, List.append_nil]
      show some (State.complete (.array ((v :: rest).map written).reverse.reverse) stack) = _
      rw [List.reverse_reverse, written, writtenElements_eq_map]
  | @object members _ ih =>
    intro stack
    cases members with
    | nil => rfl
    | cons m rest =>
      -- The first name of an object is read like any other one.
      have hfirst : (memberTokens (m :: rest)).foldlM (State.step? none) (.member stack)
          = (memberTokens (m :: rest)).foldlM (State.step? none) (.name [] stack) := by
        cases rest <;> rfl
      show (memberTokens (m :: rest) ++ [Token.closeObject]).foldlM (State.step? none)
        (.member stack) = _
      rw [List.foldlM_append, hfirst, foldlM_members ih, List.append_nil]
      show some (State.complete (.object (writtenMembers (m :: rest)).reverse.reverse) stack) = _
      rw [List.reverse_reverse, written]

end Reader

/-- The compact text of a value without numbers is read as the value, before its strings are
decoded. -/
theorem written_parse?_compact {v : Json} (h : v.NumberFree) :
    Written.parse? v.compact = some v.written := by
  have hscan : Token.scan v.chars = some v.tokens := by
    have hcut := Token.cutsTo_chars h []
    rw [List.append_nil, Token.scan] at hcut
    rw [hcut, Option.map_some, List.append_nil]
  have hrun : v.tokens.foldlM (Reader.State.step? none) (.value [])
      = some (.done v.written) := Reader.completes_tokens h []
  rw [Written.parse?, compact, String.toList_ofList, hscan]
  simp only [Option.bind_eq_bind, Option.bind_some, Reader.run?, hrun]

/-! ### Control characters -/

/-- The text of a character inside a string has no control characters. -/
theorem le_toNat_of_mem_escape {c d : Char} (h : d ∈ escape c) : 32 ≤ d.toNat := by
  have hhex : ∀ n < 32, 32 ≤ (hexDigit (n / 16)).toNat ∧ 32 ≤ (hexDigit (n % 16)).toNat := by
    decide
  unfold escape at h
  iterate 7
    split at h
    · simp only [List.mem_cons, List.not_mem_nil, or_false] at h
      rcases h with rfl | rfl <;> decide
  split at h
  · rename_i hcontrol
    simp only [List.mem_cons, List.not_mem_nil, or_false] at h
    rcases h with rfl | rfl | rfl | rfl | rfl | rfl
    · decide
    · decide
    · decide
    · decide
    · exact (hhex c.toNat hcontrol).1
    · exact (hhex c.toNat hcontrol).2
  · rename_i hcontrol
    rw [List.mem_singleton.mp h]
    omega

/-- Nor has the text of a string. -/
theorem le_toNat_of_mem_quoted {s : String} {d : Char} (h : d ∈ quoted s) : 32 ≤ d.toNat := by
  simp only [quoted, List.mem_cons, List.mem_append, List.mem_flatMap, List.not_mem_nil,
    or_false] at h
  rcases h with rfl | ⟨c, -, hd⟩ | rfl
  · decide
  · exact le_toNat_of_mem_escape hd
  · decide

/-- What holds of the digits and the marks of a number literal holds of its text. -/
theorem forall_mem_number {P : Char → Prop} (hdigit : ∀ digit : Digit, P digit.toChar)
    (hmark : ∀ c ∈ ['-', '+', '.', 'e'], P c) {n : Number} : ∀ d ∈ n.chars, P d := by
  have hdigits : ∀ (ds : List Digit), ∀ d ∈ Digit.chars ds, P d := by
    intro ds d hd
    obtain ⟨digit, -, rfl⟩ := List.mem_map.mp hd
    exact hdigit digit
  intro d hd
  simp only [Number.chars, List.mem_append] at hd
  rcases hd with ((hsign | hwhole) | hfraction) | hexponent
  · split at hsign
    · exact hmark d (by simp [List.mem_singleton.mp hsign])
    · cases hsign
  · exact hdigits _ d hwhole
  · split at hfraction
    · cases hfraction
    · rcases List.mem_cons.mp hfraction with rfl | hfraction
      · exact hmark _ (by simp)
      · exact hdigits _ d hfraction
  · split at hexponent
    · cases hexponent
    · rename_i e _
      simp only [Exponent.chars, List.mem_cons] at hexponent
      rcases hexponent with rfl | rfl | hexponent
      · exact hmark _ (by simp)
      · cases e.negative <;> exact hmark _ (by simp)
      · exact hdigits _ d hexponent

/-- Nor has a number literal. -/
theorem le_toNat_of_mem_number {n : Number} {d : Char} (h : d ∈ n.chars) : 32 ≤ d.toNat := by
  have hdigit : ∀ digit : Digit, 32 ≤ (Digit.toChar digit).toNat := by decide
  have hmark : ∀ c ∈ ['-', '+', '.', 'e'], 32 ≤ c.toNat := by simp
  exact forall_mem_number hdigit hmark d h

mutual

/-- The compact text of a value has no control characters. -/
theorem le_toNat_of_mem_chars {d : Char} : ∀ {v : Json}, d ∈ v.chars → 32 ≤ d.toNat
  | .null, h | .bool true, h | .bool false, h => by
    simp only [chars, List.mem_cons, List.not_mem_nil, or_false] at h
    rcases h with rfl | rfl | rfl | rfl | rfl <;> decide
  | .number n, h => le_toNat_of_mem_number h
  | .string s, h => le_toNat_of_mem_quoted h
  | .array elements, h => by
    simp only [chars, List.mem_cons, List.mem_append, List.not_mem_nil, or_false] at h
    rcases h with rfl | h | rfl
    · decide
    · exact le_toNat_of_mem_elementsChars h
    · decide
  | .object members, h => by
    simp only [chars, List.mem_cons, List.mem_append, List.not_mem_nil, or_false] at h
    rcases h with rfl | h | rfl
    · decide
    · exact le_toNat_of_mem_membersChars h
    · decide

theorem le_toNat_of_mem_elementsChars {d : Char} :
    ∀ {vs : List Json}, d ∈ elementsChars vs → 32 ≤ d.toNat
  | [v], h => le_toNat_of_mem_chars (v := v) h
  | v :: w :: rest, h => by
    simp only [elementsChars, List.mem_append, List.mem_cons] at h
    rcases h with h | rfl | h
    · exact le_toNat_of_mem_chars h
    · decide
    · exact le_toNat_of_mem_elementsChars h

theorem le_toNat_of_mem_membersChars {d : Char} :
    ∀ {ms : Members}, d ∈ membersChars ms → 32 ≤ d.toNat
  | [(name, v)], h => by
    simp only [membersChars, List.mem_append, List.mem_cons] at h
    rcases h with h | rfl | h
    · exact le_toNat_of_mem_quoted h
    · decide
    · exact le_toNat_of_mem_chars h
  | (name, v) :: m :: rest, h => by
    simp only [membersChars, List.mem_append, List.mem_cons] at h
    rcases h with h | rfl | h | rfl | h
    · exact le_toNat_of_mem_quoted h
    · decide
    · exact le_toNat_of_mem_chars h
    · decide
    · exact le_toNat_of_mem_membersChars h

end

/-- A line feed inside a value is printed as an escape. -/
theorem newline_not_mem_chars (v : Json) : '\n' ∉ v.chars := by
  intro h
  have hle : 32 ≤ '\n'.toNat := le_toNat_of_mem_chars h
  exact absurd hle (by decide)

end DraftSchema.Json
