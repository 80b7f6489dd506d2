import DraftSchema.Unicode.CodePoints

/-!
# `DraftSchema.Unicode.Hangul`: the syllables of Hangul

A syllable is made of a leading consonant, a vowel and perhaps a trailing
consonant. The syllables are ordered by these three, so that arithmetic takes one
apart and puts it together.
-/

set_option autoImplicit false

namespace DraftSchema.Unicode.Hangul

/-- The first syllable. -/
def firstSyllable : Nat := 0xAC00

/-- The first leading consonant. -/
def firstLead : Nat := 0x1100

/-- The first vowel. -/
def firstVowel : Nat := 0x1161

/-- The character before the first trailing consonant. -/
def noTrail : Nat := 0x11A7

/-- The number of leading consonants. -/
def leads : Nat := 19

/-- The number of vowels. -/
def vowels : Nat := 21

/-- The number of ways to end a syllable, one of them without a consonant. -/
def trails : Nat := 28

/-- The letters of a syllable. -/
def letters? (c : Char) : Option (List Char) :=
  let n := c.toNat - firstSyllable
  if firstSyllable ≤ c.toNat ∧ n < leads * vowels * trails then
    let lead := Char.ofNat (firstLead + n / trails / vowels)
    let vowel := Char.ofNat (firstVowel + n / trails % vowels)
    let trail := n % trails
    some (lead :: vowel :: if trail = 0 then [] else [Char.ofNat (noTrail + trail)])
  else none

/-- The syllable of a leading consonant and a vowel, or of a syllable without a
trailing consonant and such a consonant. -/
def compose? (a b : Char) : Option Char :=
  let lead := a.toNat - firstLead
  let vowel := b.toNat - firstVowel
  let syllable := a.toNat - firstSyllable
  let trail := b.toNat - noTrail
  if firstLead ≤ a.toNat ∧ lead < leads ∧ firstVowel ≤ b.toNat ∧ vowel < vowels then
    some (Char.ofNat (firstSyllable + (lead * vowels + vowel) * trails))
  else if firstSyllable ≤ a.toNat ∧ syllable < leads * vowels * trails ∧ syllable % trails = 0
      ∧ noTrail < b.toNat ∧ trail < trails then
    some (Char.ofNat (a.toNat + trail))
  else none

end DraftSchema.Unicode.Hangul
