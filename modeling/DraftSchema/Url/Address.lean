import DraftSchema.Url
import DraftSchema.Digits
import DraftSchema.Json.Token

/-!
# `DraftSchema.Url.Address`: hosts that are numbers

A short address may be written with one to four numbers, each decimal, octal or
hexadecimal; the last one fills the bytes that the others leave. A long address
is written in eight pieces, of which a run of zeros may be left out and the last
two may be written as a short address.
-/

set_option autoImplicit false

namespace DraftSchema.Url

/-! ### Short addresses -/

/-- The parts of a text between the places where a character stands. -/
def splitOn (c : Char) (cs : List Char) : List (List Char) :=
  match cs with
  | [] => [[]]
  | d :: rest =>
    match splitOn c rest with
    | [] => [[]]
    | part :: parts => if d = c then [] :: part :: parts else (d :: part) :: parts

/-- The number that digits of a base spell. -/
def numberInBase? (base : Nat) (cs : List Char) : Option Nat := do
  let ds ← cs.mapM Json.hexValue?
  if ds.all (· < base) then some (ds.foldl (fun n d => n * base + d) 0) else none

/-- The number that one part of a short address spells; none if it is no
number. -/
def ipv4Number? (part : List Char) : Option Nat :=
  match part with
  | [] => none
  | '0' :: x :: rest =>
    if x = 'x' ∨ x = 'X' then numberInBase? 16 rest else numberInBase? 8 (x :: rest)
  | _ => numberInBase? 10 part

/-- The parts of a name; a point at the end opens no further part. -/
def nameParts (name : List Char) : List (List Char) :=
  let parts := splitOn '.' name
  if parts.getLast? = some [] then parts.dropLast else parts

/-- The last part of the name is a number, so that the name must be an
address. -/
def endsInNumber (name : List Char) : Bool :=
  match (nameParts name).getLast? with
  | none => false
  | some part =>
    (!part.isEmpty && part.all Char.isDigit) || (ipv4Number? part).isSome

/-- Joins the numbers of a short address; the last one fills the bytes that the
others leave. -/
def joinIpv4? (numbers : List Nat) : Option Nat :=
  match numbers.getLast? with
  | none => none
  | some last =>
    let front := numbers.dropLast
    if last < Nat.pow 256 (4 - front.length) ∧ front.all (· < 256) then
      some (front.foldl (fun n d => n * 256 + d) 0 * Nat.pow 256 (4 - front.length) + last)
    else none

/-- The short address that a name spells. -/
def ipv4? (name : List Char) : Option Nat := do
  let parts := nameParts name
  if parts.length ≤ 4 then joinIpv4? (← parts.mapM ipv4Number?) else none

/-! ### Long addresses -/

/-- The number of one part of the short address inside a long one: decimal,
below 256, without a needless zero. -/
def strictByte? (part : List Char) : Option Nat :=
  match part with
  | [] => none
  | '0' :: _ :: _ => none
  | _ => (numberInBase? 10 part).filter (· < 256)

/-- The two pieces that the short address inside a long one makes. -/
def embeddedIpv4? (cs : List Char) : Option (List Nat) :=
  match (splitOn '.' cs).mapM strictByte? with
  | some [a, b, c, d] => some [a * 256 + b, c * 256 + d]
  | _ => none

/-- The piece that one to four hexadecimal digits spell. -/
def ipv6Piece? (part : List Char) : Option Nat :=
  if part.length ≤ 4 ∧ part ≠ [] then numberInBase? 16 part else none

/-- The pieces of a part of a long address without a gap; only the last one may
be a short address. -/
def ipv6Pieces? : List (List Char) → Option (List Nat)
  | [] => some []
  | [part] => if part.contains '.' then embeddedIpv4? part else (ipv6Piece? part).map fun n => [n]
  | part :: parts => do
    let n ← ipv6Piece? part
    let ns ← ipv6Pieces? parts
    return n :: ns

/-- The pieces of a text between colons; the empty text has none. -/
def ipv6Run? (cs : List Char) : Option (List Nat) :=
  if cs.isEmpty then some [] else ipv6Pieces? (splitOn ':' cs)

/-- Cuts a text at its first double colon. -/
def cutAtGap? : List Char → Option (List Char × List Char)
  | [] => none
  | ':' :: ':' :: rest => some ([], rest)
  | c :: rest => (cutAtGap? rest).map fun (front, back) => (c :: front, back)

/-- The long address that a text spells. A gap stands for at least one piece, and
a short address stands behind it if there is one. -/
def ipv6? (cs : List Char) : Option (List Nat) :=
  match cutAtGap? cs with
  | none => do
    let pieces ← ipv6Run? cs
    if pieces.length = 8 then some pieces else none
  | some (front, back) => do
    if front.contains '.' then none
    let before ← ipv6Run? front
    let after ← ipv6Run? back
    let missing := 8 - (before.length + after.length)
    if before.length + after.length < 8 then
      some (before ++ List.replicate missing 0 ++ after)
    else none

end DraftSchema.Url
