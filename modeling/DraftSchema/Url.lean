/-!
# `DraftSchema.Url`: locations

A location is a URL in parsed form: scheme, authority, path, query and fragment,
each already percent-encoded. `Url.text` writes it, and two locations are the
same when their parts are. `Url.withoutFragment` gives the name under which a
schema is known: what a fragment points at is never looked at.
-/

set_option autoImplicit false

namespace DraftSchema

/-- A host: a name, or an address of the fourth or sixth version of the
protocol. The pieces of a long address are eight numbers of sixteen bits. -/
inductive Url.Host where
  | domain (name : String)
  | ipv4 (address : Nat)
  | ipv6 (pieces : List Nat)
deriving DecidableEq, Repr

/-- What stands between the two slashes and the path. -/
structure Url.Authority where
  username : String
  password : String
  /-- A file location need not have a host. -/
  host : Option Url.Host
  /-- The port, unless it is the one that goes with the scheme. -/
  port : Option Nat
deriving DecidableEq, Repr

/-- A location. -/
structure Url where
  scheme : String
  authority : Option Url.Authority
  path : String
  query : Option String
  fragment : Option String
deriving DecidableEq, Repr

namespace Url

/-! ### Text -/

/-- The text of a short address: four numbers with points in between. -/
def ipv4Text (address : Nat) : String :=
  let part (n : Nat) : String := toString (address / Nat.pow 256 n % 256)
  part 3 ++ "." ++ part 2 ++ "." ++ part 1 ++ "." ++ part 0

/-- The lower-case hexadecimal text of a number. -/
def hexText (n : Nat) : String := String.ofList (Nat.toDigits 16 n)

/-- How many zeros a list starts with. -/
def leadingZeros (pieces : List Nat) : Nat := (pieces.takeWhile (· = 0)).length

/-- The longest run of zeros in a list, as its place and length; of two equally
long ones the first. -/
def longestZeros : List Nat → Nat × Nat
  | [] => (0, 0)
  | p :: rest =>
    let here := leadingZeros (p :: rest)
    let (place, length) := longestZeros rest
    if length ≤ here then (0, here) else (place + 1, length)

/-- The text of a long address; its longest run of at least two zeros is left
out. -/
def ipv6Text (pieces : List Nat) : String :=
  let joined (ps : List Nat) : String := String.intercalate ":" (ps.map hexText)
  let (place, length) := longestZeros pieces
  if length < 2 then joined pieces
  else joined (pieces.take place) ++ "::" ++ joined (pieces.drop (place + length))

/-- The text of a host. -/
def Host.text : Host → String
  | .domain name => name
  | .ipv4 address => ipv4Text address
  | .ipv6 pieces => "[" ++ ipv6Text pieces ++ "]"

/-- The text of an authority. -/
def Authority.text (a : Authority) : String :=
  let password := if a.password.isEmpty then "" else ":" ++ a.password
  let user := if a.username.isEmpty && a.password.isEmpty then "" else a.username ++ password ++ "@"
  user ++ (a.host.map Host.text).getD "" ++ (a.port.map fun p => ":" ++ toString p).getD ""

/-- The text of a location. A path that starts with two slashes is kept apart
from an authority by a dot. -/
def text (u : Url) : String :=
  let authority := match u.authority with
    | some a => "//" ++ a.text
    | none => if ['/', '/'].isPrefixOf u.path.toList then "/." else ""
  u.scheme ++ ":" ++ authority ++ u.path
    ++ (u.query.map ("?" ++ ·)).getD "" ++ (u.fragment.map ("#" ++ ·)).getD ""

instance : ToString Url := ⟨text⟩

/-! ### Kinds of schemes -/

/-- The schemes whose locations have an authority and a path of segments. -/
def isSpecialScheme (scheme : String) : Bool :=
  ["http", "https", "ws", "wss", "ftp", "file"].contains scheme

/-- The port that goes with a scheme. -/
def defaultPort? (scheme : String) : Option Nat :=
  match scheme with
  | "http" | "ws" => some 80
  | "https" | "wss" => some 443
  | "ftp" => some 21
  | _ => none

/-- The location has no authority and no path of segments, so that only a
fragment can be resolved against it. -/
def isOpaque (u : Url) : Bool := u.authority.isNone && u.path.toList.head? ≠ some '/'

/-! ### Fragments -/

/-- A text without the spaces at its end. -/
def withoutTrailingSpaces (s : String) : String :=
  String.ofList (s.toList.reverse.dropWhile (· = ' ')).reverse

/-- The location without its fragment. Spaces at the end of an opaque path go
with it, because only the fragment kept them. -/
def withoutFragment (u : Url) : Url :=
  { u with
    path := if u.isOpaque && u.query.isNone then withoutTrailingSpaces u.path else u.path
    fragment := none }

@[simp] theorem scheme_withoutFragment (u : Url) : u.withoutFragment.scheme = u.scheme := rfl

@[simp] theorem fragment_withoutFragment (u : Url) : u.withoutFragment.fragment = none := rfl

theorem withoutTrailingSpaces_idem (s : String) :
    withoutTrailingSpaces (withoutTrailingSpaces s) = withoutTrailingSpaces s := by
  simp only [withoutTrailingSpaces, String.toList_ofList, List.reverse_reverse]
  generalize s.toList.reverse = l
  induction l with
  | nil => rfl
  | cons c rest ih =>
    by_cases h : c = ' '
    · simpa [List.dropWhile_cons, h] using ih
    · simp [h]

@[simp] theorem withoutFragment_withoutFragment (u : Url) :
    u.withoutFragment.withoutFragment = u.withoutFragment := by
  have twice (c : String → Bool) (p : String) :
      (if c (if c p then withoutTrailingSpaces p else p) then
        withoutTrailingSpaces (if c p then withoutTrailingSpaces p else p)
      else if c p then withoutTrailingSpaces p else p)
        = if c p then withoutTrailingSpaces p else p := by
    by_cases h : c p
    · simp [h, withoutTrailingSpaces_idem]
    · simp [h]
  simp only [withoutFragment, mk.injEq, and_true, true_and]
  exact twice (fun p => isOpaque { u with path := p } && u.query.isNone) u.path

/-! ### Errors -/

/-- Why a text is no location. -/
inductive Error where
  | emptyHost
  | invalidPort
  | invalidIpv4
  | invalidIpv6
  | invalidDomain
  | invalidDomainCharacter
  /-- A relative text with nothing to resolve it against. -/
  | noBase
  /-- A relative text with a base that has an opaque path. -/
  | opaqueBase
deriving DecidableEq, Repr

/-- The text of an error. -/
def Error.message : Error → String
  | .emptyHost => "empty host"
  | .invalidPort => "invalid port number"
  | .invalidIpv4 => "invalid IPv4 address"
  | .invalidIpv6 => "invalid IPv6 address"
  | .invalidDomain => "invalid international domain name"
  | .invalidDomainCharacter => "invalid domain character"
  | .noBase => "relative URL without a base"
  | .opaqueBase => "relative URL with a cannot-be-a-base base"

end Url
end DraftSchema
