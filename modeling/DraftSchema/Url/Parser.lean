import DraftSchema.Url.Address
import DraftSchema.Url.Idna
import DraftSchema.Url.Path

/-!
# `DraftSchema.Url.Parser`: reading locations

`Url.parse` reads a text that stands on its own, `Url.join` one that may be
relative to a base. The fragment is cut off first and the query next, so that
the rest is read without regard to them.
-/

set_option autoImplicit false

namespace DraftSchema.Url

/-! ### The text and its parts -/

/-- The blanks that may surround a location: the space and the controls below
it. -/
def isTrimmed (c : Char) : Bool := c.toNat ≤ 0x20

/-- The characters that are left out of a location. -/
def isIgnored (c : Char) : Bool := c = '\t' || c = '\n' || c = '\r'

/-- Cuts a text at the first place where a character stands. -/
def cutAtFirst (mark : Char) (cs : List Char) : List Char × Option (List Char) :=
  match cs.dropWhile (· ≠ mark) with
  | [] => (cs, none)
  | _ :: rest => (cs.takeWhile (· ≠ mark), some rest)

/-- A text in three parts. -/
structure Reference where
  /-- What comes before query and fragment. -/
  main : List Char
  query : Option (List Char)
  fragment : Option (List Char)

/-- The parts of a text. -/
def Reference.ofText (text : String) : Reference :=
  let trimmed := ((text.toList.dropWhile isTrimmed).reverse.dropWhile isTrimmed).reverse
  let (front, fragment) := cutAtFirst '#' (trimmed.filter (!isIgnored ·))
  let (main, query) := cutAtFirst '?' front
  ⟨main, query, fragment⟩

/-- The main part is followed by something. -/
def Reference.continues (r : Reference) : Bool := r.query.isSome || r.fragment.isSome

/-- The encoded fragment. -/
def Reference.encodedFragment (r : Reference) : Option String :=
  r.fragment.map fun f => String.ofList (Percent.encode Percent.inFragment f)

/-- The encoded query. -/
def Reference.encodedQuery (special : Bool) (r : Reference) : Option String :=
  r.query.map fun q => String.ofList <|
    Percent.encode (if special then Percent.inSpecialQuery else Percent.inQuery) q

/-- A character that a scheme may hold behind its first letter. -/
def isSchemeChar (c : Char) : Bool := c.isAlphanum || c = '+' || c = '-' || c = '.'

/-- The scheme that a text starts with, in lower case, and what follows its
colon. -/
def cutScheme? (cs : List Char) : Option (String × List Char) :=
  match cs, cs.dropWhile isSchemeChar with
  | c :: _, ':' :: rest =>
    if c.isAlpha then some (String.ofList ((cs.takeWhile isSchemeChar).map Char.toLower), rest)
    else none
  | _, _ => none

/-! ### Authorities -/

/-- A slash, or a backslash where the scheme is special. -/
def isSlash (special : Bool) (c : Char) : Bool := c = '/' || (special && c = '\\')

/-- The number of slashes and backslashes that a text starts with. -/
def slashCount (cs : List Char) : Nat := (cs.takeWhile (isSlash true)).length

/-- Cuts off the name and password, up to the last at sign of the authority. An
at sign that comes first must not end the authority. -/
def cutUserinfo (special continues : Bool) (cs : List Char) :
    Except Error (List Char × List Char) :=
  let authority := cs.takeWhile (!isSlash special ·)
  let path := cs.dropWhile (!isSlash special ·)
  if authority.contains '@' then
    let host := (authority.reverse.takeWhile (· ≠ '@')).reverse
    let user := authority.take (authority.length - host.length - 1)
    if user.isEmpty && host.isEmpty && (!path.isEmpty || continues) then .error .emptyHost
    else .ok (user, host ++ path)
  else .ok ([], cs)

/-- The number of characters of the host that a text starts with. A colon ends it
outside square brackets. -/
def hostLength (special inBrackets : Bool) : List Char → Nat
  | [] => 0
  | c :: rest =>
    if isSlash special c || (c = ':' && !inBrackets) then 0
    else hostLength special (c = '[' || (inBrackets && c ≠ ']')) rest + 1

/-- The host in square brackets, or none if there are no brackets. -/
def bracketedHost? (cs : List Char) : Option (Except Error Host) :=
  match cs with
  | '[' :: rest => some <|
    if rest.getLast? = some ']' then
      match ipv6? rest.dropLast with
      | some pieces => .ok (.ipv6 pieces)
      | none => .error .invalidIpv6
    else .error .invalidIpv6
  | _ => none

/-- The characters that the host of a scheme that is not special cannot hold. -/
def isForbiddenInHost (c : Char) : Bool :=
  ['\x00', '\t', '\n', '\r', ' ', '#', '/', ':', '<', '>', '?', '@', '[', '\\', ']', '^',
    '|'].contains c

/-- Reads the host of a scheme that is not special. -/
def opaqueHost (cs : List Char) : Except Error Host :=
  match bracketedHost? cs with
  | some host => host
  | none =>
    if cs.any isForbiddenInHost then .error .invalidDomainCharacter
    else .ok (.domain (String.ofList (Percent.encode Percent.isControl cs)))

/-- Reads the host of a special scheme: an address or the name of a domain. -/
def specialHost (cs : List Char) : Except Error Host :=
  match bracketedHost? cs with
  | some host => host
  | none =>
    match (Percent.utf8? (Percent.decode cs)).bind fun name => Idna.toAscii? name.toList with
    | none => .error .invalidDomain
    | some [] => .error .emptyHost
    | some name =>
      if endsInNumber name then
        match ipv4? name with
        | some address => .ok (.ipv4 address)
        | none => .error .invalidIpv4
      else .ok (.domain (String.ofList name))

/-- The greatest port. -/
def lastPort : Nat := 65535

/-- Reads the port behind a colon, and what follows it. -/
def cutPort (scheme : String) (cs : List Char) : Except Error (Option Nat × List Char) :=
  let (digits, rest) := Digit.span cs
  let port := Digit.value digits
  if lastPort < port then .error .invalidPort
  else if rest.head?.any (!isSlash true ·) then .error .invalidPort
  -- A port without digits is no port, and neither is the one that goes with the scheme.
  else if digits.isEmpty ∨ defaultPort? scheme = some port then .ok (none, rest)
  else .ok (some port, rest)

/-- The authority that a text starts with, and the path behind it. -/
def cutAuthority (scheme : String) (continues : Bool) (cs : List Char) :
    Except Error (Authority × List Char) := do
  let special := isSpecialScheme scheme
  let (user, cs) ← cutUserinfo special continues cs
  let (username, password) := cutAtFirst ':' user
  let username := String.ofList (Percent.encode Percent.inUserinfo username)
  let password := String.ofList (Percent.encode Percent.inUserinfo (password.getD []))
  let n := hostLength special false cs
  let rest := cs.drop n
  let host ← match cs.take n with
    | [] => if special then .error .emptyHost else .ok none
    | host => some <$> (if special then specialHost host else opaqueHost host)
  -- A name, a password or a port needs a host.
  if host.isNone ∧ (rest.head? = some ':' ∨ username ≠ "" ∨ password ≠ "") then .error .emptyHost
  match rest with
  | ':' :: rest =>
    let (port, rest) ← cutPort scheme rest
    return (⟨username, password, host, port⟩, rest)
  | _ => return (⟨username, password, host, none⟩, rest)

/-! ### Paths -/

/-- The path behind an authority. The path of a special scheme is never
empty. -/
def pathAfterAuthority (rules : PathRules) (cs : List Char) : List Char :=
  match cs with
  | [] => if rules.special then ['/'] else []
  | c :: rest =>
    if isSlash rules.special c then (extendPath rules ['/'] rest).path
    else (extendPath rules ['/'] (c :: rest)).path

/-- Reads what follows the two slashes in front of an authority. -/
def afterSlashes (scheme : String) (r : Reference) (cs : List Char) : Except Error Url := do
  let special := isSpecialScheme scheme
  let (authority, rest) ← cutAuthority scheme r.continues cs
  let path := pathAfterAuthority (.ofScheme special scheme) rest
  return ⟨scheme, some authority, String.ofList path, r.encodedQuery special, r.encodedFragment⟩

/-- Reads what follows a scheme that is not special. -/
def afterPlainScheme (scheme : String) (r : Reference) (cs : List Char) : Except Error Url :=
  let url (path : List Char) : Url :=
    ⟨scheme, none, String.ofList path, r.encodedQuery false, r.encodedFragment⟩
  match cs with
  | '/' :: '/' :: rest => afterSlashes scheme r rest
  | '/' :: rest => .ok (url (extendPath ⟨false, false⟩ ['/'] rest).path)
  | _ => .ok (url (Percent.encode Percent.isControl cs))

/-! ### Relative references -/

/-- Resolves a reference without a scheme against a base that is no file. -/
def relativeTo (base : Url) (r : Reference) (cs : List Char) : Except Error Url :=
  let special := isSpecialScheme base.scheme
  let rules := PathRules.ofScheme special base.scheme
  let withPath (path : List Char) : Url :=
    { base with path := String.ofList path
                query := r.encodedQuery special
                fragment := r.encodedFragment }
  match cs with
  | [] => .ok { base with query := r.encodedQuery special <|> base.query
                          fragment := r.encodedFragment }
  | c :: rest =>
    if isSlash true c then
      -- Two slashes start an authority, one slash starts at the root.
      if 2 ≤ slashCount cs then
        match cs with
        | '/' :: '/' :: rest => afterSlashes base.scheme r rest
        | _ => afterSlashes base.scheme r (cs.drop (slashCount cs))
      else .ok (withPath (extendPath rules ['/'] rest).path)
    else
      let above := popSegment rules base.path.toList
      let above := if above.isEmpty then ['/'] else above
      .ok (withPath (extendPath rules above cs).path)

/-! ### Files -/

/-- The location of a file. -/
def fileUrl (host : Option Host) (path : List Char) (r : Reference) : Url :=
  ⟨"file", some ⟨"", "", host, none⟩, String.ofList path, r.encodedQuery true, r.encodedFragment⟩

/-- The rules for the paths of files. -/
def fileRules : PathRules := ⟨true, true⟩

/-- Reads the host of a file; the local host is no host. -/
def fileHost (cs : List Char) : Except Error (Option Host) :=
  if cs.isEmpty then .ok none
  else do
    let host ← specialHost cs
    return if host = .domain "localhost" then none else some host

/-- Reads what follows the two slashes of the location of a file. A drive is no
host, and where the path starts with one there is no host either. -/
def fileAfterSlashes (r : Reference) (cs : List Char) : Except Error Url := do
  let name := cs.takeWhile (!isSlash true ·)
  if isDriveLetter isDriveMark name then
    return fileUrl none (extendPath fileRules ['/'] cs).path r
  else
    let host ← fileHost name
    let p := extendPath fileRules ['/'] ((cs.dropWhile (!isSlash true ·)).drop 1)
    return fileUrl (if p.keepsHost then host else none) p.path r

/-- The drive at the front of a path. -/
def leadingDrive? (path : List Char) : Option (List Char) :=
  let first := (path.drop 1).takeWhile (· ≠ '/')
  if isDriveLetter (· = ':') first then some first else none

/-- Reads the location of a file, against the location of another one if there
is a base. -/
def fileRelativeTo (base : Option Url) (r : Reference) (cs : List Char) : Except Error Url :=
  match cs with
  | c :: rest =>
    if isSlash true c then
      match rest with
      | d :: after =>
        if isSlash true d then fileAfterSlashes r after else .ok (fromRoot rest)
      | [] => .ok (fromRoot rest)
    else .ok (relative cs)
  | [] => .ok (relative [])
where
  /-- Resolves what follows the one slash of an absolute path. -/
  fromRoot (rest : List Char) : Url :=
    let authority := base.bind (·.authority)
    let path := (base.map (·.path.toList)).getD []
    if startsWithDrive rest then fileUrl none (extendPath fileRules ['/'] rest).path r
    else
      -- The root is the drive of the base, if it has one.
      match leadingDrive? path with
      | some drive => fileUrl none (extendPath fileRules (['/'] ++ drive ++ ['/']) rest).path r
      | none => fileUrl (authority.bind (·.host)) (extendPath fileRules ['/'] rest).path r
  /-- Resolves a relative path. -/
  relative (cs : List Char) : Url :=
    match base with
    | none => fileUrl none (extendPath fileRules ['/'] cs).path r
    | some base =>
      if cs.isEmpty then
        { base with query := r.encodedQuery true <|> base.query
                    fragment := r.encodedFragment }
      else if startsWithDrive cs then fileUrl none (extendPath fileRules ['/'] cs).path r
      else
        let parent := popSegment fileRules base.path.toList
        { base with
            path := String.ofList (extendPath fileRules parent cs).path
            query := r.encodedQuery true
            fragment := r.encodedFragment }

/-! ### Locations -/

/-- Reads a reference, against a base if there is one. -/
def ofReference (base : Option Url) (r : Reference) : Except Error Url :=
  match cutScheme? r.main with
  | some (scheme, rest) =>
    if scheme = "file" then fileRelativeTo (base.filter (·.scheme = "file")) r rest
    else if isSpecialScheme scheme then
      -- The scheme of the base may be repeated in front of a relative reference.
      match base.filter fun b => b.scheme = scheme ∧ slashCount rest < 2 with
      | some base => relativeTo base r rest
      | none => afterSlashes scheme r (rest.drop (slashCount rest))
    else afterPlainScheme scheme r rest
  | none =>
    match base with
    | none => .error .noBase
    | some base =>
      if r.main.isEmpty && r.query.isNone && r.fragment.isSome then
        .ok { base with fragment := r.encodedFragment }
      else if base.isOpaque then .error .opaqueBase
      else if base.scheme = "file" then fileRelativeTo (some base) r r.main
      else relativeTo base r r.main

/-- Reads a location that stands on its own. -/
def parse (text : String) : Except Error Url := ofReference none (.ofText text)

/-- Reads a location that may be relative to a base. -/
def join (base : Url) (text : String) : Except Error Url := ofReference (some base) (.ofText text)

end DraftSchema.Url
