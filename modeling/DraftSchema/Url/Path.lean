import DraftSchema.Url.Percent

/-!
# `DraftSchema.Url.Path`: paths of segments

A path is built one segment at a time. A segment `.` adds nothing, a segment
`..` takes the last segment away, and both may be written with encoded points.
The letter of a drive stays at the front of the path of a file, whose letter may
be followed by a bar instead of a colon.
-/

set_option autoImplicit false

namespace DraftSchema.Url

/-- Which rules hold for a path. -/
structure PathRules where
  /-- The scheme is special: a backslash parts segments. -/
  special : Bool
  /-- The scheme is the one of files: drives have letters. -/
  file : Bool

/-- The rules for the paths of a scheme. -/
def PathRules.ofScheme (special : Bool) (scheme : String) : PathRules :=
  ⟨special, scheme = "file"⟩

/-! ### Drives -/

/-- A letter and a mark that stand for a drive. -/
def isDriveLetter (mark : Char → Bool) : List Char → Bool
  | [c, m] => c.isAlpha && mark m
  | _ => false

/-- The mark behind the letter of a drive, in either spelling. -/
def isDriveMark (c : Char) : Bool := c = ':' || c = '|'

/-- The text starts with a drive that is a whole segment. -/
def startsWithDrive : List Char → Bool
  | [c, m] => c.isAlpha && isDriveMark m
  | c :: m :: d :: _ =>
    c.isAlpha && isDriveMark m && (d = '/' || d = '\\' || d = '?' || d = '#')
  | _ => false

/-! ### The last segment -/

/-- The path up to its last slash. -/
def uptoLastSlash (path : List Char) : List Char :=
  (path.reverse.dropWhile (· ≠ '/')).reverse

/-- The segment behind the last slash. -/
def lastSegment (path : List Char) : List Char :=
  (path.reverse.takeWhile (· ≠ '/')).reverse

/-- The path without its last segment; the slash in front of it stays. A drive
stays as well. -/
def popSegment (rules : PathRules) (path : List Char) : List Char :=
  if rules.file && isDriveLetter (· = ':') (lastSegment path) then path else uptoLastSlash path

/-- The path ends with a slash. -/
def endsWithSlash (path : List Char) : Bool := path.getLast? = some '/'

/-- The slash at the end of a path may go: it is not the only one, and there is
no drive in front of it. -/
def slashMayGo (path : List Char) : Bool :=
  path.dropLast.contains '/' && !startsWithDrive (lastSegment path.dropLast ++ ['/'])

/-- The path with a slash at its end. -/
def withSlash (path : List Char) : List Char :=
  if endsWithSlash path then path else path ++ ['/']

/-! ### Segments -/

/-- The segment stands for the current directory. -/
def isSingleDot (segment : List Char) : Bool :=
  segment.map Char.toLower ∈ [['.'], ['%', '2', 'e']]

/-- The segment stands for the directory above. -/
def isDoubleDot (segment : List Char) : Bool :=
  segment.map Char.toLower ∈
    [['.', '.'], ['%', '2', 'e', '.'], ['.', '%', '2', 'e'], ['%', '2', 'e', '%', '2', 'e']]

/-- Cuts a text into segments, at slashes and, where the scheme is special, at
backslashes. -/
def segments (rules : PathRules) : List Char → List (List Char)
  | [] => [[]]
  | c :: rest =>
    match segments rules rest with
    | [] => [[]]
    | s :: more =>
      if c = '/' ∨ (rules.special ∧ c = '\\') then [] :: s :: more else (c :: s) :: more

/-- A path that is being built. -/
structure PathSoFar where
  path : List Char
  /-- The location keeps its host: no drive has come first. -/
  keepsHost : Bool

/-- Adds a segment, with a slash behind it unless it is the last one. -/
def PathSoFar.push (rules : PathRules) (p : PathSoFar) (segment : List Char) (isLast : Bool) :
    PathSoFar :=
  let encoded := Percent.encode Percent.inPath segment
  let slash := if isLast then [] else ['/']
  let path :=
    if rules.file && !segment.isEmpty && isDriveLetter (· = ':') (p.path.drop 1) then
      p.path ++ ['/']
    else p.path
  -- The slash that was put behind the last segment goes first, then that segment.
  if isDoubleDot encoded then
    let above := if endsWithSlash path && slashMayGo path then path.dropLast else path
    let above := popSegment rules above
    ⟨if isLast then above else withSlash above, p.keepsHost⟩
  else if isSingleDot encoded then ⟨withSlash path, p.keepsHost⟩
  -- A drive at the front is written with a colon, and takes the place of a host.
  else if rules.file && path.length = 1 && isDriveLetter isDriveMark encoded then
    ⟨path ++ encoded.take 1 ++ [':'] ++ slash, false⟩
  else ⟨path ++ encoded ++ slash, p.keepsHost⟩

/-- Adds segments; the last one has no slash behind it. -/
def PathSoFar.pushAll (rules : PathRules) : PathSoFar → List (List Char) → PathSoFar
  | p, [] => p
  | p, [segment] => p.push rules segment true
  | p, segment :: more => (p.push rules segment false).pushAll rules more

/-- Continues a path by a text. The path of a file starts with one slash. -/
def extendPath (rules : PathRules) (path text : List Char) : PathSoFar :=
  let p := PathSoFar.pushAll rules ⟨path, true⟩ (segments rules text)
  if rules.file then ⟨'/' :: p.path.dropWhile (· = '/'), p.keepsHost⟩ else p

end DraftSchema.Url
