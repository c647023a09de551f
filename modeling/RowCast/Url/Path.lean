import RowCast.Url.Percent

/-!
# Paths

Paths of URLs with their dot segments resolved while they are read. In `file` URLs a drive letter at
the front stays in place, and a tab or line end behind it ends its segment.
-/

namespace RowCast.Url

/-- The kinds of schemes, by how their URLs are read. -/
inductive SchemeKind where
  | file
  /-- A scheme with hosts, such as `http`. -/
  | network
  | other
  deriving DecidableEq, Repr

namespace SchemeKind

/-- Whether a backslash counts as a slash. -/
def isSpecial : SchemeKind → Bool
  | other => false
  | _ => true

end SchemeKind

/-- Whether a character is a tab or ends a line; such breaks are no part of a URL. -/
def isBreak (c : Char) : Bool :=
  c == '\t' || c == '\n' || c == '\r'

/-- The text without its breaks. -/
def dropBreaks (s : List Char) : List Char :=
  s.filter fun c => !isBreak c

/-- Whether a character is an ASCII letter. -/
def isLetter (c : Char) : Bool :=
  ('a' ≤ c && c ≤ 'z') || ('A' ≤ c && c ≤ 'Z')

/-- A drive letter: a letter and a colon or a bar. -/
def isDrive : List Char → Bool
  | [c, d] => isLetter c && (d == ':' || d == '|')
  | _ => false

/-- A drive letter in its normal form, with a colon. -/
def isNormalDrive : List Char → Bool
  | [c, ':'] => isLetter c
  | _ => false

/-- Whether a text begins with a separator and a drive letter that ends there. -/
def startsWithDrive : List Char → Bool
  | '/' :: c :: d :: rest =>
    isDrive [c, d] && (rest = [] || ['/', '\\', '?', '#'].any fun e => rest.head? == some e)
  | _ => false

/-- Whether a segment means the directory above. -/
def isDoubleDot (segment : List Char) : Bool :=
  ["..", "%2e%2e", "%2e.", ".%2e"].any fun s => s.toList == segment.map Char.toLower

/-- Whether a segment means the directory itself. -/
def isSingleDot (segment : List Char) : Bool :=
  [".", "%2e"].any fun s => s.toList == segment.map Char.toLower

/-- A path that is being read. -/
structure PathState where
  path : List Char
  /-- The latest characters of the current segment, not yet joined to the path. -/
  pending : List Char
  /-- Where the current segment starts. -/
  start : Nat
  hasHost : Bool

/-- Join the pending characters to the path, percent-encoded. -/
def PathState.flush (p : PathState) : PathState :=
  { p with path := p.path ++ percentEncode inPathSet p.pending, pending := [] }

/-- The part of a path up to its last slash. -/
def uptoLastSlash (path : List Char) : List Char :=
  (path.reverse.dropWhile (· != '/')).reverse

/-- The last slash of a path goes unless it is the only one or ends a drive letter. -/
def dropLastSlash (path : List Char) : List Char :=
  let before := uptoLastSlash path.dropLast
  if path.getLast? = some '/' ∧ before ≠ [] ∧
      startsWithDrive (path.drop (before.length - 1)) = false then
    path.dropLast
  else path

/-- Remove the last segment of a path, but no drive letter. -/
def popSegment (kind : SchemeKind) (path : List Char) : List Char :=
  let front := uptoLastSlash path
  if kind = .file ∧ isNormalDrive (path.drop front.length) = true then path else front

/-- A path that ends with a slash. -/
def withSlash (path : List Char) : List Char :=
  if path.getLast? = some '/' then path else path ++ ['/']

/-- Close the current segment, at a slash or at the end of the path. -/
def PathState.close (kind : SchemeKind) (slash : Bool) (p : PathState) : PathState :=
  let segment := p.path.drop p.start
  let front := p.path.take p.start
  let closed :=
    if isDoubleDot segment then
      let popped := popSegment kind (dropLastSlash front)
      { p with path := if slash then withSlash popped else popped }
    else if isSingleDot segment then { p with path := withSlash front }
    else if kind = .file ∧ p.start = 1 ∧ isDrive segment = true then
      { p with
        path := front ++ segment.take 1 ++ ':' :: (if slash then ['/'] else [])
        hasHost := false }
    else { p with path := if slash then p.path ++ ['/'] else p.path }
  { closed with start := closed.path.length }

/--
Add a character to the current segment. A drive letter that is already joined to the path is closed
by a slash first.
-/
def PathState.push (kind : SchemeKind) (c : Char) (p : PathState) : PathState :=
  if kind = .file ∧ p.path ≠ [] ∧ isNormalDrive (p.path.drop 1) = true then
    { p with path := p.flush.path ++ ['/'], pending := [c], start := p.start + 1 }
  else { p with pending := p.pending ++ [c] }

/-- Read a path from its current state; a break joins what is pending and adds nothing. -/
def PathState.read (kind : SchemeKind) (p : PathState) : List Char → PathState
  | [] => p.flush.close kind false
  | c :: rest =>
    if isBreak c then p.flush.read kind rest
    else if c = '/' ∨ (c = '\\' ∧ kind.isSpecial = true) then
      (p.flush.close kind true).read kind rest
    else (p.push kind c).read kind rest

/-- Read a path behind what there is of it; also says whether the host stays. -/
def readPath (kind : SchemeKind) (hasHost : Bool) (front s : List Char) : List Char × Bool :=
  let p := (PathState.mk front [] front.length hasHost).read kind s
  (if kind = .file then '/' :: p.path.dropWhile (· == '/') else p.path, p.hasHost)

end RowCast.Url
