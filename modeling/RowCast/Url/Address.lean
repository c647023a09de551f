import RowCast.Text.Digits
import RowCast.Text.Hex

/-!
# Network addresses

IPv4 addresses in their many spellings, IPv6 addresses, and the text of both.
-/

namespace RowCast.Url

open scoped CorePowers

/-- Split a text at each dot. -/
def splitDots : List Char → List (List Char)
  | [] => [[]]
  | '.' :: rest => [] :: splitDots rest
  | c :: rest =>
    match splitDots rest with
    | [] => [[c]]
    | part :: parts => (c :: part) :: parts

/-- The number that digits of a base write, if all of them are digits of that base. -/
def numberInBase (base : Nat) (digits : List Char) : Option Nat :=
  digits.foldlM
    (fun n c => (Text.hexValue? c).bind fun d => if d < base then some (n * base + d) else none) 0

/-- A part of an IPv4 address: decimal, octal behind `0` or hexadecimal behind `0x`. -/
def addressNumber : List Char → Option Nat
  | [] => none
  | '0' :: 'x' :: digits => numberInBase 16 digits
  | '0' :: 'X' :: digits => numberInBase 16 digits
  | '0' :: c :: digits => numberInBase 8 (c :: digits)
  | digits => numberInBase 10 digits

/-- The parts of a host between dots, without an empty last one. -/
def hostParts (host : List Char) : List (List Char) :=
  let parts := splitDots host
  if parts.getLast? = some [] then parts.dropLast else parts

/-- Whether the last part of a host is a number, so that the host must be an IPv4 address. -/
def endsInNumber (host : List Char) : Bool :=
  match (hostParts host).getLast? with
  | none => false
  | some part => (part ≠ [] && part.all Text.isDigit) || (addressNumber part).isSome

/--
The address of 32 bits that the parts of a host write; the last part fills what the others leave.
-/
def ipv4OfParts (parts : List (List Char)) : Option Nat :=
  if 4 < parts.length then none else do
    let numbers ← parts.mapM addressNumber
    let last ← numbers.getLast?
    let front := numbers.dropLast
    if front.all (· ≤ 255) && last < 256 ^ (4 - front.length) then
      some (front.foldl (fun acc n => acc * 256 + n) 0 * 256 ^ (4 - front.length) + last)
    else none

/-- Read an IPv4 address. -/
def readIpv4 (host : List Char) : Option Nat :=
  ipv4OfParts (hostParts host)

/-- The four bytes of an IPv4 address with dots between them. -/
def ipv4Text (address : Nat) : List Char :=
  Text.natText (address / 16777216 % 256) ++ '.' :: Text.natText (address / 65536 % 256) ++
    '.' :: Text.natText (address / 256 % 256) ++ '.' :: Text.natText (address % 256)

/-- Read one to four hexadecimal digits, or none. -/
def readPiece (s : List Char) : Nat × List Char × List Char :=
  let digits := (s.take 4).takeWhile fun c => (Text.hexValue? c).isSome
  ((numberInBase 16 digits).getD 0, digits, s.drop digits.length)

/-- Read a decimal byte without needless zeros. -/
def readByte (s : List Char) : Option (Nat × List Char) :=
  let (digits, rest) := Text.spanDigits s
  let n := Text.digitsValue 0 digits
  if digits = [] ∨ (digits.head? = some '0' ∧ 1 < digits.length) ∨ 255 < n then none
  else some (n, rest)

/-- Read an IPv4 address at the end of an IPv6 address as two pieces. -/
def readEmbedded (s : List Char) : Option (List Nat) := do
  let (a, s) ← readByte s
  let s ← if s.head? = some '.' then some s.tail else none
  let (b, s) ← readByte s
  let s ← if s.head? = some '.' then some s.tail else none
  let (c, s) ← readByte s
  let s ← if s.head? = some '.' then some s.tail else none
  let (d, s) ← readByte s
  if s = [] then some [a * 256 + b, c * 256 + d] else none

/--
Read the pieces of an IPv6 address from a place where a piece may begin. `gap` is the number of
pieces before the gap `::`, if there was one; the fuel is the length of the text.
-/
def readPieces : Nat → List Nat → Option Nat → List Char → Option (List Nat × Option Nat)
  | 0, _, _, _ => none
  | _ + 1, pieces, gap, [] => some (pieces, gap)
  | fuel + 1, pieces, gap, s =>
    if 8 ≤ pieces.length + (if gap.isSome then 1 else 0) then none
    else if s.head? = some ':' then
      if gap.isSome then none else readPieces fuel pieces (some pieces.length) s.tail
    else
      let (value, digits, rest) := readPiece s
      match rest with
      | [] => some (pieces ++ [value], gap)
      | ':' :: rest =>
        if rest = [] then none else readPieces fuel (pieces ++ [value]) gap rest
      | '.' :: _ =>
        if digits = [] ∨ 6 < pieces.length + (if gap.isSome then 1 else 0) then none
        else (readEmbedded s).map fun embedded => (pieces ++ embedded, gap)
      | _ => none

/-- Read an IPv6 address as eight pieces; the gap stands for as many zeros as are missing. -/
def readIpv6 (s : List Char) : Option (List Nat) := do
  let (pieces, gap) ← match s with
    | ':' :: ':' :: rest => readPieces (s.length + 1) [] (some 0) rest
    | ':' :: _ => none
    | s => if s.length < 2 then none else readPieces (s.length + 1) [] none s
  match gap with
  | some before =>
    some (pieces.take before ++ List.replicate (8 - pieces.length) 0 ++ pieces.drop before)
  | none => if pieces.length = 8 then some pieces else none

/-- The length of the run of zeros at the front. -/
def zeroRun (pieces : List Nat) : Nat :=
  (pieces.takeWhile (· == 0)).length

/-- The start and length of the first longest run of zeros, among the starts below `bound`. -/
def longestZeroRun (pieces : List Nat) (bound : Nat) : Nat × Nat :=
  (List.range bound).foldl
    (fun best i => if best.2 < zeroRun (pieces.drop i) then (i, zeroRun (pieces.drop i)) else best)
    (0, 0)

/-- Pieces in hexadecimal with colons between them. -/
def piecesText : List Nat → List Char
  | [] => []
  | [p] => Text.hexText p
  | p :: rest => Text.hexText p ++ ':' :: piecesText rest

/-- The text of an IPv6 address; its first longest run of two or more zeros becomes a gap. -/
def ipv6Text (pieces : List Nat) : List Char :=
  let (start, count) := longestZeroRun pieces 8
  if count < 2 then piecesText pieces
  else piecesText (pieces.take start) ++ [':', ':'] ++ piecesText (pieces.drop (start + count))

end RowCast.Url
