/-
Private-IP-literal classification, from the text alone.

The manager dials a satellite only at an address that passes this, so a hostile beacon
cannot point it at an internet host.  The source works on the bytes of the host and this
on its characters; a character outside ASCII is in no literal either way.
-/

namespace Dish

namespace IpLiterals

def isDigit (c : Char) : Bool := '0' ≤ c && c ≤ '9'

def isHexDigit (c : Char) : Bool := isDigit c || ('a' ≤ c && c ≤ 'f') || ('A' ≤ c && c ≤ 'F')

/-- Keeps empties: `a::b` splits to `a`, the empty piece, and `b`. -/
def split (delim : Char) : List Char → List (List Char)
  | [] => [[]]
  | c :: rest =>
    if c = delim then [] :: split delim rest
    else
      match split delim rest with
      | [] => [[c]]
      | piece :: pieces => (c :: piece) :: pieces

/-! ### IPv4 -/

/-- One to three digits, at most 255. -/
def octetOf (piece : List Char) : Option Nat :=
  if piece = [] ∨ 3 < piece.length ∨ !piece.all isDigit then none
  else
    let value := piece.foldl (fun v c => v * 10 + (c.toNat - '0'.toNat)) 0
    if 255 < value then none else some value

def parseIpv4 (host : List Char) : Option (Nat × Nat × Nat × Nat) :=
  match split '.' host with
  | [a, b, c, d] => do return (← octetOf a, ← octetOf b, ← octetOf c, ← octetOf d)
  | _ => none

def isPrivateIpv4 : Nat × Nat × Nat × Nat → Bool
  | (a, b, _, _) =>
    a = 10 || (a = 172 && 16 ≤ b && b ≤ 31) || (a = 192 && b = 168) || (a = 169 && b = 254) ||
      a = 127

/-! ### IPv6 -/

/-- The text before and after the first `::`. -/
def splitOnce : List Char → Option (List Char × List Char)
  | [] => none
  | [_] => none
  | c :: d :: rest =>
    if c = ':' ∧ d = ':' then some ([], rest)
    else (splitOnce (d :: rest)).map fun (head, tail) => (c :: head, tail)

structure Ipv6Halves where
  head : List Char
  tail : List Char := []
  hasCompression : Bool := false

/-- A literal's two halves around its one `::`; none for a second one. -/
def splitAroundCompression (host : List Char) : Option Ipv6Halves :=
  match splitOnce host with
  | none => some { head := host }
  | some (head, tail) =>
    if (splitOnce tail).isSome then none
    else some { head := head, tail := tail, hasCompression := true }

def hexValue (c : Char) : Nat :=
  if isDigit c then c.toNat - '0'.toNat
  else if 'a' ≤ c then c.toNat - 'a'.toNat + 10
  else c.toNat - 'A'.toNat + 10

def hexNumber (digits : List Char) : Nat := digits.foldl (fun v c => v * 16 + hexValue c) 0

/-- One hextet: up to four hex digits, and at least one. -/
def hextetOf (piece : List Char) : Option Nat :=
  if piece = [] ∨ 4 < piece.length ∨ !piece.all isHexDigit then none
  else some (hexNumber piece)

def hextetsOfPieces (allowEmbeddedV4 : Bool) : List (List Char) → Option (List Nat)
  | [] => some []
  | [piece] =>
    if allowEmbeddedV4 ∧ '.' ∈ piece then
      -- an embedded IPv4 occupies the final two groups
      (parseIpv4 piece).map fun (a, b, c, d) => [a * 256 + b, c * 256 + d]
    else (hextetOf piece).map fun hextet => [hextet]
  | piece :: pieces => do
      return (← hextetOf piece) :: (← hextetsOfPieces allowEmbeddedV4 pieces)

def hextetsOf (part : List Char) (allowEmbeddedV4 : Bool) : Option (List Nat) :=
  if part = [] then some [] else hextetsOfPieces allowEmbeddedV4 (split ':' part)

/-- `::` stands for the zero groups that make eight, and for at least one of them. -/
def expandToEight (head tail : List Nat) (hasCompression : Bool) : Option (List Nat) :=
  if !hasCompression then if head.length ≠ 8 then none else some head
  else
    let present := head.length + tail.length
    if 8 ≤ present then none
    else some (head ++ List.replicate (8 - present) 0 ++ tail)

/-- `parseIpv6`, as sixteen bytes.  A zone id is no part of a literal. -/
def parseIpv6 (host : List Char) : Option (List Nat) := do
  if '%' ∈ host then none
  else
    let halves ← splitAroundCompression host
    let head ← hextetsOf halves.head (!halves.hasCompression)
    let tail ← hextetsOf halves.tail true
    let full ← expandToEight head tail halves.hasCompression
    if full.length ≠ 8 then none else some (full.flatMap fun g => [g / 256, g % 256])

def isPrivateIpv6 (bytes : List Nat) : Bool :=
  let b0 := bytes.getD 0 0
  let b1 := bytes.getD 1 0
  bytes = List.replicate 15 0 ++ [1] || b0 = 0xfc || b0 = 0xfd || (b0 = 0xfe && b1 / 64 = 2)

end IpLiterals

open IpLiterals

/-- True of a private, loopback, link-local or unique-local literal, and of no host name. -/
def isPrivateHostLiteral (host : String) : Bool :=
  let chars := host.toList
  -- the brackets of the IPv6 URL form
  let h :=
    if 2 ≤ chars.length ∧ chars.head? = some '[' ∧ chars.getLast? = some ']' then
      (chars.drop 1).dropLast
    else chars
  match parseIpv4 h with
  | some v4 => isPrivateIpv4 v4
  | none =>
    match parseIpv6 h with
    | some v6 => isPrivateIpv6 v6
    | none => false

/-- The colon decides it, since no IPv4 literal or host name has one. -/
def isIpv6Address (host : String) : Bool := ':' ∈ host.toList

end Dish
