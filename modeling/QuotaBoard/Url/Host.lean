import QuotaBoard.Text.Blank
import QuotaBoard.Text.Percent
import QuotaBoard.Text.Utf8
import QuotaBoard.Url.Domain

/-!
# Hosts of URLs

The host of a web address is a domain, an IPv4 address or an IPv6 address.  A host that ends in
a number is an IPv4 address or nothing; numbers may be octal or hexadecimal and parts may be left
out.  The host of any other address is not looked into.
-/

namespace QuotaBoard.Url

/-- Why a text is no URL. -/
inductive ParseError where
  | relativeWithoutBase
  | emptyHost
  | invalidPort
  | invalidIpv4
  | invalidIpv6
  /-- A domain with characters that no domain may have. -/
  | invalidDomain
  | invalidHostCharacter
deriving DecidableEq

/-- The text that is shown. -/
def ParseError.message : ParseError → String
  | relativeWithoutBase => "relative URL without a base"
  | emptyHost => "empty host"
  | invalidPort => "invalid port number"
  | invalidIpv4 => "invalid IPv4 address"
  | invalidIpv6 => "invalid IPv6 address"
  | invalidDomain => "invalid international domain name"
  | invalidHostCharacter => "invalid domain character"

/-- A host. -/
inductive Host where
  | domain (name : String)
  | ipv4 (address : Nat)
  /-- Eight pieces of sixteen bits. -/
  | ipv6 (pieces : List Nat)
deriving DecidableEq

namespace Host

/-! ## IPv4 -/

/-- The number that some digits of a base spell. -/
def numeral? (base : Nat) (cs : List Char) : Option Nat :=
  cs.foldlM (fun n c => do
    let d ← Percent.value? c
    guard (d < base)
    some (base * n + d)) 0

/-- One part of an IPv4 address: decimal, octal after `0`, or hexadecimal after `0x`. -/
def ipv4Number? : List Char → Option Nat
  | [] => none
  | '0' :: 'x' :: cs | '0' :: 'X' :: cs => numeral? 16 cs
  | '0' :: c :: cs => numeral? 8 (c :: cs)
  | cs => numeral? 10 cs

/-- The parts of a host between its points, without an empty last one. -/
def parts (cs : List Char) : List (List Char) :=
  let all := Text.splitOnChar '.' cs
  if all.getLast? = some [] then all.dropLast else all

/-- Whether a host has to be an IPv4 address: its last part is a number, or digits that are
not. -/
def endsInNumber (cs : List Char) : Bool :=
  match (parts cs).getLast? with
  | none => false
  | some last => (!last.isEmpty && last.all Char.isDigit) || (ipv4Number? last).isSome

/-- The IPv4 address that a host spells; the last part fills all bytes that are left. -/
def parseIpv4? (cs : List Char) : Option Nat := do
  let parts := parts cs
  guard (parts.length ≤ 4)
  let numbers ← parts.mapM ipv4Number?
  let last ← numbers.getLast?
  let leading := numbers.dropLast
  guard (leading.all (· ≤ 255) && last < Nat.pow 256 (4 - leading.length))
  let high := leading.foldl (fun n part => 256 * n + part) 0
  some (high * Nat.pow 256 (4 - leading.length) + last)

/-- An IPv4 address in decimal. -/
def ipv4Text (address : Nat) : String :=
  ".".intercalate ([3, 2, 1, 0].map fun i => toString (address / Nat.pow 256 i % 256))

/-! ## IPv6 -/

/-- One part of an IPv4 address that stands in an IPv6 address: decimal without superfluous
zeros. -/
def plainByte? (cs : List Char) : Option Nat := do
  guard (cs.length = 1 || cs.head? ≠ some '0')
  guard !cs.isEmpty
  let n ← numeral? 10 cs
  guard (n ≤ 255)
  some n

/-- The pieces that a part of an IPv6 address spells; the last part may be an IPv4 address. -/
def pieces? : List (List Char) → Option (List Nat)
  | [] => some []
  | [last] =>
    if last.contains '.' then do
      match ← (Text.splitOnChar '.' last).mapM plainByte? with
      | [a, b, c, d] => some [256 * a + b, 256 * c + d]
      | _ => none
    else do
      guard (1 ≤ last.length ∧ last.length ≤ 4)
      some [← numeral? 16 last]
  | part :: rest => do
    guard (1 ≤ part.length ∧ part.length ≤ 4)
    let piece ← numeral? 16 part
    let pieces ← pieces? rest
    some (piece :: pieces)

/-- The parts on each side of the first `::`, if there is one. -/
def splitGap? : List Char → Option (List Char × List Char)
  | [] => none
  | [_] => none
  | ':' :: ':' :: rest => some ([], rest)
  | c :: rest => (splitGap? rest).map fun (before, after) => (c :: before, after)

/-- The pieces of a text without `::`; nothing has none. -/
def piecesOf? (cs : List Char) : Option (List Nat) :=
  if cs.isEmpty then some [] else pieces? (Text.splitOnChar ':' cs)

/-- The IPv6 address that stands in brackets; `::` stands for one zero or more. -/
def parseIpv6? (cs : List Char) : Option (List Nat) :=
  match splitGap? cs with
  | none => do
    let pieces ← piecesOf? cs
    guard (pieces.length = 8)
    some pieces
  | some (before, after) => do
    guard !before.contains '.'
    let left ← piecesOf? before
    let right ← piecesOf? after
    guard (left.length + right.length ≤ 7)
    some (left ++ List.replicate (8 - left.length - right.length) 0 ++ right)

/-- A piece in hexadecimal. -/
def pieceText (n : Nat) : String := String.ofList (Nat.toDigits 16 n)

/-- How many zeros a list starts with. -/
def leadingZeros (pieces : List Nat) : Nat := (pieces.takeWhile (· = 0)).length

/-- The first of the longest runs of zeros: where it starts, and its length. -/
def longestZeros (pieces : List Nat) : Nat × Nat :=
  (List.range pieces.length).foldl (fun best i =>
    let n := leadingZeros (pieces.drop i)
    if best.2 < n then (i, n) else best) (0, 0)

/-- An IPv6 address, its longest run of at least two zeros written as `::`. -/
def ipv6Text (pieces : List Nat) : String :=
  let join := fun ps : List Nat => ":".intercalate (ps.map pieceText)
  let (start, length) := longestZeros pieces
  if length < 2 then join pieces
  else join (pieces.take start) ++ "::" ++ join (pieces.drop (start + length))

/-! ## Hosts -/

/-- Characters that no host may have. -/
def forbidden (c : Char) : Bool :=
  c = '\x00' || "\t\n\r #/:<>?@[\\]^|".toList.contains c

/-- What stands between brackets, if a text is bracketed. -/
def unbracketed? (cs : List Char) : Option (List Char) :=
  if cs.getLast? = some ']' then some cs.dropLast else none

/-- The host of a web address. -/
def parse (cs : List Char) : Except ParseError Host :=
  match cs with
  | '[' :: rest =>
    match (unbracketed? rest).bind parseIpv6? with
    | some pieces => .ok (.ipv6 pieces)
    | none => .error .invalidIpv6
  | cs =>
    match (Utf8.text? (Percent.decode cs)).bind fun s => Domain.ascii? s.toList with
    | none => .error .invalidDomain
    | some [] => .error .emptyHost
    | some name =>
      if endsInNumber name then
        match parseIpv4? name with
        | some address => .ok (.ipv4 address)
        | none => .error .invalidIpv4
      else .ok (.domain (String.ofList name))

/-- The host of any other address, which may be empty. -/
def parseOpaque (cs : List Char) : Except ParseError Host :=
  match cs with
  | '[' :: rest =>
    match (unbracketed? rest).bind parseIpv6? with
    | some pieces => .ok (.ipv6 pieces)
    | none => .error .invalidIpv6
  | cs =>
    if cs.any forbidden then .error .invalidHostCharacter
    else .ok (.domain (String.ofList (Percent.encode Percent.control cs)))

/-- Whether a host is the empty one. -/
def isEmpty : Host → Bool
  | domain name => name = ""
  | _ => false

/-- The text of a host. -/
def text : Host → String
  | domain name => name
  | ipv4 address => ipv4Text address
  | ipv6 pieces => "[" ++ ipv6Text pieces ++ "]"

end Host

end QuotaBoard.Url
