/-
# Socket addresses

`SPEC_FULL` §10.3: the field `bind_addr` of `ServerConfig`.

The address that a server listens on is written `127.0.0.1:3001` or `[::1]:3001`.
`SocketAddress.parse?` reads one, and `SocketAddress.display` writes it in its
normal form: numbers without leading zeros, and the longest row of zero groups,
the first of several, as `::`.
-/

import Alternation.Json.Document

namespace Alternation

/-- An address of either family. -/
inductive IpAddress where
  /-- Four numbers below 256. -/
  | v4 (octets : List Nat)
  /-- Eight numbers below 65536, and the zone of the address. -/
  | v6 (groups : List Nat) (scope : Nat)
deriving DecidableEq, Repr

/-- An address with a port. -/
structure SocketAddress where
  ip : IpAddress
  port : Nat
deriving DecidableEq, Repr

namespace SocketAddress

/-! ## Reading -/

/-- The value of a digit in a base of at most sixteen. -/
def digit? (base : Nat) (c : Char) : Option Nat := (Json.hexValue? c).filter (· < base)

/-- Reads a number below `bound` of at most `width` digits. -/
def readNumber (base : Nat) (width : Option Nat) (zeroPrefix : Bool) (bound : Nat)
    (cs : List Char) : Option (Nat × List Char) :=
  let ds := cs.takeWhile fun c => (digit? base c).isSome
  let value := (ds.filterMap (digit? base)).foldl (fun n d => base * n + d) 0
  if ds = [] ∨ width.any (· < ds.length) ∨ bound ≤ value then none
  else if !zeroPrefix && ds.head? == some '0' && 1 < ds.length then none
  else some (value, cs.drop ds.length)

/-- Reads a given character. -/
def readMark (mark : Char) (cs : List Char) : Option (List Char) :=
  match cs with
  | c :: rest => if c = mark then some rest else none
  | [] => none

/-- Reads one of the four numbers of an address. -/
def readOctet (cs : List Char) : Option (Nat × List Char) := readNumber 10 (some 3) false 256 cs

/-- Reads four numbers with points between them. -/
def readV4 (cs : List Char) : Option (List Nat × List Char) := do
  let (a, cs) ← readOctet cs
  let (b, cs) ← readOctet (← readMark '.' cs)
  let (c, cs) ← readOctet (← readMark '.' cs)
  let (d, cs) ← readOctet (← readMark '.' cs)
  return ([a, b, c, d], cs)

/-- Passes over the colon before every group but the first. -/
def readSeparator (first : Bool) (cs : List Char) : Option (List Char) :=
  if first then some cs else readMark ':' cs

/-- Reads a hexadecimal group. -/
def readGroup (first : Bool) (cs : List Char) : Option (Nat × List Char) := do
  readNumber 16 (some 4) true 65536 (← readSeparator first cs)

/-- Reads up to `limit` groups; the last two may be four numbers with points. Tells
whether they were. -/
def readGroups (first : Bool) : (limit : Nat) → List Char → List Nat × Bool × List Char
  | 0, cs => ([], false, cs)
  | limit + 1, cs =>
    match if limit = 0 then none else (readSeparator first cs).bind readV4 with
    | some ([a, b, c, d], rest) => ([256 * a + b, 256 * c + d], true, rest)
    | _ =>
      match readGroup first cs with
      | some (group, rest) =>
        let (groups, dotted, rest) := readGroups false limit rest
        (group :: groups, dotted, rest)
      | none => ([], false, cs)

/-- Reads eight groups, or fewer around a `::` that stands for the missing zeros. -/
def readV6 (cs : List Char) : Option (List Nat × List Char) :=
  let (head, dotted, rest) := readGroups true 8 cs
  if head.length = 8 then some (head, rest)
  else if dotted then none
  else
    match rest with
    | ':' :: ':' :: rest =>
      let (tail, _, rest) := readGroups true (7 - head.length) rest
      some (head ++ List.replicate (8 - head.length - tail.length) 0 ++ tail, rest)
    | _ => none

/-- Reads the port after its colon. -/
def readPort (cs : List Char) : Option (Nat × List Char) := do
  readNumber 10 none true 65536 (← readMark ':' cs)

/-- Reads the zone of an address, nought if there is none. -/
def readScope (cs : List Char) : Nat × List Char :=
  match (readMark '%' cs).bind (readNumber 10 none true UInt32.size) with
  | some result => result
  | none => (0, cs)

/-- Reads an address of either family. -/
def readAddress (cs : List Char) : Option (IpAddress × List Char) :=
  match cs with
  | '[' :: rest => do
    let (groups, rest) ← readV6 rest
    let (scope, rest) := readScope rest
    return (.v6 groups scope, ← readMark ']' rest)
  | _ => (readV4 cs).map fun (octets, rest) => (.v4 octets, rest)

/-- The socket address that a text writes. -/
def parse? (text : String) : Option SocketAddress := do
  let (ip, rest) ← readAddress text.toList
  let (port, rest) ← readPort rest
  if rest = [] then return ⟨ip, port⟩ else none

/-! ## Writing -/

/-- Numbers with points between them. -/
def displayV4 (octets : List Nat) : String := ".".intercalate (octets.map toString)

/-- Groups with colons between them. -/
def displayGroups (groups : List Nat) : String :=
  ":".intercalate (groups.map fun g => String.ofList (Nat.toDigits 16 g))

/-- The length of the row of zeros at each position. -/
def zeroRuns : List Nat → List Nat
  | [] => []
  | g :: gs =>
    let runs := zeroRuns gs
    (if g = 0 then runs.headD 0 + 1 else 0) :: runs

/-- The groups with the longest row of zeros shortened. -/
def displayV6 (groups : List Nat) : String :=
  match groups with
  | [0, 0, 0, 0, 0, 0xFFFF, x, y] =>
    "::ffff:" ++ displayV4 [x / 256, x % 256, y / 256, y % 256]
  | _ =>
    let runs := zeroRuns groups
    let longest := runs.foldl max 0
    if longest < 2 then displayGroups groups
    else
      let start := runs.findIdx (· == longest)
      displayGroups (groups.take start) ++ "::" ++ displayGroups (groups.drop (start + longest))

/-- The normal form of an address. -/
def display (address : SocketAddress) : String :=
  match address.ip with
  | .v4 octets => displayV4 octets ++ ":" ++ toString address.port
  | .v6 groups scope =>
    let zone := if scope = 0 then "" else "%" ++ toString scope
    "[" ++ displayV6 groups ++ zone ++ "]:" ++ toString address.port

end SocketAddress
end Alternation
