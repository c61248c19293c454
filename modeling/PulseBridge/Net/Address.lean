/-!
# Internet addresses

Addresses of both versions and socket addresses, with their usual texts. A socket address is read
strictly: the parts of a version 4 address have one to three digits and no zero in front, a version
6 address stands in brackets and may carry a numeric scope, and a port has digits alone.
-/

namespace PulseBridge.Net

/-- A version 4 address. -/
structure Ipv4 where
  a : UInt8
  b : UInt8
  c : UInt8
  d : UInt8
  deriving DecidableEq, Repr

/-- The address with a number of 32 bits. -/
def Ipv4.ofNat (n : Nat) : Ipv4 :=
  ⟨.ofNat (n / 0x1000000 % 256), .ofNat (n / 0x10000 % 256), .ofNat (n / 0x100 % 256),
    .ofNat (n % 256)⟩

/-- The address in four decimal parts. -/
def Ipv4.text (x : Ipv4) : String :=
  ".".intercalate ([x.a, x.b, x.c, x.d].map fun part => toString part.toNat)

/-- A version 6 address. -/
structure Ipv6 where
  groups : List UInt16
  eight : groups.length = 8
  deriving DecidableEq, Repr

/-- The address of eight groups. -/
def Ipv6.ofGroups? (groups : List UInt16) : Option Ipv6 :=
  if h : groups.length = 8 then some ⟨groups, h⟩ else none

/-- A group in hexadecimal. -/
def groupText (g : UInt16) : String := String.ofList (Nat.toDigits 16 g.toNat)

/-- Groups with a colon between each two. -/
def groupsText (groups : List UInt16) : String := ":".intercalate (groups.map groupText)

/-- The number of zeros at the front. -/
def zerosAtFront (groups : List UInt16) : Nat := (groups.takeWhile (· == 0)).length

/-- Where the longest run of zeros begins and how long it is; the first of several. -/
def longestZeros : Nat → List UInt16 → Nat × Nat
  | _, [] => (0, 0)
  | start, g :: groups =>
      let here := zerosAtFront (g :: groups)
      let later := longestZeros (start + 1) groups
      if later.2 ≤ here then (start, here) else later

/-- The address in hexadecimal groups, its longest run of two or more zeros left out. -/
def Ipv6.groupedText (x : Ipv6) : String :=
  let (start, length) := longestZeros 0 x.groups
  if length < 2 then groupsText x.groups
  else groupsText (x.groups.take start) ++ "::" ++ groupsText (x.groups.drop (start + length))

/-- The address as text; one that stands for a version 4 address ends in that address. -/
def Ipv6.text (x : Ipv6) : String :=
  match x.groups with
  | [0, 0, 0, 0, 0, 0xffff, high, low] =>
      "::ffff:" ++ (Ipv4.ofNat (high.toNat * 0x10000 + low.toNat)).text
  | _ => x.groupedText

/-- An address and a port. -/
inductive SocketAddress where
  | v4 (address : Ipv4) (port : UInt16)
  | v6 (address : Ipv6) (scope : UInt32) (port : UInt16)
  deriving DecidableEq, Repr

/-- A socket address as text. -/
def SocketAddress.text : SocketAddress → String
  | .v4 address port => address.text ++ ":" ++ toString port.toNat
  | .v6 address scope port =>
      let zone := if scope == 0 then "" else "%" ++ toString scope.toNat
      "[" ++ address.text ++ zone ++ "]:" ++ toString port.toNat

/-- The value of a digit in some base, if it is one. -/
def digit? (base : Nat) (c : Char) : Option Nat :=
  let value :=
    if '0' ≤ c ∧ c ≤ '9' then c.toNat - '0'.toNat
    else if 'a' ≤ c ∧ c ≤ 'f' then c.toNat - 'a'.toNat + 10
    else if 'A' ≤ c ∧ c ≤ 'F' then c.toNat - 'A'.toNat + 10
    else base
  if value < base then some value else none

/-- The digits at the front of a text, and what follows them. -/
def digitsAtFront (base : Nat) (cs : List Char) : List Nat × List Char :=
  (cs.takeWhile (fun c => (digit? base c).isSome) |>.filterMap (digit? base),
    cs.dropWhile fun c => (digit? base c).isSome)

/-- The number that digits stand for. -/
def ofDigits (base : Nat) (digits : List Nat) : Nat :=
  digits.foldl (fun n d => n * base + d) 0

/-- A number at the front of a text, not above `max`. -/
def readNumber (base max : Nat) (cs : List Char) : Option (Nat × List Char) :=
  let (digits, rest) := digitsAtFront base cs
  let n := ofDigits base digits
  if digits.isEmpty || max < n then none else some (n, rest)

/-- One part of a version 4 address. -/
def readPart (cs : List Char) : Option (UInt8 × List Char) :=
  let digits := (digitsAtFront 10 cs).1
  if 3 < digits.length || (1 < digits.length && digits.head? == some 0) then none
  else (readNumber 10 255 cs).map fun (n, rest) => (.ofNat n, rest)

/-- What follows an expected character. -/
def readChar (expected : Char) : List Char → Option (List Char)
  | c :: rest => if c == expected then some rest else none
  | [] => none

/-- A version 4 address at the front of a text. -/
def readIpv4 (cs : List Char) : Option (Ipv4 × List Char) := do
  let (a, cs) ← readPart cs
  let (b, cs) ← readPart (← readChar '.' cs)
  let (c, cs) ← readPart (← readChar '.' cs)
  let (d, cs) ← readPart (← readChar '.' cs)
  some (⟨a, b, c, d⟩, cs)

/-- A group of up to four hexadecimal digits. -/
def readGroup (cs : List Char) : Option (UInt16 × List Char) :=
  if 4 < (digitsAtFront 16 cs).1.length then none
  else (readNumber 16 0xffff cs).map fun (n, rest) => (.ofNat n, rest)

/-- Groups with colons between them, at most `limit` of them. The last two may be written as a
version 4 address, and then the flag is set. -/
def readGroups : (limit : Nat) → (first : Bool) → List Char → List UInt16 × Bool × List Char
  | 0, _, cs => ([], false, cs)
  | limit + 1, first, cs =>
      match if first then some cs else readChar ':' cs with
      | none => ([], false, cs)
      | some inner =>
          match if limit == 0 then none else readIpv4 inner with
          | some (x, rest) =>
              ([.ofNat (x.a.toNat * 256 + x.b.toNat), .ofNat (x.c.toNat * 256 + x.d.toNat)],
                true, rest)
          | none =>
              match readGroup inner with
              | none => ([], false, cs)
              | some (group, rest) =>
                  let (groups, dotted, rest) := readGroups limit false rest
                  (group :: groups, dotted, rest)

/-- A version 6 address at the front of a text. -/
def readIpv6 (cs : List Char) : Option (Ipv6 × List Char) := do
  let (head, dotted, cs) := readGroups 8 true cs
  if head.length == 8 then
    (Ipv6.ofGroups? head).map (·, cs)
  else if dotted then none
  else
    let cs ← readChar ':' (← readChar ':' cs)
    let (tail, _, cs) := readGroups (7 - head.length) true cs
    let zeros := List.replicate (8 - head.length - tail.length) 0
    (Ipv6.ofGroups? (head ++ zeros ++ tail)).map (·, cs)

/-- A port after its colon, at the end of a text. -/
def readPort (cs : List Char) : Option UInt16 := do
  match ← readNumber 10 0xffff (← readChar ':' cs) with
  | (port, []) => some (.ofNat port)
  | _ => none

/-- A scope, if one is given, and what follows it. -/
def readScope (cs : List Char) : UInt32 × List Char :=
  match readChar '%' cs >>= readNumber 10 0xFFFFFFFF with
  | some (scope, rest) => (.ofNat scope, rest)
  | none => (0, cs)

/-- The socket address that a text stands for. -/
def SocketAddress.ofText? (text : String) : Option SocketAddress :=
  let v4 : Option SocketAddress := do
    let (address, cs) ← readIpv4 text.toList
    return .v4 address (← readPort cs)
  let v6 : Option SocketAddress := do
    let (address, cs) ← readIpv6 (← readChar '[' text.toList)
    let (scope, cs) := readScope cs
    return .v6 address scope (← readPort (← readChar ']' cs))
  v4 <|> v6

end PulseBridge.Net
