import PulseBridge.Form
import PulseBridge.Net.Address
import PulseBridge.Net.Name

/-!
# Hosts

The host of a URL is a name or an address. Under the schemes of the web a host is understood
generously: percent escapes are undone, a name in any script is brought to the form in which it is
looked up, and what ends in a number is a version 4 address, in one to four parts that may be
decimal, octal or hexadecimal.
-/

namespace PulseBridge.Net

/-- Why a URL is refused. -/
inductive UrlFault where
  | noBase
  | flatBase
  | emptyHost
  | badPort
  | badIpv4
  | badIpv6
  | badName
  | badHostCharacter
  deriving DecidableEq, Repr

/-- A refusal in words. -/
def UrlFault.message : UrlFault → String
  | .noBase => "relative URL without a base"
  | .flatBase => "relative URL with a cannot-be-a-base base"
  | .emptyHost => "empty host"
  | .badPort => "invalid port number"
  | .badIpv4 => "invalid IPv4 address"
  | .badIpv6 => "invalid IPv6 address"
  | .badName => "invalid international domain name"
  | .badHostCharacter => "invalid domain character"

/-- A host. -/
inductive Host where
  | name (text : String)
  | ipv4 (address : Ipv4)
  | ipv6 (address : Ipv6)
  deriving DecidableEq, Repr

/-- A host as it stands in a URL. -/
def Host.text : Host → String
  | .name text => text
  | .ipv4 address => address.text
  | .ipv6 address => "[" ++ address.groupedText ++ "]"

/-- An octet that is escaped wherever it stands: a control, or none of ASCII. -/
def isControl (b : UInt8) : Bool := b < 0x20 || 0x7f ≤ b

/-- The text with some octets escaped. -/
def escape (escaped : UInt8 → Bool) (cs : List Char) : String :=
  Octets.lossyText ((Octets.ofText (String.ofList cs)).flatMap fun b =>
    if escaped b then Form.percentEncode b else [b])

/-- The number that a part of a version 4 address stands for: hexadecimal after `0x`, octal after
`0`, decimal otherwise. -/
def partValue? : List Char → Option Nat
  | [] => none
  | cs =>
      let (base, digits) := match cs with
        | '0' :: 'x' :: rest => (16, rest)
        | '0' :: 'X' :: rest => (16, rest)
        | '0' :: c :: rest => (8, c :: rest)
        | cs => (10, cs)
      (digits.mapM (digit? base)).map (ofDigits base)

/-- The parts of a name, without an empty one at its end. -/
def nameParts (name : List Char) : List (List Char) :=
  let parts := Text.pieces (· == '.') name
  if parts.getLast? == some [] then parts.dropLast else parts

/-- Whether the last part of a name is a number. -/
def endsInNumber (name : List Char) : Bool :=
  match (nameParts name).getLast? with
  | none => false
  | some part =>
      (!part.isEmpty && part.all fun c => (digit? 10 c).isSome) || (partValue? part).isSome

/-- The version 4 address that a name stands for. The last part fills what the others leave. -/
def ipv4OfName (name : List Char) : Except UrlFault Ipv4 :=
  match (nameParts name).mapM partValue? with
  | none => .error .badIpv4
  | some values =>
      match values.reverse with
      | [] => .error .badIpv4
      | last :: others =>
          if 3 < others.length || Nat.pow 256 (4 - others.length) ≤ last || others.any (255 < ·) then
            .error .badIpv4
          else
            let front := ofDigits 256 others.reverse
            .ok (.ofNat (front * Nat.pow 256 (4 - others.length) + last))

/-- The version 6 address between brackets. -/
def ipv6OfBrackets (cs : List Char) : Except UrlFault Host :=
  match cs.reverse with
  | ']' :: inner =>
      match readIpv6 inner.reverse with
      | some (address, []) => .ok (.ipv6 address)
      | _ => .error .badIpv6
  | _ => .error .badIpv6

/-- The name that some octets spell, in the form in which it is looked up. -/
def nameOf (octets : Octets) : Except UrlFault (List Char) :=
  match (Octets.text? octets).bind fun text => Name.ascii? text.toList with
  | some name => .ok name
  | none => .error .badName

/-- A host under a scheme of the web. -/
def Host.ofChars : List Char → Except UrlFault Host
  | '[' :: rest => ipv6OfBrackets rest
  | cs => do
      let name ← nameOf (Form.percentDecode (Octets.ofText (String.ofList cs)))
      if name.isEmpty then .error .emptyHost
      else if endsInNumber name then .ipv4 <$> ipv4OfName name
      else .ok (.name (String.ofList name))

/-- A host under any other scheme, kept as it is. -/
def Host.ofForeignChars : List Char → Except UrlFault Host
  | '[' :: rest => ipv6OfBrackets rest
  | cs =>
      if cs.any fun c => c == '\x00' || c == ' ' || "#/:<>?@[\\]^|".toList.contains c then
        .error .badHostCharacter
      else .ok (.name (escape isControl cs))

end PulseBridge.Net
