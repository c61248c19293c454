import PulseBridge.Net.Host

/-!
# URLs

A URL is taken apart into scheme, authority, path, query and fragment, each in its normal form:
what may not stand in a part is escaped, steps `.` and `..` of a path are resolved, the usual port
of a scheme is left out, and under the schemes of the web a backslash is a slash. Tabs and line
ends are dropped wherever they stand.

`Url.ofText` reads a URL on its own and `Url.join` reads one relative to another.
-/

namespace PulseBridge.Net

/-- Who answers for a URL: credentials, host and port. -/
structure Authority where
  /-- Escaped; empty if there is none. -/
  username : String
  /-- Escaped. -/
  password : Option String
  host : Option Host
  /-- The port, unless it is the usual one of the scheme. -/
  port : Option UInt16
  deriving DecidableEq, Repr

/-- The path of a URL. -/
inductive Path where
  /-- Text that has no steps. -/
  | flat (text : String)
  /-- Steps, each after a slash. -/
  | steps (names : List String)
  deriving DecidableEq, Repr

/-- A URL in its normal form. -/
structure Url where
  scheme : String
  authority : Option Authority
  path : Path
  query : Option String
  fragment : Option String
  deriving DecidableEq, Repr

/-- The kinds of schemes. -/
inductive SchemeKind where
  /-- A scheme of the web, with its usual port. -/
  | web (port : UInt16)
  | file
  | foreign
  deriving DecidableEq, Repr

/-- The kind of a scheme. -/
def schemeKind (scheme : String) : SchemeKind :=
  if scheme == "http" || scheme == "ws" then .web 80
  else if scheme == "https" || scheme == "wss" then .web 443
  else if scheme == "ftp" then .web 21
  else if scheme == "file" then .file
  else .foreign

/-- Whether hosts and paths are understood generously under a scheme. -/
def SchemeKind.isSpecial : SchemeKind → Bool
  | .foreign => false
  | _ => true

/-- Whether an octet is escaped in a fragment. -/
def escapedInFragment (b : UInt8) : Bool :=
  isControl b || b == 0x20 || b == 0x22 || b == 0x3c || b == 0x3e || b == 0x60

/-- Whether an octet is escaped in a step of a path. -/
def escapedInPath (b : UInt8) : Bool :=
  escapedInFragment b || b == 0x23 || b == 0x3f || b == 0x7b || b == 0x7d

/-- Whether an octet is escaped in credentials. -/
def escapedInCredentials (b : UInt8) : Bool :=
  escapedInPath b || b == 0x2f || b == 0x3a || b == 0x3b || b == 0x3d || b == 0x40
    || (0x5b ≤ b && b ≤ 0x5e) || b == 0x7c

/-- Whether an octet is escaped in a query. -/
def escapedInQuery (special : Bool) (b : UInt8) : Bool :=
  isControl b || b == 0x20 || b == 0x22 || b == 0x23 || b == 0x3c || b == 0x3e
    || (special && b == 0x27)

/-! ## Writing -/

/-- Host and port as they stand in a URL. -/
def Authority.hostAndPort (x : Authority) : String :=
  (x.host.map Host.text).getD "" ++ (x.port.map fun port => ":" ++ toString port.toNat).getD ""

/-- An authority as it stands in a URL. -/
def Authority.text (x : Authority) : String :=
  let password := (x.password.map (":" ++ ·)).getD ""
  let credentials := x.username ++ password
  credentials ++ (if credentials.isEmpty then "" else "@") ++ x.hostAndPort

/-- A path as it stands in a URL. -/
def Path.text : Path → String
  | .flat text => text
  | .steps names => String.join (names.map ("/" ++ ·))

/-- The host and port of a URL. -/
def Url.hostAndPort (url : Url) : String := (url.authority.map (·.hostAndPort)).getD ""

/-- What a server is asked for: path and query. -/
def Url.target (url : Url) : String :=
  url.path.text ++ (url.query.map ("?" ++ ·)).getD ""

/-- What stands between the colon after the scheme and the path. A path that begins with two slashes
is kept from being taken for an authority. -/
def Url.lead (url : Url) : String :=
  match url.authority with
  | some x => "//" ++ x.text
  | none => if url.path.text.startsWith "//" then "/." else ""

/-- A URL as text. -/
def Url.text (url : Url) : String :=
  url.scheme ++ ":" ++ url.lead ++ url.target ++ (url.fragment.map ("#" ++ ·)).getD ""

/-! ## Reading -/

/-- Whether a character ends the authority. -/
def endsAuthority (special : Bool) (c : Char) : Bool :=
  c == '/' || c == '?' || c == '#' || (special && c == '\\')

/-- Whether a character is a slash of either kind. -/
def isSlash (c : Char) : Bool := c == '/' || c == '\\'

/-- What stands before and after the last `@`. -/
def splitCredentials (cs : List Char) : Option (List Char × List Char) :=
  match cs.reverse.dropWhile (· != '@') with
  | [] => none
  | _ :: before => some (before.reverse, (cs.reverse.takeWhile (· != '@')).reverse)

/-- Username and password. A password that is empty is none. -/
def credentialsOf (cs : List Char) : String × Option String :=
  let username := cs.takeWhile (· != ':')
  let password := cs.drop (username.length + 1)
  (escape escapedInCredentials username,
    if password.isEmpty then none else some (escape escapedInCredentials password))

/-- The host at the front of an authority, and what follows it. A colon inside brackets does not
end it. -/
def splitHost : (inBrackets : Bool) → List Char → List Char × List Char
  | _, [] => ([], [])
  | inBrackets, c :: cs =>
      if c == ':' && !inBrackets then ([], c :: cs)
      else
        let (host, rest) := splitHost ((inBrackets || c == '[') && c != ']') cs
        (c :: host, rest)

/-- The port after a host, or none if it is empty or the usual one, and what follows it. -/
def portOf (usual : Option UInt16) : List Char → Except UrlFault (Option UInt16 × List Char)
  | [] => .ok (none, [])
  | _ :: cs =>
      let digits := cs.takeWhile fun c => (digit? 10 c).isSome
      let rest := cs.drop digits.length
      let n := ofDigits 10 (digits.filterMap (digit? 10))
      if rest.head?.any (· != '\\') || 0xffff < n then .error .badPort
      else if digits.isEmpty || usual == some (.ofNat n) then .ok (none, rest)
      else .ok (some (.ofNat n), rest)

/-- The host of an authority. Only a foreign scheme allows none. -/
def hostOf (kind : SchemeKind) (cs rest : List Char) : Except UrlFault (Option Host) :=
  match kind with
  | .foreign =>
      if cs.isEmpty then if rest.isEmpty then .ok none else .error .emptyHost
      else some <$> Host.ofForeignChars cs
  | _ => if cs.isEmpty then .error .emptyHost else some <$> Host.ofChars cs

/-- The authority that stands between two slashes and the path, and what of it belongs to the path:
under a foreign scheme a backslash ends the port. -/
def authorityOf (kind : SchemeKind) (cs : List Char) :
    Except UrlFault (Authority × List Char) := do
  let usual := match kind with
    | .web port => some port
    | _ => none
  let (credentials, cs) := (splitCredentials cs).getD ([], cs)
  let (username, password) := credentialsOf credentials
  let (host, rest) := splitHost false cs
  let host ← hostOf kind host rest
  let (port, rest) ← portOf usual rest
  if host.isNone && (!username.isEmpty || password.isSome) then .error .emptyHost
  else return (⟨username, password, host, port⟩, rest)

/-- A step with its escaped dots undone, for comparing. -/
def undot : List Char → List Char
  | '%' :: '2' :: 'e' :: rest => '.' :: undot rest
  | '%' :: '2' :: 'E' :: rest => '.' :: undot rest
  | c :: rest => c :: undot rest
  | [] => []

/-- Whether a step names a drive. -/
def isDrive : List Char → Bool
  | [letter, mark] => letter.isAlpha && (mark == ':' || mark == '|')
  | _ => false

/-- The first step of a path to a file, and what is run together with the drive in it. -/
def driveSteps : List Char → List (List Char)
  | letter :: mark :: rest =>
      if isDrive [letter, mark] && rest.isEmpty then [[letter, ':']]
      else if isDrive [letter, mark] && mark == ':' then [[letter, ':'], rest]
      else [letter :: mark :: rest]
  | step => [step]

/-- How far a path has been followed. -/
structure Walk where
  /-- The steps so far, last first. -/
  steps : List String
  /-- Whether a step to a file named a drive, which is on this machine. -/
  onDrive : Bool

namespace Walk

/-- One step back. A drive is not left. -/
def back : List String → List String
  | [] => []
  | step :: steps => if isDrive step.toList then step :: steps else steps

/-- Take a step. A dot or two at the end leave the path open. -/
def take (toFile isLast : Bool) (walk : Walk) (step : List Char) : Walk :=
  let close (steps : List String) : List String := if isLast then "" :: steps else steps
  let plain := undot step
  if plain == ['.', '.'] then { walk with steps := close (back walk.steps) }
  else if plain == ['.'] then { walk with steps := close walk.steps }
  else if toFile && walk.steps.isEmpty then
    ⟨((driveSteps step).map (escape escapedInPath)).reverse, walk.onDrive || isDrive step⟩
  else { walk with steps := escape escapedInPath step :: walk.steps }

/-- Take steps one after the other. -/
def through (toFile : Bool) : Walk → List (List Char) → Walk
  | walk, [] => walk
  | walk, step :: more => through toFile (walk.take toFile more.isEmpty step) more

end Walk

/-- The path, query and fragment of a text. -/
structure Tail where
  path : List Char
  query : Option (List Char)
  fragment : Option (List Char)

/-- Split a text at its first `#`, and what stands before that at its first `?`. -/
def tailOf (cs : List Char) : Tail :=
  let after (mark : Char) (cs : List Char) : Option (List Char) :=
    match cs.dropWhile (· != mark) with
    | [] => none
    | _ :: rest => some rest
  let front := cs.takeWhile (· != '#')
  ⟨front.takeWhile (· != '?'), after '?' front, after '#' cs⟩

/-- Whether a character stands between steps. -/
def isStepMark (special : Bool) (c : Char) : Bool := c == '/' || (special && c == '\\')

/-- The steps of a path to a file: the machine's own root is no step. -/
def fileSteps (steps : List String) : List String :=
  match steps.dropWhile (·.isEmpty) with
  | [] => [""]
  | steps => steps

/-- A URL whose path goes on after the steps gathered so far, last first. -/
def Url.withTail (scheme : String) (authority : Option Authority) (gathered : List String)
    (tail : Tail) : Url :=
  let kind := schemeKind scheme
  let special := kind.isSpecial
  let walk := Walk.through (kind == .file) ⟨gathered, false⟩
    (Text.pieces (isStepMark special) tail.path)
  let steps := walk.steps.reverse
  { scheme
    authority := if walk.onDrive then authority.map fun x => { x with host := none } else authority
    path := .steps (if kind == .file then fileSteps steps else steps)
    query := tail.query.map (escape (escapedInQuery special))
    fragment := tail.fragment.map (escape escapedInFragment) }

/-- The text without one slash at its front. -/
def dropSlash (special : Bool) : List Char → List Char
  | c :: cs => if isStepMark special c then cs else c :: cs
  | [] => []

/-- A URL that goes on after the two slashes of its authority. -/
def Url.afterSlashes (scheme : String) (cs : List Char) : Except UrlFault Url := do
  let kind := schemeKind scheme
  let special := kind.isSpecial
  let front := cs.takeWhile fun c => !endsAuthority special c
  let after := cs.drop front.length
  if front == ['@'] && !after.isEmpty then .error .emptyHost
  else
    let (authority, rest) ← authorityOf kind front
    let tail := tailOf (rest ++ after)
    if !special && tail.path.isEmpty then
      return { Url.withTail scheme (some authority) [] tail with path := .steps [] }
    else
      return .withTail scheme (some authority) []
        { tail with path := dropSlash special tail.path }

/-- A URL of a file on a host, or on this machine. -/
def Url.atFile (host : Option Host) (tail : Tail) : Url :=
  .withTail "file" (some ⟨"", none, host, none⟩) [] tail

/-- A file URL after its colon. The machine itself is no host, and neither is a drive. -/
def Url.ofFile (cs : List Char) : Except UrlFault Url :=
  let dropped (cs : List Char) : Tail :=
    let tail := tailOf cs
    { tail with path := dropSlash true tail.path }
  match cs with
  | a :: b :: rest =>
      if isSlash a && isSlash b then
        let front := rest.takeWhile fun c => !endsAuthority true c
        let after := rest.drop front.length
        if front.isEmpty then .ok (.atFile none (tailOf after))
        else if isDrive front then .ok (.atFile none (tailOf rest))
        else
          (Host.ofChars front).map fun host =>
            if host == .name "localhost" then .atFile none (tailOf after)
            else .atFile (some host) (dropped after)
      else .ok (.atFile none (dropped (a :: b :: rest)))
  | cs => .ok (.atFile none (dropped cs))

/-- A URL of a foreign scheme after its colon. -/
def Url.ofForeign (scheme : String) : List Char → Except UrlFault Url
  | '/' :: '/' :: rest => Url.afterSlashes scheme rest
  | '/' :: rest => .ok (.withTail scheme none [] (tailOf rest))
  | cs =>
      let tail := tailOf cs
      .ok { Url.withTail scheme none [] tail with path := .flat (escape isControl tail.path) }

/-- The scheme at the front of a text, in small letters, and what follows its colon. -/
def schemeOf? (cs : List Char) : Option (String × List Char) :=
  let name := cs.takeWhile fun c => c.isAlphanum || c == '+' || c == '-' || c == '.'
  match name.head?, cs.drop name.length with
  | some first, ':' :: rest =>
      if first.isAlpha then some (String.ofList (name.map Char.toLower), rest) else none
  | _, _ => none

/-- Read relative to a URL that has steps. -/
def Url.joinRelative (base : Url) (cs : List Char) : Except UrlFault Url :=
  let special := (schemeKind base.scheme).isSpecial
  let steps := match base.path with
    | .steps steps => steps
    | .flat _ => []
  match cs with
  | [] => .ok { base with fragment := none }
  | '#' :: rest => .ok { base with fragment := some (escape escapedInFragment rest) }
  | '?' :: _ =>
      .ok { Url.withTail base.scheme base.authority [] (tailOf cs) with path := base.path }
  | c :: rest =>
      if isStepMark special c then
        match rest with
        | d :: after =>
            if isStepMark special d then
              let skipped := if c == '/' && d == '/' then after else after.dropWhile isSlash
              Url.afterSlashes base.scheme skipped
            else .ok (.withTail base.scheme base.authority [] (tailOf rest))
        | [] => .ok (.withTail base.scheme base.authority [] (tailOf rest))
      else .ok (.withTail base.scheme base.authority steps.reverse.tail (tailOf cs))

/-- Whether a character is dropped at the ends of a URL. -/
def isEdgeBlank (c : Char) : Bool := c.toNat ≤ 0x20

/-- Whether a character is dropped wherever it stands in a URL. -/
def isLineBlank (c : Char) : Bool := c == '\t' || c == '\n' || c == '\r'

/-- The characters of a URL that count. -/
def urlChars (text : String) : List Char :=
  let cs := text.toList.dropWhile isEdgeBlank
  (cs.reverse.dropWhile isEdgeBlank).reverse.filter (!isLineBlank ·)

/-- A URL after its scheme, relative to a URL of the same scheme if one is given. -/
def Url.afterScheme (base : Option Url) (scheme : String) (cs : List Char) : Except UrlFault Url :=
  match schemeKind scheme with
  | .file => Url.ofFile cs
  | .foreign => Url.ofForeign scheme cs
  | .web _ =>
      match base with
      | some base =>
          if (cs.takeWhile isSlash).length < 2 && base.scheme == scheme then base.joinRelative cs
          else Url.afterSlashes scheme (cs.dropWhile isSlash)
      | none => Url.afterSlashes scheme (cs.dropWhile isSlash)

/-- The URL that a text stands for. -/
def Url.ofText (text : String) : Except UrlFault Url :=
  match schemeOf? (urlChars text) with
  | some (scheme, rest) => Url.afterScheme none scheme rest
  | none => .error .noBase

/-- The URL that a text stands for relative to another one. -/
def Url.join (base : Url) (text : String) : Except UrlFault Url :=
  let cs := urlChars text
  match schemeOf? cs, base.path with
  | some (scheme, rest), _ => Url.afterScheme (some base) scheme rest
  | none, .flat _ =>
      if cs.head? == some '#' then base.joinRelative cs else .error .flatBase
  | none, .steps _ => base.joinRelative cs

/-! ## Parts -/

/-- The host of a URL. -/
def Url.host? (url : Url) : Option Host := url.authority.bind (·.host)

/-- The port of a URL, or else the usual one of its scheme. -/
def Url.portOrUsual (url : Url) : Option UInt16 :=
  match url.authority.bind (·.port), schemeKind url.scheme with
  | some port, _ => some port
  | none, .web port => some port
  | none, _ => none

/-- Whether a URL belongs to the hypertext protocol. -/
def Url.isHttp (url : Url) : Bool := url.scheme == "http" || url.scheme == "https"

/-- The URL without username and password. -/
def Url.withoutCredentials (url : Url) : Url :=
  { url with authority := url.authority.map fun x => { x with username := "", password := none } }

/-- The text of an escaped part, if it is one. -/
def unescape? (text : String) : Option String :=
  Octets.text? (Form.percentDecode (Octets.ofText text))

/-- The username and password of a URL, and the URL without them. A username that is no text stays
where it is. -/
def Url.takeCredentials (url : Url) : Option (String × Option String) × Url :=
  match url.authority with
  | none => (none, url)
  | some x =>
      match unescape? x.username with
      | none => (none, url)
      | some username =>
          let password := x.password.bind unescape?
          if username.isEmpty && password.isNone then (none, url)
          else (some (username, password), url.withoutCredentials)

/-- The URL with more pairs in its query. -/
def Url.appendQuery (url : Url) (pairs : List (String × String)) : Url :=
  if pairs.isEmpty then url
  else
    let more := Octets.lossyText (Form.encode pairs)
    let query := match url.query with
      | none => more
      | some old => if old.isEmpty then more else old ++ "&" ++ more
    { url with query := some query }

end PulseBridge.Net
