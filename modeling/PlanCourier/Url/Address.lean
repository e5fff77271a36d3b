import PlanCourier.Text.Cut
import PlanCourier.Text.Decimal
import PlanCourier.Url.Domain

/-!
# Addresses

An address falls into its scheme, the host with what belongs to it, a path, a query and a fragment.
It is read from a text in many spellings and written in one: scheme and host in small letters, no
needless number behind the host, no dots that only walk through the path, and every hidden character
encoded.

The schemes of the web always have a host, and a backslash is a slash to them.

Main statements:

- `text_scheme`: an address as text starts with its scheme and a colon;
- `host_bare`: an address without its user has the same host.
-/

namespace PlanCourier.Url

open PlanCourier.Text

/-- The host of an address with what belongs to it. -/
structure Authority where
  /-- The name of a user, encoded. -/
  user : List Char
  /-- The password of a user, encoded. -/
  password : List Char
  /-- The host; an empty one is left out. -/
  host : Option Host
  /-- The number that the host listens at, unless it is the scheme's own. -/
  number : Option Nat
  deriving DecidableEq, Repr

structure Address where
  scheme : String
  authority : Option Authority
  path : List Char
  query : Option (List Char)
  fragment : Option (List Char)
  deriving DecidableEq, Repr

/-! ## Writing -/

def Authority.text (a : Authority) : List Char :=
  let user :=
    if a.user.isEmpty && a.password.isEmpty then []
    else a.user ++ (if a.password.isEmpty then [] else ':' :: a.password) ++ ['@']
  let host := (a.host.map fun h => h.text.toList).getD []
  let number := (a.number.map fun n => ':' :: natural n).getD []
  user ++ host ++ number

namespace Address

/-- What follows the scheme. A path that starts with two slashes and has no host before it is set
off by a point. -/
def body (a : Address) : List Char :=
  let hierarchy :=
    match a.authority with
    | some authority => '/' :: '/' :: authority.text ++ a.path
    | none => if ['/', '/'].isPrefixOf a.path then '/' :: '.' :: a.path else a.path
  hierarchy ++ (a.query.map ('?' :: ·)).getD [] ++ (a.fragment.map ('#' :: ·)).getD []

def text (a : Address) : String := a.scheme ++ ":" ++ String.ofList a.body

theorem text_scheme (a : Address) : (a.scheme ++ ":").toList <+: a.text.toList := by
  simp [text]

def host? (a : Address) : Option Host := a.authority.bind (·.host)

end Address

/-- The authority without its user, unless the name of the user is encoded as no text. -/
def Authority.bare (a : Authority) : Authority :=
  match decodedText? a.user with
  | none => a
  | some name =>
    if name.isEmpty && (decodedText? a.password).isNone then a
    else { a with user := [], password := [] }

namespace Address

def bare (a : Address) : Address := { a with authority := a.authority.map Authority.bare }

theorem host_bare (a : Address) : a.bare.host? = a.host? := by
  obtain ⟨scheme, authority, path, query, fragment⟩ := a
  cases authority with
  | none => rfl
  | some authority =>
    simp only [host?, bare, Option.map_some, Option.bind_some, Authority.bare]
    split
    · rfl
    · split <;> rfl

/-! ## Reading -/

/-- Whether the character is a space or a control character. -/
def isEdge (c : Char) : Bool := c.toNat ≤ 0x20

/-- Whether the character is no part of an address, wherever it stands. -/
def isDropped (c : Char) : Bool := c == '\t' || c == '\n' || c == '\r'

/-- The characters of a text that make up an address. -/
def significant (s : String) : List Char :=
  (dropEndWhile isEdge (s.toList.dropWhile isEdge)).filter fun c => !isDropped c

/-- Whether a scheme may hold the character after its first one. -/
def isSchemeChar (c : Char) : Bool := c.isAlphanum || c == '+' || c == '-' || c == '.'

/-- The scheme of an address in small letters, and what follows its colon. -/
def cutScheme (cs : List Char) : Option (String × List Char) :=
  match cs with
  | c :: _ =>
    if c.isAlpha then
      match cs.dropWhile isSchemeChar with
      | ':' :: rest => some (String.ofList ((cs.takeWhile isSchemeChar).map lowerAscii), rest)
      | _ => none
    else none
  | [] => none

/-- The schemes of the web, each with the number that its hosts listen at. -/
def webSchemes : List (String × Nat) :=
  [("http", 80), ("https", 443), ("ws", 80), ("wss", 443), ("ftp", 21)]

def fileScheme : String := "file"

/-- Whether addresses of this scheme follow the rules of the web. -/
def isWeb (scheme : String) : Bool := scheme == fileScheme || (webSchemes.lookup scheme).isSome

def isSeparator (web : Bool) (c : Char) : Bool := c == '/' || (web && c == '\\')

/-- The text before the last `mark`, and the text after it. -/
def cutLast (mark : Char) (cs : List Char) : Option (List Char × List Char) :=
  (cut mark cs.reverse).map fun (after, before) => (before.reverse, after.reverse)

/-- The text before the first colon outside of brackets, and the text after it. -/
def cutNumber : (inside : Bool) → List Char → List Char × Option (List Char)
  | _, [] => ([], none)
  | inside, c :: rest =>
    if c = ':' ∧ !inside then ([], some rest)
    else
      let inside := if c = '[' then true else if c = ']' then false else inside
      let (host, number) := cutNumber inside rest
      (c :: host, number)

/-- The number that digits behind a host stand for, if it is not the scheme's own; no digits stand
for none. -/
def readNumber (scheme : String) (digits : List Char) : Option (Option Nat) :=
  match digits with
  | [] => some none
  | digits =>
    (digitsIn 10 digits).bind fun n =>
      if 0xFFFF < n then none
      else some (if webSchemes.lookup scheme = some n then none else some n)

/-- The name of a user and the password, encoded. -/
def readUser (cs : List Char) : List Char × List Char :=
  let (name, password) := (cut ':' cs).getD (cs, [])
  (percentEncoded isHiddenInUser name, percentEncoded isHiddenInUser password)

/-- Reads what stands between the slashes and the path. -/
def readAuthority (scheme : String) (cs : List Char) : Option Authority :=
  let (user, rest, isNamed) := match cutLast '@' cs with
    | some (user, rest) => (user, rest, true)
    | none => ([], cs, false)
  let (name, password) := readUser user
  let (host, digits) := cutNumber false rest
  if host.isEmpty then
    if isWeb scheme || isNamed || digits.isSome then none
    else some ⟨name, password, none, none⟩
  else do
    let host ← if isWeb scheme then webHost? host else otherHost? host
    let number ← readNumber scheme (digits.getD [])
    return ⟨name, password, some host, number⟩

/-- A step of a path as its dots mean it. -/
inductive Step where
  | stay
  | up
  | down (name : List Char)
  deriving DecidableEq, Repr

/-- What a part of a path means; an encoded point is a point. -/
def Step.ofPart (part : List Char) : Step :=
  let rec points : List Char → Option Nat
    | [] => some 0
    | '.' :: rest => (points rest).map (· + 1)
    | '%' :: '2' :: 'e' :: rest | '%' :: '2' :: 'E' :: rest => (points rest).map (· + 1)
    | _ => none
  match points part with
  | some 1 => .stay
  | some 2 => .up
  | _ => .down (percentEncoded isHiddenInPath part)

/-- Whether a part of a path names a drive, which no step leads out of. -/
def isDrive : List Char → Bool
  | [c, d] => c.isAlpha && (d == ':' || d == '|')
  | _ => false

/-- The names above the latest of the names, which come latest first. -/
def leave (names : List (List Char)) : List (List Char) :=
  match names with
  | [] => []
  | name :: above => if isDrive name then names else above

/-- The names that parts of a path lead to, after those before, which come latest first. -/
def walk (before : List (List Char)) : List (List Char) → List (List Char)
  | [] => before.reverse
  | [last] =>
    match Step.ofPart last with
    | .stay => ([] :: before).reverse
    | .up => ([] :: leave before).reverse
    | .down name => (name :: before).reverse
  | part :: rest =>
    match Step.ofPart part with
    | .stay => walk before rest
    | .up => walk (leave before) rest
    | .down name => walk (name :: before) rest

/-- Names with a slash before each one. -/
def pathText (names : List (List Char)) : List Char := names.flatMap ('/' :: ·)

/-- A path that starts with a separator, or an empty one. -/
def readPath (web : Bool) (cs : List Char) : List Char :=
  match cs with
  | [] => if web then ['/'] else []
  | c :: rest =>
    pathText (walk [] ((if isSeparator web c then rest else c :: rest).splitOnP (isSeparator web)))

/-- The path of a file. Empty names at its start do not count, and the name of a drive is written
with a colon. -/
def readFilePath (cs : List Char) : List Char :=
  let names := (walk [] (cs.splitOnP (isSeparator true))).dropWhile List.isEmpty
  match names with
  | [] => ['/']
  | names => pathText names

/-- Whether the path of a file starts with the name of a drive. -/
def startsWithDrive (cs : List Char) : Bool :=
  isDrive ((cs.dropWhile (isSeparator true)).takeWhile fun c => !isSeparator true c)

/-- The path with a colon after the letter of a drive. -/
def withColon (cs : List Char) : List Char :=
  match cs with
  | '/' :: c :: '|' :: [] => ['/', c, ':']
  | '/' :: c :: '|' :: '/' :: rest => '/' :: c :: ':' :: '/' :: rest
  | cs => cs

/-- The host and the path of a file. -/
def readFile (cs : List Char) : Option (Authority × List Char) :=
  let nowhere : Authority := ⟨[], [], none, none⟩
  match cs with
  | a :: b :: rest =>
    if isSeparator true a && isSeparator true b then
      let host := rest.takeWhile fun c => !isSeparator true c
      let path := rest.dropWhile fun c => !isSeparator true c
      if isDrive host then some (nowhere, withColon (readFilePath rest))
      else if host.isEmpty then some (nowhere, readFilePath path)
      else if startsWithDrive path then
        (webHost? host).map fun _ => (nowhere, withColon (readFilePath path))
      else
        (webHost? host).map fun h =>
          (if h = .name "localhost" then nowhere else ⟨[], [], some h, none⟩, readFilePath path)
    else some (nowhere, withColon (readFilePath cs))
  | cs => some (nowhere, withColon (readFilePath cs))

def readHierarchy (scheme : String) (cs : List Char) : Option (Option Authority × List Char) :=
  let web := isWeb scheme
  if scheme = fileScheme then (readFile cs).map fun (a, path) => (some a, path)
  else if web then
    let cs := cs.dropWhile (isSeparator true)
    (readAuthority scheme (cs.takeWhile fun c => !isSeparator true c)).map fun a =>
      (some a, readPath true (cs.dropWhile fun c => !isSeparator true c))
  else
    match cs with
    | '/' :: '/' :: rest =>
      (readAuthority scheme (rest.takeWhile (· != '/'))).map fun a =>
        (some a, readPath false (rest.dropWhile (· != '/')))
    | '/' :: rest => some (none, readPath false ('/' :: rest))
    | cs => some (none, percentEncoded isHiddenAnywhere cs)

def ofText? (s : String) : Option Address := do
  let (scheme, rest) ← cutScheme (significant s)
  let (rest, fragment) := match cut '#' rest with
    | some (rest, fragment) => (rest, some (percentEncoded isHiddenInFragment fragment))
    | none => (rest, none)
  let hidden := if isWeb scheme then isHiddenInWebQuery else isHiddenInQuery
  let (rest, query) := match cut '?' rest with
    | some (rest, query) => (rest, some (percentEncoded hidden query))
    | none => (rest, none)
  let (authority, path) ← readHierarchy scheme rest
  return ⟨scheme, authority, path, query, fragment⟩

end Address

end PlanCourier.Url
