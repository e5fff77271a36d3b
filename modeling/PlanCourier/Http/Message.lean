import PlanCourier.Http.Exchange
import PlanCourier.Json.Printer
import PlanCourier.Text.Cut
import PlanCourier.Text.Decimal

/-!
# Messages of HTTP

How a request is written for a connection that the server closes after its answer, and how the
answer is read: a line with its code, lines with its fields, an empty line, and the body, which is
sent as a whole or in chunks that each begin with their length.

The bytes of an answer stand as characters below 256.

Main statements:

- `length_take`: a body of a given length is exactly that long;
- `targetOf_prefix`: what is asked for at a server begins with a slash.
-/

namespace PlanCourier

open PlanCourier.Text

/-- Where a server listens, and what is asked for there. -/
structure Endpoint where
  host : String
  portNumber : UInt16
  /-- The path with the query. -/
  target : String
  deriving DecidableEq, Repr

namespace Endpoint

/-- The number that servers listen at if no other one is written. -/
def usualNumber : Nat := 80

def targetOf (path : List Char) (query : Option (List Char)) : String :=
  String.ofList ((if ['/'].isPrefixOf path then path else '/' :: path) ++
    (query.map ('?' :: ·)).getD [])

/-- Where an address leads that is asked without encryption. -/
def ofAddress? (a : Url.Address) : Option Endpoint :=
  if a.scheme = "http" then do
    let authority ← a.authority
    let host ← authority.host
    return ⟨host.text, .ofNat (authority.number.getD usualNumber), targetOf a.path a.query⟩
  else none

theorem targetOf_prefix (path : List Char) (query : Option (List Char)) :
    ['/'] <+: (targetOf path query).toList := by
  unfold targetOf
  split
  next h => simpa using (List.isPrefixOf_iff_prefix.1 h).trans (List.prefix_append _ _)
  next => simp

end Endpoint

namespace HttpRequest

/-- The lines of a request without its body. -/
def fieldLines (r : HttpRequest) (e : Endpoint) (length : Nat) : List String :=
  [r.method.name ++ " " ++ e.target ++ " HTTP/1.1", "host: " ++ e.host, "accept: */*",
    "user-agent: paas-client/0.1.0", "connection: close"] ++
    (if r.body.isSome then
      ["content-type: application/json", "content-length: " ++ naturalText length]
    else [])

def written (r : HttpRequest) (e : Endpoint) : String :=
  let body := (r.body.map Json.compactText).getD ""
  String.join ((r.fieldLines e body.utf8ByteSize).map (· ++ "\r\n")) ++ "\r\n" ++ body

end HttpRequest

namespace Exchange

/-- The line at the start, and what follows it. -/
def line (cs : List Char) : Option (List Char × List Char) :=
  (cut '\n' cs).map fun (l, rest) => (dropReturn l, rest)

/-- The lines up to an empty one, and what follows that; each line takes one of `fuel`. -/
def fields : Nat → List Char → Option (List (List Char) × List Char)
  | 0, _ => none
  | fuel + 1, cs => do
    let (l, rest) ← line cs
    if l.isEmpty then return ([], rest)
    let (ls, rest) ← fields fuel rest
    return (l :: ls, rest)

/-- The value of a field, whose name is written in small letters. -/
def field? (name : String) (ls : List (List Char)) : Option (List Char) :=
  ls.findSome? fun l =>
    (cut ':' l).bind fun (n, value) =>
      if n.map lowerAscii = name.toList then some (trim value) else none

/-- The characters in front, if there are as many. -/
def take (count : Nat) (cs : List Char) : Option (List Char) :=
  if count ≤ cs.length then some (cs.take count) else none

def hexNumber (cs : List Char) : Option Nat :=
  if cs.isEmpty then none
  else cs.foldl (fun n c => do return (← n) * 16 + (← Json.hexDigit? c)) (some 0)

/-- The chunks of a body put together; each chunk takes one of `fuel`. -/
def chunks : Nat → List Char → Option (List Char)
  | 0, _ => none
  | fuel + 1, cs => do
    let (size, rest) ← line cs
    let size ← hexNumber (trim (size.takeWhile (· != ';')))
    if size = 0 then return []
    let chunk ← take size rest
    let (_, rest) ← line (rest.drop size)
    return chunk ++ (← chunks fuel rest)

/-- The body of an answer with these fields. -/
def body (ls : List (List Char)) (cs : List Char) : Option (List Char) :=
  if (field? "transfer-encoding" ls).any fun v => v.map lowerAscii = "chunked".toList then
    chunks (cs.length + 1) cs
  else
    match field? "content-length" ls with
    | none => some cs
    | some v =>
      match readInteger .unsigned64 v with
      | .ok n => take n.toNat cs
      | .error _ => none

def codeOf (cs : List Char) : Option Nat :=
  match readInteger .unsigned32 (((cs.dropWhile (· != ' ')).drop 1).takeWhile (· != ' ')) with
  | .ok n => some n.toNat
  | .error _ => none

/-- The text that bytes stand for; bytes that are no text stand for themselves. -/
def decoded (cs : List Char) : String :=
  (String.fromUTF8? ⟨(cs.map fun c => UInt8.ofNat c.toNat).toArray⟩).getD (String.ofList cs)

/-- What comes of a request for which a server sends these bytes. -/
def ofBytes (bytes : List UInt8) : Exchange :=
  let cs := bytes.map fun b => Char.ofNat b.toNat
  match fields (cs.length + 1) cs with
  | some (first :: ls, rest) =>
    match codeOf first, body ls rest with
    | some code, some cs => .answered code (decoded cs)
    | _, _ => .unreachable
  | _ => .unreachable

theorem length_take {count : Nat} {cs taken : List Char} (h : take count cs = some taken) :
    taken.length = count := by
  unfold take at h
  split at h
  next hc => obtain rfl := Option.some.inj h; simpa using Nat.min_eq_left hc
  next => cases h

end Exchange

end PlanCourier
