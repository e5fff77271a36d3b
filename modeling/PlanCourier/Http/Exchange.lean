import PlanCourier.Fault
import PlanCourier.Json.Reader
import PlanCourier.Url
import PlanCourier.Url.Address

/-!
# Exchanges over HTTP

A request with a JSON body or none, what comes of it, and how that is read: an answer with a code of
success has to hold a JSON value, and any other code is a fault that keeps the answer's text. A text
that is no address, or the address of nothing that takes requests, is not asked at all.

Main statements:

- `result_success`: the value of a successful answer is the value its text stands for;
- `refusal_eq_none_iff`: just what can be sent to is not refused;
- `url_of_result`: a fault names the address that was asked.
-/

namespace PlanCourier

namespace Url.Address

/-- The longest address that a request can be sent to, in bytes. -/
def longest : Nat := 65534

/-- Whether the character stands in names of hosts, but not in requests. -/
def isUnsendable (c : Char) : Bool := c == '"' || c == '\x60' || c == '\x7b' || c == '\x7d'

/-- Whether a request can be sent to the address. -/
def isSendable (a : Address) : Bool :=
  (a.scheme == "http" || a.scheme == "https") &&
    a.host?.any (fun h => !h.text.toList.any isUnsendable) && a.text.utf8ByteSize ≤ longest

end Url.Address

inductive Method where
  | get
  | post
  deriving DecidableEq, Repr

def Method.name : Method → String
  | .get => "GET"
  | .post => "POST"

structure HttpRequest where
  method : Method
  url : String
  body : Option Json
  deriving DecidableEq, Repr

inductive Exchange where
  /-- There is no answer. -/
  | unreachable
  | answered (code : Nat) (text : String)
  deriving DecidableEq, Repr

namespace HttpRequest

def get (url : String) : HttpRequest := ⟨.get, url, none⟩

def post (url : String) (body : Json) : HttpRequest := ⟨.post, url, some body⟩

/-- The address of a request as it is sent, if it is one: without the user, where there is a
host. -/
def address? (r : HttpRequest) : Option Url.Address :=
  (Url.Address.ofText? r.url).map fun a => if a.host?.isSome then a.bare else a

/-- Why a request is not sent: its address is none, or none of a server that takes requests. -/
def refusal? (r : HttpRequest) : Option String :=
  match r.address? with
  | none => some "builder error"
  | some a => if a.isSendable then none else some ("builder error for url (" ++ a.text ++ ")")

/-- What is said of a request without an answer. -/
def silence (r : HttpRequest) : String :=
  "error sending request for url (" ++ (r.address?.map (·.text)).getD r.url ++ ")"

def isSuccess (code : Nat) : Bool := 200 ≤ code && code ≤ 299

def result (r : HttpRequest) : Exchange → Except ServiceFault Json
  | .unreachable => .error (.transport r.url r.silence)
  | .answered code text =>
    if isSuccess code then
      match Json.ofText? text with
      | some v => .ok v
      | none => .error (.decode r.url "error decoding response body")
    else .error (.status r.url code text)

/-- Sends a request, unless it is refused. -/
def ask {m : Type → Type} [Monad m] (send : HttpRequest → m Exchange) (r : HttpRequest) :
    m (Except ServiceFault Json) :=
  match r.refusal? with
  | some reason => return .error (.transport r.url reason)
  | none => return r.result (← send r)

theorem refusal_eq_none_iff {r : HttpRequest} :
    r.refusal? = none ↔ ∃ a, r.address? = some a ∧ a.isSendable = true := by
  unfold refusal?
  split
  next h => simp [h]
  next a h => simp [h]

theorem result_success {r : HttpRequest} {code : Nat} {text : String} {v : Json}
    (h : isSuccess code = true) : r.result (.answered code text) = .ok v ↔
      Json.ofText? text = some v := by
  simp only [result, h, if_true]
  split <;> simp_all

theorem url_of_result {r : HttpRequest} {e : Exchange} {f : ServiceFault}
    (h : r.result e = .error f) : f.url = r.url := by
  unfold result at h
  split at h
  · obtain rfl := Except.error.inj h; rfl
  · split at h
    · split at h
      · simp at h
      · obtain rfl := Except.error.inj h; rfl
    · obtain rfl := Except.error.inj h; rfl

end HttpRequest

end PlanCourier
