import PlanCourier.Http.Service
import PlanCourier.Proofs.Command.Frame

/-!
# What an action asks for

The requests of an action on a host that is a state. `Asks x w rs` says that the run of `x` from `w`
makes the requests `rs`, in this order. Those whose address cannot be sent to are made, but refused
before they reach the network, so they are not on record; everything else is.

An action asks for what its parts ask for: the lemmas below follow the ways in which actions are put
together, and say of the parts that do not use the network that they ask for nothing.

Main statements:

- `Asks.bind`: an action after another one;
- `Asks.ask`: a request;
- `Asks.print`, `Asks.startLog`, `Asks.loadConfig` and their companions: what asks for nothing.
-/

namespace PlanCourier

namespace HttpRequest

/-- Those of the requests that are not refused. -/
def sent (rs : List HttpRequest) : List HttpRequest := rs.filter (·.refusal?.isNone)

@[simp] theorem sent_nil : sent [] = [] := rfl

@[simp] theorem sent_append (rs rs' : List HttpRequest) : sent (rs ++ rs') = sent rs ++ sent rs' :=
  List.filter_append ..

theorem sent_eq_self {rs : List HttpRequest} : sent rs = rs ↔ ∀ r ∈ rs, r.refusal? = none := by
  simp [sent, List.filter_eq_self]

end HttpRequest

namespace World

/-- The run of an action makes these requests, one after another. -/
structure Asks (x : StateM World α) (w : World) (rs : List HttpRequest) : Prop where
  traffic : (x.run w).2.traffic = (HttpRequest.sent rs).reverse ++ w.traffic

namespace Asks

variable {w : World}

theorem pure (a : α) : Asks (pure a) w [] := ⟨rfl⟩

/-- An action after another one, which goes on with what the first one gave, where it left off. -/
theorem bind {x : StateM World α} {f : α → StateM World β} {rs rs' : List HttpRequest}
    (hx : Asks x w rs) (hf : Asks (f (x.run w).1) (x.run w).2 rs') : Asks (x >>= f) w (rs ++ rs') := by
  have h : (x >>= f).run w = (f (x.run w).1).run (x.run w).2 := rfl
  constructor
  rw [h, hf.traffic, hx.traffic, HttpRequest.sent_append, List.reverse_append, List.append_assoc]

/-- An action after one that asks for nothing. -/
theorem after {x : StateM World α} {f : α → StateM World β} {rs : List HttpRequest}
    (hx : Asks x w []) (hf : Asks (f (x.run w).1) (x.run w).2 rs) : Asks (x >>= f) w rs :=
  hx.bind hf

/-- An action that asks for nothing more. -/
theorem before {x : StateM World α} {f : α → StateM World β} {rs : List HttpRequest}
    (hx : Asks x w rs) (hf : Asks (f (x.run w).1) (x.run w).2 []) : Asks (x >>= f) w rs := by
  simpa using hx.bind hf

theorem ask (r : HttpRequest) : Asks (r.ask host.send) w [r] := by
  constructor
  unfold HttpRequest.ask
  cases h : r.refusal? <;> simp [HttpRequest.sent, h] <;> rfl

/-! ## What asks for nothing -/

theorem of_keeps {x : StateM World α} (h : Keeps World.traffic x) : Asks x w [] := ⟨h.kept w⟩

theorem ignoresFiles_traffic : IgnoresFiles World.traffic := fun _ _ => rfl

theorem ignoresLines_traffic : IgnoresLines World.traffic := fun _ _ _ => rfl

theorem wait (ms : Nat) : Asks (host.wait ms) w [] := ⟨rfl⟩

theorem now : Asks host.now w [] := ⟨rfl⟩

theorem print (c : Conclusion) (json : Bool) : Asks (c.print host json) w [] :=
  of_keeps (Keeps.print ignoresLines_traffic c json)

theorem abort (reason : String) : Asks (host.abort reason) w [] :=
  of_keeps (Keeps.abort ignoresLines_traffic reason)

theorem tell (json : Bool) (n : Notice) : Asks (SolveOrder.tell host json n) w [] :=
  of_keeps (Keeps.tell ignoresLines_traffic json n)

theorem startLog (s : LoggingSection) (now : Moment) : Asks (LogFile.start host.files s now) w [] :=
  of_keeps (Keeps.startLog ignoresFiles_traffic s now)

theorem loadConfig (env : Environment) (i : Invocation) : Asks (i.loadConfig host env) w [] :=
  of_keeps (Keeps.loadConfig env i)

theorem loadSettings (wording path : String) :
    Asks (Settings.load wording host.files path) w [] :=
  of_keeps (Keeps.loadSettings wording path)

theorem loadDocuments (base : String) (ids : List String) :
    Asks (Document.load (Document.read host.files base) ids) w [] :=
  of_keeps (Keeps.loadDocuments base ids)

end Asks

end World

end PlanCourier
