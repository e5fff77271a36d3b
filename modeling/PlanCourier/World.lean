import PlanCourier.Host

/-!
# A host that is a state

A host whose files, network, clock and outputs are values, so that a run on it is a function. What
the network answers to a request may depend on all requests before it. The clock moves only while a
run waits.

Main statements:

- `run_bind`: an action after another one;
- `reads_host`: what is read is what the files of the state hold;
- `send_host`: a request is answered by the network and is on record from then on.
-/

namespace PlanCourier

/-- What comes of the first of the requests, which is the latest one. -/
abbrev Network := List HttpRequest → Exchange

/-- A network on which nothing can be reached. -/
def Network.silent : Network := fun _ => .unreachable

/-- The state of a host. -/
structure World where
  files : Files
  network : Network
  /-- The requests that were sent, the latest one first. -/
  traffic : List HttpRequest
  clock : Moment
  /-- The lines of output. -/
  output : List String
  /-- The lines of messages. -/
  messages : List String

namespace World

/-- Files and a network before a run. -/
def fresh (files : Files) (network : Network) (clock : Moment) : World :=
  ⟨files, network, [], clock, [], []⟩

def onFiles (x : StateM Files α) : StateM World α := fun w =>
  let (a, files) := x.run w.files
  (a, { w with files })

def host : Host (StateM World) :=
  { files := Files.access.lift onFiles
    send := fun r w =>
      (w.network (r :: w.traffic), { w with traffic := r :: w.traffic })
    wait := fun ms w => ((), { w with clock := ⟨w.clock.ms + ms⟩ })
    now := fun w => (w.clock, w)
    out := fun line w => ((), { w with output := w.output ++ [line] })
    err := fun line w => ((), { w with messages := w.messages ++ [line] })
    abort := fun reason w => (Host.abortCode, { w with messages := w.messages ++ [reason] }) }

/-- An action goes on with what the one before it gave, where that one left off. -/
theorem run_bind {x : StateM World α} {f : α → StateM World β} {w w' : World} {a : α}
    (h : x.run w = (a, w')) : (x >>= f).run w = (f a).run w' := by
  rw [StateT.run_bind, h]
  rfl

theorem reads_host : host.files.Reads World.files := ⟨fun _ => rfl, fun _ _ => rfl, fun _ _ => rfl⟩

theorem send_host (r : HttpRequest) (w : World) :
    (host.send r).run w =
      (w.network (r :: w.traffic), { w with traffic := r :: w.traffic }) := rfl

theorem now_host (w : World) : host.now.run w = (w.clock, w) := rfl

theorem code_abort (reason : String) (w : World) :
    ((host.abort reason).run w).1 = Host.abortCode := rfl

end World

end PlanCourier
