import PlanCourier.Files.Access
import PlanCourier.Http.Exchange
import PlanCourier.Moment

/-!
# The host of a run

All that a run needs of the system it runs on: files, a network, a clock, two outputs, and a way to
be given up. A run is written once for any host.
-/

namespace PlanCourier

/-- A system that a run can run on. -/
structure Host (m : Type → Type) where
  files : FileAccess m
  /-- Sends a request and waits for what comes of it. -/
  send : HttpRequest → m Exchange
  /-- Waits this many milliseconds. -/
  wait : Nat → m Unit
  now : m Moment
  /-- Writes a line of output. -/
  out : String → m Unit
  /-- Writes a line of messages. -/
  err : String → m Unit
  /-- Gives the run up for this reason, whatever was written; the run exits with this code. -/
  abort : (reason : String) → m UInt32

/-- The code of a run that is given up, which is that of an abort signal. -/
def Host.abortCode : UInt32 := 134

end PlanCourier
