/-!
# What can go wrong

The faults of the parts of a run, each a cause with one wording. A fault that arose from another
one names it: `SolveFault.causes` is that chain as texts, outermost first.
-/

namespace PlanCourier

/-- A failure to get an answer from a service. -/
inductive ServiceFault where
  /-- The request brought no answer at all. -/
  | transport (url reason : String)
  /-- The service answered with a code that is none of success. -/
  | status (url : String) (code : Nat) (body : String)
  /-- The answer is not what was asked for. -/
  | decode (url reason : String)
  deriving DecidableEq, Repr

namespace ServiceFault

def url : ServiceFault → String
  | .transport url _ | .status url _ _ | .decode url _ => url

def message : ServiceFault → String
  | .transport url reason => "Request to " ++ url ++ " failed: " ++ reason
  | .status url code body => "Request to " ++ url ++ " returned " ++ Nat.repr code ++ ": " ++ body
  | .decode url reason => "Could not decode response from " ++ url ++ ": " ++ reason

end ServiceFault

/-- A failure to read the planning documents. -/
inductive DocumentFault where
  | notFound (id : String)
  | unreadable (id reason : String)
  /-- A domain and a problem cannot both be found among the documents. -/
  | incomplete (found : String)
  deriving DecidableEq, Repr

def DocumentFault.message : DocumentFault → String
  | .notFound id => "Document not found: " ++ id
  | .unreadable id reason => "Failed to read document " ++ id ++ ": " ++ reason
  | .incomplete found => "Need a domain and a problem document, got: " ++ found

/-- A failure to keep the user's settings. -/
inductive SettingsFault where
  | io (path reason : String)
  | format (path reason : String)
  deriving DecidableEq, Repr

def SettingsFault.message : SettingsFault → String
  | .io path reason => "Settings I/O error at " ++ path ++ ": " ++ reason
  | .format path reason => "Malformed settings file " ++ path ++ ": " ++ reason

/-- A failure of a solve. That the service could not solve the task, or took too long, is an
outcome and no failure. -/
inductive SolveFault where
  | submission (cause : ServiceFault)
  /-- The answer to a submission names no task. -/
  | noHandle (url : String)
  | check (url : String) (cause : ServiceFault)
  | alreadyPolling (handle : String)
  | listing (cause : ServiceFault)
  | unknownPackage (name : String)
  | badParameter (name value expected : String)
  | document (fault : DocumentFault)
  | aborted (reason : String)
  deriving DecidableEq, Repr

namespace SolveFault

def message : SolveFault → String
  | .submission cause => "Submission failed: " ++ cause.message
  | .noHandle url => "Submit response from " ++ url ++ " did not contain a task handle"
  | .check url _ => "Error: Malformed URL? " ++ url
  | .alreadyPolling handle => "Task " ++ handle ++ " is already being polled"
  | .listing cause => "Package listing failed: " ++ cause.message
  | .unknownPackage name => "Unknown package: " ++ name
  | .badParameter name value expected =>
    "Invalid value '" ++ value ++ "' for parameter '" ++ name ++ "', expected one of: " ++ expected
  | .document fault => fault.message
  | .aborted reason => "Solve task aborted: " ++ reason

def causes : SolveFault → List String
  | .submission cause | .check _ cause | .listing cause => [cause.message]
  | _ => []

end SolveFault

end PlanCourier
