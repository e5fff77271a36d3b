import PlanCourier.Text.Blank

/-!
# URLs

How an address is put together from a base URL and what follows it: the base without the slashes
at its end, one slash, and the rest.

Main statement: `isHttp_append`, what starts with a scheme still does when something is appended.
-/

namespace PlanCourier.Url

open PlanCourier.Text

def isSlash (c : Char) : Bool := c == '/'

/-- A base URL without the slashes at its end. -/
def trimBase (base : String) : String := dropRight isSlash base

/-- A path without the slashes at its start. -/
def trimPath (path : String) : String := String.ofList (path.toList.dropWhile isSlash)

/-- Whether the text starts with `http://` or `https://`. -/
def isHttp (s : String) : Bool :=
  "http://".toList.isPrefixOf s.toList || "https://".toList.isPrefixOf s.toList

/-- The address of a path under a base URL. -/
def join (base path : String) : String := trimBase base ++ "/" ++ trimPath path

def solve (base package : String) : String := trimBase base ++ "/package/" ++ package ++ "/solve"

/-- Where the state of a task is asked for: the handle itself if it is an address, else the handle
under the base URL. -/
def poll (base handle : String) : String :=
  if isHttp handle then handle
  else if ['/'].isPrefixOf handle.toList then trimBase base ++ handle
  else trimBase base ++ "/" ++ handle

theorem isHttp_append {s : String} (h : isHttp s = true) (t : String) : isHttp (s ++ t) = true := by
  simp only [isHttp, Bool.or_eq_true, List.isPrefixOf_iff_prefix, String.toList_append] at h ⊢
  exact h.imp (·.trans (List.prefix_append _ _)) (·.trans (List.prefix_append _ _))

end PlanCourier.Url
