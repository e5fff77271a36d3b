import PlanCourier.Url.Label

/-!
# Names of hosts

A name as it is sent: its labels with points between them, in ASCII and with small letters. If one
label is written from right to left, the direction of every label has to fit.
-/

namespace PlanCourier.Url

open PlanCourier.Text

/-- The name in the form that is sent, if it has one. -/
def sentName? (s : String) : Option (List Char) := do
  let forms ← s.toList.mapM nameForm?
  let labels ← ((canonical forms.flatten).splitOnP (· == '.')).mapM label?
  if labels.any (fun l => (l.shown.map direction).any Direction.matters) &&
      !labels.all (fun l => directionsFit l.shown) then none
  else return List.intercalate ['.'] (labels.map (·.sent))

/-- The host of an address of the web: a number, or a name as it is sent. -/
def webHost? (cs : List Char) : Option Host :=
  match cs with
  | '[' :: inside => bracketed? inside
  | cs =>
    match (decodedText? cs).bind sentName? with
    | none => none
    | some [] => none
    | some name =>
      if endsInNumber name then (fourBytes? name).map .short else some (.name (String.ofList name))

/-- The host of any other address: a name is taken as it stands, with hidden characters encoded. -/
def otherHost? (cs : List Char) : Option Host :=
  match cs with
  | '[' :: inside => bracketed? inside
  | cs =>
    if cs.any isForbidden then none
    else some (.name (String.ofList (percentEncoded isHiddenAnywhere cs)))

end PlanCourier.Url
