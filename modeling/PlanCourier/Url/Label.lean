import PlanCourier.Text.Canonical
import PlanCourier.Text.LowerCase
import PlanCourier.Text.Property.Cursive
import PlanCourier.Text.Property.Direction
import PlanCourier.Text.Property.Mark
import PlanCourier.Text.Property.NameForm
import PlanCourier.Text.Property.Unprintable
import PlanCourier.Url.Host
import PlanCourier.Url.Punycode

/-!
# Labels

A label is a part of a host's name between points. It has a text that is shown and one that is sent,
which differ if the label holds characters beyond ASCII. Not every text is a label: marks, joiners
and directions of writing have to fit.
-/

namespace PlanCourier.Url

open PlanCourier.Text

/-! ## Characters -/

/-- The mark of a place where letters are kept apart. -/
def nonJoiner : Char := '\u200c'

/-- The mark of a place where letters are joined. -/
def joiner : Char := '\u200d'

/-- How a name writes a character, if it can hold it. -/
def nameForm? (c : Char) : Option (List Char) :=
  if c.toNat < 128 then some [lowerAscii c]
  else if c = nonJoiner ∨ c = joiner then some [c]
  else if Property.leftOut.has c then some []
  else if Property.unprintable.has c ∨ Property.barred.has c then none
  else match Property.nameForms.lookup c.toNat with
    | some cs => some cs
    | none => some [((Property.lowerCodePoint? c.toNat).map Char.ofNat).getD c]

def isNameText (cs : List Char) : Bool :=
  (cs.all fun c => nameForm? c == some [c]) && canonical cs == cs

/-! ## Joiners -/

/-- The class of the marks that join a letter to the next one. -/
def joiningMarkClass : Nat := 9

/-- Whether every joiner of a label stands where it has a meaning: after a mark that joins, or, if
it keeps letters apart, between letters that would be joined. -/
def joinersFit (before : List Char) : List Char → Bool
  | [] => true
  | c :: rest =>
    let afterMark := before.head?.any fun m => markClass m == joiningMarkClass
    let nearest (cs : List Char) := (cs.dropWhile Property.nonspacing.has).head?
    let between := (nearest before).any Property.joinsAfter.has &&
      (nearest rest).any Property.joinsBefore.has
    (if c = joiner then afterMark else if c = nonJoiner then afterMark || between else true) &&
      joinersFit (c :: before) rest

/-! ## Direction -/

inductive Direction where
  | left
  | right
  | arabicDigit
  | europeanDigit
  | neutral
  | mark
  deriving DecidableEq, Repr

def direction (c : Char) : Direction :=
  if Property.rightToLeft.has c then .right
  else if Property.arabicDigit.has c then .arabicDigit
  else if Property.europeanDigit.has c then .europeanDigit
  else if Property.neutral.has c ∨ c = joiner ∨ c = nonJoiner then .neutral
  else if Property.nonspacing.has c && !Property.leftMark.has c then .mark
  else .left

/-- Whether a character makes the direction of a name matter. -/
def Direction.matters (d : Direction) : Bool := d == .right || d == .arabicDigit

/-- Whether a label that starts with this direction may hold that one. -/
def Direction.allows (start d : Direction) : Bool :=
  match d with
  | .europeanDigit | .neutral | .mark => true
  | .arabicDigit => start == .right
  | d => d == start

/-- Whether a label that starts with this direction may end with that one. -/
def Direction.endsWith (start d : Direction) : Bool :=
  d == start || d == .europeanDigit || (start == .right && d == .arabicDigit)

/-- Whether the directions of a label fit together: it starts with a letter, has no letter of the
other direction and digits of one kind, and ends with a letter or a digit and its marks. -/
def directionsFit (cs : List Char) : Bool :=
  match cs.map direction with
  | [] => true
  | start :: rest =>
    let ds := start :: rest
    (start == .left || start == .right) && ds.all start.allows &&
      (ds.reverse.dropWhile (· == .mark)).head?.any start.endsWith &&
      !(start == .right && ds.contains .arabicDigit && ds.contains .europeanDigit)

/-! ## Labels -/

/-- A part of a host's name. -/
structure Label where
  shown : List Char
  sent : List Char
  deriving DecidableEq, Repr

def isAscii (cs : List Char) : Bool := cs.all fun c => c.toNat < 128

/-- The start of a label that is sent otherwise than it is shown. -/
def sentMark : List Char := ['x', 'n', '-', '-']

/-- How long a label that is shown may be. -/
def shownLimit : Nat := 1000

/-- How long a label that is sent may be after its mark. -/
def sentLimit : Nat := 2000

/-- Whether a text with characters beyond ASCII can be shown as a label. -/
def isShowable (cs : List Char) : Bool :=
  cs.length ≤ shownLimit && !cs.head?.any Property.mark.has && joinersFit [] cs

/-- The label that is written so, shown or sent. -/
def label? (cs : List Char) : Option Label :=
  if cs.any isForbiddenInName then none
  else if sentMark.isPrefixOf cs then
    let sent := cs.drop sentMark.length
    if sentLimit < sent.length then none
    else
      match Punycode.decode? sent with
      | none => none
      | some shown =>
        if !isAscii shown && isNameText shown && isShowable shown then some ⟨shown, cs⟩ else none
  else if isAscii cs then some ⟨cs, cs⟩
  else if isShowable cs then some ⟨cs, sentMark ++ Punycode.encode cs⟩
  else none

end PlanCourier.Url
