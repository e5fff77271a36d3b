import PlanCourier.Text.Joining
import PlanCourier.Text.Property.DoubleWidth
import PlanCourier.Text.Property.ZeroWidth

/-!
# How many columns a text takes

East Asian wide characters and emoji take two columns, combining and format characters none, and
most other characters one. Characters that are shown as one take the columns of what is shown.

Main statements:

- `scan_append`: what stands before a text that awaits nothing is measured as if it stood alone;
- `width_blanks`: blanks after a text take one column each.
-/

namespace PlanCourier.Text

def charWidth (c : Char) : Nat :=
  if c.toNat < 0xA1 then 1
  else if c = '\u17D8' then 3
  else if Property.zeroWidth.has c then 0
  else if Property.doubleWidth.has c then 2
  else 1

/-- The columns that a character adds before a context, and the context it makes. -/
def step (c : Char) (k : Context) : Int × Context :=
  match k.meet c with
  | some joined => joined
  | none => (charWidth c, ⟨Start.ofChar c, none⟩)

/-- The columns of a text before a context, and the context it makes. -/
def scanBefore (k : Context) : List Char → Int × Context
  | [] => (0, k)
  | c :: rest =>
    let (columns, k) := scanBefore k rest
    let (more, k) := step c k
    (columns + more, k)

/-- The columns of a text, and the context it makes. -/
def scan (cs : List Char) : Int × Context := scanBefore .plain cs

def width (cs : List Char) : Int := (scan cs).1

theorem scanBefore_append (k : Context) (a b : List Char) :
    scanBefore k (a ++ b) =
      ((scanBefore k b).1 + (scanBefore (scanBefore k b).2 a).1,
        (scanBefore (scanBefore k b).2 a).2) := by
  induction a with
  | nil => simp [scanBefore]
  | cons c a ih => simp [scanBefore, ih, Int.add_assoc]

theorem scan_append {b : List Char} (h : (scan b).2 = .plain) (a : List Char) :
    scan (a ++ b) = ((scan b).1 + (scan a).1, (scan a).2) := by
  rw [scan, scanBefore_append]
  exact congrArg (fun k => ((scan b).1 + (scanBefore k a).1, (scanBefore k a).2)) h

theorem step_blank (k : Context) : step ' ' k = (1, .plain) := by
  have hs : k.meetSelector ' ' = none := by
    unfold Context.meetSelector
    split <;> rfl
  have hm (s : Start) : s.meet ' ' = none := by
    cases s with
    | lamed joined | ya joined | consonant joined | orkhonI joined => cases joined <;> rfl
    | _ => rfl
  have hb : k.meet ' ' = none := by
    unfold Context.meet
    rw [hs]
    simp [hm]
  unfold step
  rw [hb]
  rfl

theorem scanBefore_blanks (k : Context) (n : Nat) :
    scanBefore k (List.replicate n ' ') = ((n : Int), if n = 0 then k else .plain) := by
  induction n with
  | zero => rfl
  | succ n ih =>
    rw [List.replicate_succ, scanBefore, ih]
    simp [step_blank]

theorem width_blanks (cs : List Char) (n : Nat) :
    width (cs ++ List.replicate n ' ') = width cs + n := by
  have h : (scan (List.replicate n ' ')).2 = .plain := by
    rw [scan, scanBefore_blanks]
    split <;> rfl
  rw [width, scan_append h, scan, scanBefore_blanks, width, Int.add_comm]

theorem width_blank_cons (cs : List Char) : width (' ' :: cs) = width cs + 1 := by
  simp [width, scan, scanBefore, step_blank]

end PlanCourier.Text
