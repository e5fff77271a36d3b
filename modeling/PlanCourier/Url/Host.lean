import PlanCourier.Text.Digits
import PlanCourier.Url.Percent

/-!
# Hosts

The host of an address: a name, or a number of four or of sixteen bytes. A number of four bytes may
be written in up to four parts, each of base 10, 8 or 16, of which the last one fills the bytes that
are left; one of sixteen bytes is written in brackets, and its longest run of zeros is left out.

Main statement: `fourBytes_lt`, a number that is read from four bytes fits them.
-/

namespace PlanCourier.Url

open PlanCourier.Text

inductive Host where
  | name (text : String)
  /-- A number of four bytes. -/
  | short (number : Nat)
  /-- A number of sixteen bytes, as words of two bytes. -/
  | long (words : List Nat)
  deriving DecidableEq, Repr

/-! ## Numbers of four bytes -/

/-- A part of a number: of base 16 after `0x`, of base 8 after a zero, else decimal. -/
def numberPart? : List Char → Option Nat
  | '0' :: 'x' :: [] | '0' :: 'X' :: [] => some 0
  | '0' :: 'x' :: rest | '0' :: 'X' :: rest => digitsIn 16 rest
  | '0' :: c :: rest => digitsIn 8 (c :: rest)
  | cs => digitsIn 10 cs

/-- The parts of a text between its points; a point at the end adds none. -/
def pointParts (cs : List Char) : List (List Char) :=
  match (cs.splitOnP (· == '.')).reverse with
  | [] :: p :: rest => (p :: rest).reverse
  | ps => ps.reverse

/-- Whether a host ends as a number does, so that it cannot be a name. -/
def endsInNumber (cs : List Char) : Bool :=
  match (pointParts cs).getLast? with
  | none => false
  | some part => (!part.isEmpty && part.all Char.isDigit) || (numberPart? part).isSome

/-- How many numbers this many bytes can hold. -/
def byteRange : (bytes : Nat) → Nat
  | 0 => 1
  | bytes + 1 => 256 * byteRange bytes

/-- The numbers of parts put together: each one but the last is a byte, and the last one takes the
bytes that are left, of which there are `bytes`. -/
def joinParts : (bytes : Nat) → List Nat → Option Nat
  | bytes + 1, [last] => if last < byteRange (bytes + 1) then some last else none
  | bytes + 1, part :: rest =>
    if part < 256 then (joinParts bytes rest).map (part * byteRange bytes + ·) else none
  | _, _ => none

def allSome {α : Type} : List (Option α) → Option (List α)
  | [] => some []
  | x :: rest => x.bind fun a => (allSome rest).map (a :: ·)

def fourBytes? (cs : List Char) : Option Nat :=
  (allSome ((pointParts cs).map numberPart?)).bind (joinParts 4)

theorem joinParts_lt {bytes n : Nat} {parts : List Nat} (h : joinParts bytes parts = some n) :
    n < byteRange bytes := by
  induction parts generalizing bytes n with
  | nil => cases bytes <;> simp [joinParts] at h
  | cons part rest ih =>
    cases rest with
    | nil =>
      cases bytes with
      | zero => simp [joinParts] at h
      | succ bytes =>
        simp only [joinParts] at h
        split at h
        next hl => obtain rfl := Option.some.inj h; exact hl
        next => cases h
    | cons next rest =>
      cases bytes with
      | zero => simp [joinParts] at h
      | succ bytes =>
        simp only [joinParts] at h
        split at h
        next hp =>
          obtain ⟨m, hm, rfl⟩ := Option.map_eq_some_iff.1 h
          have hlt := ih hm
          have hle : (part + 1) * byteRange bytes ≤ 256 * byteRange bytes :=
            Nat.mul_le_mul_right _ hp
          rw [Nat.add_mul, Nat.one_mul] at hle
          rw [byteRange]
          omega
        next => cases h

theorem fourBytes_lt {cs : List Char} {n : Nat} (h : fourBytes? cs = some n) :
    n < byteRange 4 := by
  obtain ⟨parts, -, hp⟩ := Option.bind_eq_some_iff.1 h
  exact joinParts_lt hp

/-- A number of four bytes, byte by byte. -/
def shortText (n : Nat) : String :=
  ".".intercalate ([3, 2, 1, 0].map fun place =>
    String.ofList (Nat.toDigits 10 (n / byteRange place % 256)))

/-! ## Numbers of sixteen bytes -/

def word? (cs : List Char) : Option Nat := if cs.length ≤ 4 then digitsIn 16 cs else none

/-- A decimal byte without a needless zero. -/
def byte? (cs : List Char) : Option Nat :=
  match cs with
  | '0' :: _ :: _ => none
  | cs => (digitsIn 10 cs).bind fun n => if n < 256 then some n else none

/-- The two words of four bytes with points between them. -/
def bytePairs? (cs : List Char) : Option (List Nat) :=
  match allSome ((cs.splitOnP (· == '.')).map byte?) with
  | some [a, b, c, d] => some [a * 256 + b, c * 256 + d]
  | _ => none

/-- The words between colons; the last two may be written as four bytes if `bytesAtEnd`. -/
def words? (bytesAtEnd : Bool) (cs : List Char) : Option (List Nat) :=
  go (cs.splitOnP (· == ':'))
where
  /-- The words of these parts. -/
  go : List (List Char) → Option (List Nat)
    | [] => none
    | [part] =>
      match word? part with
      | some w => some [w]
      | none => if bytesAtEnd then bytePairs? part else none
    | part :: rest => (word? part).bind fun w => (go rest).map (w :: ·)

/-- The text before the first two colons in a row, and the text after them. -/
def cutColons : List Char → Option (List Char × List Char)
  | ':' :: ':' :: rest => some ([], rest)
  | c :: rest => (cutColons rest).map fun (a, b) => (c :: a, b)
  | [] => none

/-- The words between colons, of which there may be none. -/
def wordsOrNone? (bytesAtEnd : Bool) (cs : List Char) : Option (List Nat) :=
  if cs.isEmpty then some [] else words? bytesAtEnd cs

/-- The eight words that a text stands for; two colons stand for the words that are missing, at
least one. -/
def eightWords? (cs : List Char) : Option (List Nat) :=
  match cutColons cs with
  | none =>
    match words? true cs with
    | some ws => if ws.length = 8 then some ws else none
    | none => none
  | some (a, b) =>
    match wordsOrNone? false a, wordsOrNone? true b with
    | some before, some after =>
      if before.length + after.length ≤ 7 then
        some (before ++ List.replicate (8 - before.length - after.length) 0 ++ after)
      else none
    | _, _ => none

/-- Where the longest run of zeros starts, and how long it is; the first one of several. -/
def zeroRun : List Nat → Nat × Nat
  | [] => (0, 0)
  | w :: rest =>
    let here := ((w :: rest).takeWhile (· == 0)).length
    let (start, length) := zeroRun rest
    if length ≤ here then (0, here) else (start + 1, length)

def wordsText (ws : List Nat) : String :=
  ":".intercalate (ws.map fun w => String.ofList (Nat.toDigits 16 w))

/-- A number of sixteen bytes, without its longest run of zeros if that is longer than one. -/
def longText (ws : List Nat) : String :=
  let (start, length) := zeroRun ws
  if length < 2 then wordsText ws
  else wordsText (ws.take start) ++ "::" ++ wordsText (ws.drop (start + length))

/-! ## Names -/

def isForbidden (c : Char) : Bool :=
  ['\x00', '\t', '\n', '\r', ' ', '#', '/', ':', '<', '>', '?', '@', '[', '\\', ']', '^',
    '|'].contains c

/-- Whether no name of the web holds the character. -/
def isForbiddenInName (c : Char) : Bool :=
  isForbidden c || c.toNat < 0x20 || c == '%' || c == '\x7f'

def bracketed? (cs : List Char) : Option Host :=
  match cs.reverse with
  | ']' :: inside => (eightWords? inside.reverse).map Host.long
  | _ => none

def Host.text : Host → String
  | .name s => s
  | .short n => shortText n
  | .long ws => "[" ++ longText ws ++ "]"

end PlanCourier.Url
