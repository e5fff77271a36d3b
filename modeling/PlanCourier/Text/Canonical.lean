import PlanCourier.Text.Property.Composed

/-!
# Canonical texts

One letter with marks can be written in several ways: as one character, or as the letter and the
marks in some order. The canonical text of all these ways is the same: the text is taken apart, the
marks of each letter are put in order, and then as many of them as possible are put together with it
again. Syllables of Korean letters are put together by rule.

Main statement: `canonical_singleton`, a character that is no composite is its own canonical text.
-/

namespace PlanCourier.Text

/-- The class of a mark; zero for what is no mark that can move. -/
def markClass (c : Char) : Nat := ((Property.markClasses.find? fun g => g.2.has c).map (·.1)).getD 0

/-! ## Syllables -/

/-- The first of the letters that start syllables. -/
def firstLead : Nat := 0x1100

def firstVowel : Nat := 0x1161

/-- What stands before the first of the letters that end syllables. -/
def noTail : Nat := 0x11A7

def firstSyllable : Nat := 0xAC00

/-- The syllable of letters, if they make one. -/
def syllable? : List Char → Option Char
  | [lead, vowel] => syllable lead.toNat vowel.toNat noTail
  | [lead, vowel, tail] => if tail.toNat = noTail then none else
    syllable lead.toNat vowel.toNat tail.toNat
  | _ => none
where
  /-- The syllable of the letters with these numbers. -/
  syllable (lead vowel tail : Nat) : Option Char :=
    if firstLead ≤ lead ∧ lead < firstLead + 19 ∧ firstVowel ≤ vowel ∧ vowel < firstVowel + 21 ∧
        noTail ≤ tail ∧ tail < noTail + 28 then
      some (Char.ofNat
        (firstSyllable + ((lead - firstLead) * 21 + (vowel - firstVowel)) * 28 + (tail - noTail)))
    else none

def letters? (c : Char) : Option (List Char) :=
  if firstSyllable ≤ c.toNat ∧ c.toNat < firstSyllable + 19 * 21 * 28 then
    let n := c.toNat - firstSyllable
    let start := [Char.ofNat (firstLead + n / 588), Char.ofNat (firstVowel + n % 588 / 28)]
    some (if n % 28 = 0 then start else start ++ [Char.ofNat (noTail + n % 28)])
  else none

/-! ## Parts and composites -/

/-- What a character is put together from; itself if from nothing else. -/
def partsOf (c : Char) : List Char :=
  match letters? c with
  | some cs => cs
  | none => (Property.parts.lookup c.toNat).getD [c]

/-- The one character that is put together from these, of which there have to be two or more. -/
def composite? (cs : List Char) : Option Char :=
  if cs.length < 2 then none
  else match syllable? cs with
    | some c => some c
    | none => (Property.parts.find? fun entry => entry.2 == cs).map fun entry => Char.ofNat entry.1

/-- The text with a character at its end, the last one first: a mark goes before those of a greater
class. -/
def settle (c : Char) : List Char → List Char
  | [] => [c]
  | d :: rest =>
    if markClass c ≠ 0 ∧ markClass c < markClass d then d :: settle c rest else c :: d :: rest

/-- The text with the marks after each letter in order. -/
def settled (cs : List Char) : List Char := (cs.foldl (fun before c => settle c before) []).reverse

/-- What is written for parts: their composite, or themselves. -/
def written (parts : List Char) : List Char := ((composite? parts).map ([·])).getD parts

/-- Puts the rest of a text together: `parts` belong to one letter, and the characters of `between`,
the last one first, stand after it and are not put together with it. A mark is put together with
the letter unless one of its class or of a greater one stands between. -/
def joined (parts between : List Char) : List Char → List Char
  | [] => written parts ++ between.reverse
  | c :: rest =>
    let isNear := between.head?.all fun b => markClass b < markClass c
    if isNear ∧ (composite? (parts ++ [c])).isSome then joined (parts ++ [c]) between rest
    else if markClass c = 0 then written parts ++ between.reverse ++ joined [c] [] rest
    else joined parts (c :: between) rest

def canonical (cs : List Char) : List Char := joined [] [] (settled (cs.flatMap partsOf))

theorem composite?_of_length_lt {cs : List Char} (h : cs.length < 2) : composite? cs = none := by
  simp [composite?, h]

theorem canonical_singleton {c : Char} (hp : partsOf c = [c]) (hm : markClass c = 0) :
    canonical [c] = [c] := by
  have hn : composite? [] = none := composite?_of_length_lt (by decide)
  have hc : composite? [c] = none := composite?_of_length_lt (by simp)
  simp [canonical, hp, settled, settle, joined, hn, hc, hm, written]

end PlanCourier.Text
