import PlanCourier.Text.Property.Emoji
import PlanCourier.Text.Property.Joining

/-!
# Characters that are shown as one

A text is looked at from its end. What stands after a character, its `Context`, tells whether the
character is shown together with what follows: emoji with a selector, a skin tone or a joiner,
and the ligatures of some scripts. `Context.meet` gives how many columns the character adds where
it is, which may be one less than none.
-/

namespace PlanCourier.Text

/-- What a text starts with, as far as a character before it may join it. -/
inductive Start where
  /-- Nothing that joins. -/
  | plain
  | lineFeed
  /-- Something that is shown as an emoji. -/
  | emoji
  | skinTone
  /-- One letter of a flag. -/
  | flagLetter
  /-- Several letters of flags. -/
  | flagLetters
  /-- A joiner before an emoji. -/
  | joinedEmoji
  /-- The mark of a key before a joiner and an emoji. -/
  | joinedKey
  /-- An odd number of flag letters before a joiner and an emoji. -/
  | joinedLetter
  /-- An even number of flag letters, at least two, before a joiner and an emoji. -/
  | joinedLetters
  /-- So many tag letters, and then so many tag digits, up to the end of a tag sequence before a
  joiner and an emoji; digits are counted where letters cannot follow any more. -/
  | joinedTags (letters digits : Nat)
  /-- The Arabic letter alef. -/
  | alef
  /-- The Hebrew letter lamed. -/
  | lamed (joined : Bool)
  /-- A Khmer letter that can be written below another one. -/
  | khmerLetter
  /-- The Buginese letter ya. -/
  | ya (joined : Bool)
  /-- The Buginese vowel sign i before a joined ya. -/
  | signBeforeYa
  /-- A Tifinagh consonant. -/
  | consonant (joined : Bool)
  /-- The Tifinagh joiner before a consonant. -/
  | joinedConsonant
  /-- A Lisu tone letter of the second kind. -/
  | tone
  /-- The Old Turkic letter i. -/
  | orkhonI (joined : Bool)
  /-- The Kirat Rai vowel sign e. -/
  | vowelE
  /-- The Kirat Rai vowel sign ai. -/
  | vowelAi
  deriving DecidableEq, Repr

namespace Start

/-- Whether this is a part of a ligature of letters. -/
def isLigature : Start → Bool
  | .alef | .lamed _ | .khmerLetter | .ya _ | .signBeforeYa | .consonant _ | .joinedConsonant
  | .tone | .orkhonI _ | .vowelE | .vowelAi => true
  | _ => false

/-- The same after a joiner, where a joiner does not part a ligature. -/
def joined? : Start → Option Start
  | .lamed _ => some (.lamed true)
  | .ya _ => some (.ya true)
  | .consonant _ => some (.consonant true)
  | .orkhonI _ => some (.orkhonI true)
  | .alef => none
  | s => if s.isLigature then some s else none

end Start

/-- A variation selector, by what it asks for. -/
inductive Selector where
  | emoji
  | text
  | wide
  deriving DecidableEq, Repr

/-- What stands after a character: what the text starts with, behind a selector that may apply to
the character. -/
structure Context where
  start : Start
  selector : Option Selector
  deriving DecidableEq, Repr

/-- Whether the character lies between two code points. -/
def isBetween (first last : Nat) (c : Char) : Bool := first ≤ c.toNat && c.toNat ≤ last

def isFlagLetter (c : Char) : Bool := isBetween 0x1F1E6 0x1F1FF c

def isSkinTone (c : Char) : Bool := isBetween 0x1F3FB 0x1F3FF c

/-- Whether the character is a small letter of a tag sequence. -/
def isTagLetter (c : Char) : Bool := isBetween 0xE0061 0xE007A c

def isTagDigit (c : Char) : Bool := isBetween 0xE0030 0xE0039 c

/-- Whether the character is a form of the Arabic letter lam. -/
def isLam (c : Char) : Bool :=
  c == '\u0644' || isBetween 0x06B5 0x06B8 c || c == '\u076A' || c == '\u08A6' || c == '\u08C7'

/-- Whether the character is a Khmer letter that can be written below another one. -/
def isKhmerLetter (c : Char) : Bool :=
  isBetween 0x1780 0x1782 c || isBetween 0x1784 0x1787 c ||
    isBetween 0x1789 0x178C c || isBetween 0x178E 0x1793 c ||
    isBetween 0x1795 0x1798 c || isBetween 0x179B 0x179D c || c == '\u17A0' ||
    c == '\u17A2' || c == '\u17A7' || c == '\u17AB' || c == '\u17AC' || c == '\u17AF'

/-- Whether the character is a Tifinagh consonant. -/
def isTifinagh (c : Char) : Bool := isBetween 0x2D31 0x2D65 c || c == '\u2D6F'

/-- Whether the character is a quotation mark that has a wide form. -/
def isQuotation (c : Char) : Bool :=
  c == '\u2018' || c == '\u2019' || c == '\u201C' || c == '\u201D'

/-- Whether the character is a mark without a form, which parts no ligature. -/
def isHiddenMark (c : Char) : Bool :=
  c == '\u034F' || c == '\u17B4' || c == '\u17B5' || isBetween 0x180B 0x180D c ||
    c == '\u180F' || isBetween 0xFE00 0xFE0F c || isBetween 0xE0100 0xE01EF c

/-- The zero width joiner. -/
def joiner : Char := '\u200D'

/-- What a character by itself starts a text with. -/
def Start.ofChar (c : Char) : Start :=
  if c.toNat ≤ 0xA0 then if c = '\n' then .lineFeed else .plain
  else if isFlagLetter c then .flagLetter
  else if isSkinTone c then .skinTone
  else if Property.emojiPresentation.has c then .emoji
  else if Property.alef.has c then .alef
  else if isKhmerLetter c then .khmerLetter
  else if isTifinagh c then .consonant false
  else match c.toNat with
    | 0x05DC => .lamed false
    | 0x1A10 => .ya false
    | 0xA4FC | 0xA4FD => .tone
    | 0x10C03 => .orkhonI false
    | 0x16D67 => .vowelE
    | 0x16D68 => .vowelAi
    | _ => .plain

/-- The columns that a character adds to what it joins, and what the text then starts with. -/
def Start.meet (c : Char) : Start → Option (Int × Start)
  | .plain | .joinedKey | .lamed false | .ya false | .orkhonI false => none
  | .lineFeed => if c = '\r' then some (0, .plain) else none
  | .emoji => if c = joiner then some (0, .joinedEmoji) else none
  | .skinTone =>
    if Property.emojiModifierBase.has c then some (0, .emoji)
    else if c = joiner then some (0, .joinedEmoji)
    else none
  | .flagLetter => if isFlagLetter c then some (1, .flagLetters) else none
  | .flagLetters =>
    if isFlagLetter c then some (1, .flagLetters)
    else if c = joiner then some (0, .joinedEmoji)
    else none
  | .joinedEmoji =>
    if c = '\u20E3' then some (0, .joinedKey)
    else if isFlagLetter c then some (1, .joinedLetter)
    else if isSkinTone c then some (0, .skinTone)
    else if c.toNat = 0xE007F then some (0, .joinedTags 0 0)
    else if Property.emojiPresentation.has c then some (0, .emoji)
    else none
  | .joinedLetter => if isFlagLetter c then some (-1, .joinedLetters) else none
  | .joinedLetters =>
    if isFlagLetter c then some (3, .joinedLetter)
    else if c = joiner then some (0, .joinedEmoji)
    else none
  | .joinedTags letters digits =>
    if isTagLetter c ∧ digits = 0 ∧ letters < 6 then some (0, .joinedTags (letters + 1) 0)
    else if isTagDigit c ∧ digits < 3 ∧ letters < 5 then some (0, .joinedTags letters (digits + 1))
    else if c.toNat = 0x1F3F4 ∧ (digits = 3 ∨ (digits = 0 ∧ 3 ≤ letters)) then some (0, .emoji)
    else none
  | .alef =>
    if isLam c then some (0, .plain)
    else if Property.transparent.has c then some (0, .alef)
    else none
  | .lamed true => if c = '\u05D0' then some (0, .plain) else none
  | .khmerLetter => if c = '\u17D2' then some (-1, .plain) else none
  | .ya true => if c = '\u1A17' then some (0, .signBeforeYa) else none
  | .signBeforeYa => if c = '\u1A15' then some (0, .plain) else none
  | .consonant joined =>
    if c = '\u2D7F' then some (1, .joinedConsonant)
    else if joined && isTifinagh c then some (0, .plain)
    else none
  | .joinedConsonant => if isTifinagh c then some (-1, .plain) else none
  | .tone => if isBetween 0xA4F8 0xA4FB c then some (0, .plain) else none
  | .orkhonI true => if c.toNat = 0x10C32 then some (0, .plain) else none
  | .vowelE =>
    match c.toNat with
    | 0x16D63 | 0x16D69 => some (0, .plain)
    | 0x16D67 => some (0, .vowelAi)
    | 0x16D68 => some (1, .vowelE)
    | _ => none
  | .vowelAi => if c.toNat = 0x16D63 then some (0, .plain) else none

namespace Context

/-- What stands after the end of a text. -/
def plain : Context := ⟨.plain, none⟩

/-- The context without its selector, which did not apply; only a ligature goes on behind it. -/
def withoutSelector (k : Context) : Start :=
  if k.selector.isNone || k.start.isLigature then k.start else .plain

/-- The context behind a selector. -/
def select (k : Context) (s : Selector) : Context :=
  let start := k.withoutSelector
  if start.isLigature ||
      (s == .emoji && (start == .joinedEmoji || start == .joinedKey)) then ⟨start, some s⟩
  else ⟨.plain, some s⟩

def selector? (c : Char) : Option Selector :=
  match c with
  | '\uFE01' => some .wide
  | '\uFE0E' => some .text
  | '\uFE0F' => some .emoji
  | _ => none

/-- The columns that a character adds through a selector after it, and the context it makes. -/
def meetSelector (c : Char) (k : Context) : Option (Int × Context) :=
  match k.selector with
  | some .emoji =>
    if Property.emojiStyled.has c then
      some (if k.start = .joinedEmoji ∨ k.start = .joinedKey then 0 else 2, ⟨.emoji, none⟩)
    else none
  | some .text => if Property.textStyled.has c then some (1, plain) else none
  | some .wide => if isQuotation c then some (2, plain) else none
  | none => none

/-- The columns that a character adds where it is not shown by itself, and the context it makes. -/
def meet (c : Char) (k : Context) : Option (Int × Context) :=
  match k.meetSelector c with
  | some joined => some joined
  | none =>
    let start := k.withoutSelector
    if c.toNat ≤ 0xA0 then (start.meet c).map fun (n, s) => (n, ⟨s, none⟩)
    else
      match selector? c with
      | some s => some (0, k.select s)
      | none =>
        if isHiddenMark c && start != .alef && start.isLigature then some (0, ⟨start, none⟩)
        else
          match if c = joiner then start.joined? else none with
          | some s => some (0, ⟨s, none⟩)
          | none => (start.meet c).map fun (n, s) => (n, ⟨s, none⟩)

end Context

end PlanCourier.Text
