/-!
# Percent encoding

Which characters stand in the parts of an address as they are, and how the others are written: byte
by byte, each one as a percent sign and two hexadecimal digits.

Main statements:

- `percentEncoded_of_shown`: a text without hidden characters is written as it is;
- `shown_percentEncoded`: what is written holds no hidden character, if percent signs, digits and
  capital letters are not hidden.
-/

namespace PlanCourier.Url

/-- Whether the character is a control character or none of ASCII. -/
def isHiddenAnywhere (c : Char) : Bool := c.toNat < 0x20 || 0x7E < c.toNat

def isHiddenInFragment (c : Char) : Bool :=
  isHiddenAnywhere c || c == ' ' || c == '"' || c == '<' || c == '>' || c == '\x60'

def isHiddenInQuery (c : Char) : Bool :=
  isHiddenAnywhere c || c == ' ' || c == '"' || c == '<' || c == '>' || c == '#'

/-- Whether the query of a scheme of the web hides the character. -/
def isHiddenInWebQuery (c : Char) : Bool := isHiddenInQuery c || c == '\''

def isHiddenInPath (c : Char) : Bool :=
  isHiddenInQuery c || c == '?' || c == '\x60' || c == '\x7b' || c == '\x7d'

/-- Whether the name or the password of a user hides the character. -/
def isHiddenInUser (c : Char) : Bool :=
  isHiddenInPath c || c == '/' || c == ':' || c == ';' || c == '=' || c == '@' || c == '[' ||
    c == '\\' || c == ']' || c == '^' || c == '|'

def capitalDigit (n : Nat) : Char := if n < 10 then Char.ofNat (48 + n) else Char.ofNat (55 + n)

def percentByte (b : UInt8) : List Char :=
  ['%', capitalDigit (b.toNat / 16), capitalDigit (b.toNat % 16)]

/-- The text with the hidden characters written by their bytes. -/
def percentEncoded (hidden : Char → Bool) (cs : List Char) : List Char :=
  cs.flatMap fun c => if hidden c then (String.utf8EncodeChar c).flatMap percentByte else [c]

def hexDigit? (c : Char) : Option Nat :=
  if '0' ≤ c ∧ c ≤ '9' then some (c.toNat - 48)
  else if 'a' ≤ c ∧ c ≤ 'f' then some (c.toNat - 87)
  else if 'A' ≤ c ∧ c ≤ 'F' then some (c.toNat - 55)
  else none

/-- The bytes that a text stands for. A percent sign without two digits stands for itself. -/
def percentDecoded : List Char → List UInt8
  | [] => []
  | '%' :: a :: b :: rest =>
    match hexDigit? a, hexDigit? b with
    | some x, some y => .ofNat (x * 16 + y) :: percentDecoded rest
    | _, _ => 0x25 :: percentDecoded (a :: b :: rest)
  | c :: rest => String.utf8EncodeChar c ++ percentDecoded rest

/-- The text that an encoded text stands for, if its bytes are one. -/
def decodedText? (cs : List Char) : Option String :=
  String.fromUTF8? ⟨(percentDecoded cs).toArray⟩

theorem percentEncoded_of_shown {hidden : Char → Bool} {cs : List Char}
    (h : ∀ c ∈ cs, hidden c = false) : percentEncoded hidden cs = cs := by
  induction cs with
  | nil => rfl
  | cons c rest ih =>
    have hc := h c List.mem_cons_self
    have hr := ih fun d hd => h d (List.mem_cons_of_mem _ hd)
    rw [percentEncoded] at hr ⊢
    simp [hc, hr]

theorem shown_percentEncoded {hidden : Char → Bool} (hp : hidden '%' = false)
    (hd : ∀ n < 16, hidden (capitalDigit n) = false) {cs : List Char} {c : Char}
    (h : c ∈ percentEncoded hidden cs) : hidden c = false := by
  simp only [percentEncoded, List.mem_flatMap] at h
  obtain ⟨x, -, hx⟩ := h
  split at hx
  next =>
    obtain ⟨b, -, hb⟩ := List.mem_flatMap.1 hx
    simp only [percentByte, List.mem_cons, List.not_mem_nil, or_false] at hb
    have hlt := b.toNat_lt
    rcases hb with rfl | rfl | rfl
    · exact hp
    · exact hd _ (by omega)
    · exact hd _ (by omega)
  next hs =>
    obtain rfl : c = x := by simpa using hx
    simpa using hs

end PlanCourier.Url
