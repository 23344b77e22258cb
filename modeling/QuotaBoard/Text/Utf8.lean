/-!
# Texts from bytes

A file or token that should hold text is read strictly (`text?`).  The body of a reply is read
leniently (`lossy`): every maximal piece that cannot begin a character becomes one U+FFFD.
-/

namespace QuotaBoard.Utf8

/-- The text that some bytes encode. -/
def text? (bytes : List UInt8) : Option String :=
  String.fromUTF8? ⟨bytes.toArray⟩

/-- The bytes of a text. -/
def bytes (s : String) : List UInt8 :=
  s.toUTF8.toList

/-- How many bytes follow a first byte, and the range of the one right after it: the range
excludes overlong forms, surrogates and what lies beyond Unicode. -/
def sequence? (b : UInt8) : Option (Nat × UInt8 × UInt8) :=
  if 0xC2 ≤ b ∧ b ≤ 0xDF then some (1, 0x80, 0xBF)
  else if b = 0xE0 then some (2, 0xA0, 0xBF)
  else if b = 0xED then some (2, 0x80, 0x9F)
  else if 0xE1 ≤ b ∧ b ≤ 0xEF then some (2, 0x80, 0xBF)
  else if b = 0xF0 then some (3, 0x90, 0xBF)
  else if 0xF1 ≤ b ∧ b ≤ 0xF3 then some (3, 0x80, 0xBF)
  else if b = 0xF4 then some (3, 0x80, 0x8F)
  else none

/-- The payload of a first byte. -/
def leadBits (b : UInt8) : Nat :=
  if b < 0xE0 then b.toNat % 32 else if b < 0xF0 then b.toNat % 16 else b.toNat % 8

/-- What a lenient reading is in the middle of: nothing, or a character of which `missing`
continuation bytes are still due, the next one in the range from `low` to `high`. -/
inductive Pending where
  | none
  | character (value missing : Nat) (low high : UInt8)

/-- The replacement character. -/
def replacement : Char := '\uFFFD'

/-- What a byte does when no character is pending: the character it is, if any, and the
character it begins. -/
def begin (b : UInt8) : List Char × Pending :=
  if b < 0x80 then ([Char.ofNat b.toNat], .none)
  else match sequence? b with
    | some (missing, low, high) => ([], .character (leadBits b) missing low high)
    | none => ([replacement], .none)

/-- The characters of some bytes after what is pending. -/
def lossyFrom : Pending → List UInt8 → List Char
  | .none, [] => []
  | .character .., [] => [replacement]
  | .none, b :: rest =>
    let (cs, pending) := begin b
    cs ++ lossyFrom pending rest
  | .character value missing low high, b :: rest =>
    if low ≤ b ∧ b ≤ high then
      let value := value * 64 + b.toNat % 64
      if missing ≤ 1 then Char.ofNat value :: lossyFrom .none rest
      else lossyFrom (.character value (missing - 1) 0x80 0xBF) rest
    else
      let (cs, pending) := begin b
      replacement :: cs ++ lossyFrom pending rest

/-- The text of some bytes, with a replacement character for every piece that is no text. -/
def lossy (bytes : List UInt8) : String :=
  String.ofList (lossyFrom .none bytes)

end QuotaBoard.Utf8
