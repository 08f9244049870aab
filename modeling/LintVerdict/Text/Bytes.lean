/-!
# Bytes and texts

The system knows bytes, not texts: a name in a directory need not be UTF-8. A text of the system
has one character below 256 for each byte.

## Main definitions

* `byteChars`, `ofByteChars`: bytes as characters below 256, and back.
* `lossy`: the text of bytes, in which every ill-formed piece becomes U+FFFD.
* `SystemText`: a text of the system.
* `encoded`, `decoded`, `decoded?`: the UTF-8 of a text, and the text of what may be UTF-8.
-/

namespace LintVerdict

/-- A text of the system, such as a path: one character below 256 for each byte. -/
abbrev SystemText := String

namespace Text

/-- Bytes, each as the character of its number. -/
def byteChars (b : ByteArray) : List Char := b.toList.map fun x => Char.ofNat x.toNat

/-- The bytes of characters below 256. -/
def ofByteChars (cs : List Char) : ByteArray := ⟨(cs.map fun c => c.toNat.toUInt8).toArray⟩

/-- The character that stands for what is no text. -/
def replacement : Char := '\ufffd'

/-- Whether a byte continues a character. -/
def continues (b : Nat) : Bool := 0x80 ≤ b && b ≤ 0xBF

/-- Whether the first two bytes of a character of three or four bytes go together. The second
one decides that the code is neither overlong, nor a surrogate, nor too large. -/
def pairs (a b : Nat) : Bool :=
  if a = 0xE0 then 0xA0 ≤ b && b ≤ 0xBF
  else if a = 0xED then 0x80 ≤ b && b ≤ 0x9F
  else if a = 0xF0 then 0x90 ≤ b && b ≤ 0xBF
  else if a = 0xF4 then 0x80 ≤ b && b ≤ 0x8F
  else continues b

/-- The first character of some bytes and how many bytes it takes. An ill-formed piece is as
long as the bytes could have begun a character. -/
def firstChar : List Nat → Char × Nat
  | [] => (replacement, 1)
  | a :: rest =>
    if a < 0x80 then (Char.ofNat a, 1)
    else if a < 0xC2 || 0xF4 < a then (replacement, 1)
    else
      match rest with
      | [] => (replacement, 1)
      | b :: rest =>
        if !pairs a b then (replacement, 1)
        else if a < 0xE0 then (Char.ofNat ((a - 0xC0) * 64 + (b - 0x80)), 2)
        else
          match rest with
          | [] => (replacement, 2)
          | c :: rest =>
            if !continues c then (replacement, 2)
            else if a < 0xF0 then
              (Char.ofNat ((a - 0xE0) * 4096 + (b - 0x80) * 64 + (c - 0x80)), 3)
            else
              match rest with
              | [] => (replacement, 3)
              | d :: _ =>
                if !continues d then (replacement, 3)
                else
                  (Char.ofNat ((a - 0xF0) * 262144 + (b - 0x80) * 4096 + (c - 0x80) * 64 +
                    (d - 0x80)), 4)

/-- The characters of some bytes, the first few of which have been read. -/
def lossyBehind : Nat → List Nat → List Char
  | _, [] => []
  | read + 1, _ :: rest => lossyBehind read rest
  | 0, a :: rest =>
    let (c, n) := firstChar (a :: rest)
    c :: lossyBehind (n - 1) rest

/-- The characters of some bytes. -/
def lossyChars (bytes : List Nat) : List Char := lossyBehind 0 bytes

/-- The text of some bytes. -/
def lossy (b : ByteArray) : String := String.ofList (lossyChars (b.toList.map UInt8.toNat))

/-!
### Texts of the system
-/

/-- The text of the system that stands for a text. -/
def encoded (text : String) : SystemText :=
  String.ofList ((text.toList.flatMap String.utf8EncodeChar).map fun b => Char.ofNat b.toNat)

/-- The text that is shown for a text of the system: every ill-formed piece becomes U+FFFD. -/
def decoded (s : SystemText) : String := String.ofList (lossyChars (s.toList.map Char.toNat))

/-- The text that a text of the system stands for, if it is UTF-8. -/
def decoded? (s : SystemText) : Option String :=
  let text := decoded s
  if encoded text = s then some text else none

end Text

end LintVerdict
