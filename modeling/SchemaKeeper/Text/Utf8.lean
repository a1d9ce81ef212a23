/-!
Contract: bytes as text.

Well-formed UTF-8 is read as it stands. Elsewhere, each longest run of bytes that
could begin a character, and each byte that could not, is replaced by one U+FFFD;
so a character that breaks off gives a single replacement, and an encoded half of a
surrogate pair gives three.

Owns: the ranges of well-formed sequences and the replacement.
-/

namespace SchemaKeeper.Text

/-- Stands for bytes that are not text. -/
def replacement : Char := '\ufffd'

structure ByteRange where
  low : Nat
  high : Nat

/-- The bytes that go on a character. -/
def ByteRange.continuation : ByteRange := ⟨0x80, 0xbf⟩

def ByteRange.contains (range : ByteRange) (byte : UInt8) : Bool :=
  range.low ≤ byte.toNat && byte.toNat ≤ range.high

/-- The bits that a leading byte gives to its character, and the ranges of the bytes
that have to follow; `none` if no character begins with it. The second byte is
narrowed where the character would be too small, too large or half of a surrogate
pair. -/
def leading? (byte : UInt8) : Option (Nat × List ByteRange) :=
  let code := byte.toNat
  let next := ByteRange.continuation
  if code ≤ 0x7f then some (code, [])
  else if code < 0xc2 then none
  else if code ≤ 0xdf then some (code % 32, [next])
  else if code = 0xe0 then some (0, [⟨0xa0, 0xbf⟩, next])
  else if code = 0xed then some (13, [⟨0x80, 0x9f⟩, next])
  else if code ≤ 0xef then some (code % 16, [next, next])
  else if code = 0xf0 then some (0, [⟨0x90, 0xbf⟩, next, next])
  else if code ≤ 0xf3 then some (code % 8, [next, next, next])
  else if code = 0xf4 then some (4, [⟨0x80, 0x8f⟩, next, next])
  else none

/-- Goes on with a character as far as the bytes allow: its code if it is complete,
and the bytes behind. -/
def follow (code : Nat) : List ByteRange → List UInt8 → Option Nat × List UInt8
  | [], bytes => (some code, bytes)
  | _ :: _, [] => (none, [])
  | range :: ranges, byte :: bytes =>
      if range.contains byte then follow (code * 64 + byte.toNat % 64) ranges bytes
      else (none, byte :: bytes)

theorem length_follow_le (code : Nat) (ranges : List ByteRange) (bytes : List UInt8) :
    (follow code ranges bytes).2.length ≤ bytes.length := by
  induction ranges generalizing code bytes with
  | nil => simp [follow]
  | cons range ranges inductionHypothesis =>
      cases bytes with
      | nil => simp [follow]
      | cons byte bytes =>
          rw [follow]
          split
          · exact Nat.le_succ_of_le (inductionHypothesis _ bytes)
          · simp

def charsOfBytes : List UInt8 → List Char
  | [] => []
  | byte :: bytes =>
      match leading? byte with
      | none => replacement :: charsOfBytes bytes
      | some (code, ranges) =>
          have := length_follow_le code ranges bytes
          (((follow code ranges bytes).1.map Char.ofNat).getD replacement) ::
            charsOfBytes (follow code ranges bytes).2
termination_by bytes => bytes.length

/-- The text of bytes, with replacements where they are not text. -/
def ofBytes (bytes : List UInt8) : String :=
  String.ofList (charsOfBytes bytes)

end SchemaKeeper.Text
