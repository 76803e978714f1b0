/-!
# UTF-8

Reading characters off the front of a list of bytes. A first byte says how many bytes
follow it and narrows the first of those, so that no character has two encodings and no
surrogate has one. Bytes that do not begin with a character are told apart: those that
more bytes could complete to one, and those that nothing could.
-/

namespace PredictiveParsing.Text.Utf8

inductive Front where
  /-- A character, and the bytes behind it. -/
  | char (c : Char) (rest : List UInt8)
  /-- The beginning of a character, with nothing behind it. -/
  | incomplete
  /-- Bytes that begin no character. -/
  | malformed
deriving DecidableEq, Repr

/-- Reads the bytes that follow a first one. `low` and `high` bound the next of them and `bits` is
the code point so far. -/
def readTails : (tails low high bits : Nat) → List UInt8 → Front
  | 0, _, _, bits, rest => .char (Char.ofNat bits) rest
  | _ + 1, _, _, _, [] => .incomplete
  | tails + 1, low, high, bits, b :: rest =>
    if low ≤ b.toNat ∧ b.toNat ≤ high then
      readTails tails 0x80 0xBF (bits * 64 + (b.toNat - 0x80)) rest
    else .malformed

def readChar (b : UInt8) (rest : List UInt8) : Front :=
  let n := b.toNat
  if n < 0x80 then .char (Char.ofNat n) rest
  else if n < 0xC2 then .malformed
  else if n < 0xE0 then readTails 1 0x80 0xBF (n - 0xC0) rest
  else if n = 0xE0 then readTails 2 0xA0 0xBF 0 rest
  else if n = 0xED then readTails 2 0x80 0x9F 13 rest
  else if n < 0xF0 then readTails 2 0x80 0xBF (n - 0xE0) rest
  else if n = 0xF0 then readTails 3 0x90 0xBF 0 rest
  else if n < 0xF4 then readTails 3 0x80 0xBF (n - 0xF0) rest
  else if n = 0xF4 then readTails 3 0x80 0x8F 4 rest
  else .malformed

/-- What stands at the front of some bytes. No bytes at all can be gone on with to any character. -/
def readFront : List UInt8 → Front
  | [] => .incomplete
  | b :: rest => readChar b rest

theorem length_le_of_readTails {tails low high bits : Nat} {bytes rest : List UInt8} {c : Char}
    (h : readTails tails low high bits bytes = .char c rest) : rest.length ≤ bytes.length := by
  fun_induction readTails tails low high bits bytes with
  | case1 => simp_all
  | case2 => simp at h
  | case3 _ _ _ _ _ _ _ ih =>
    have := ih h
    simp only [List.length_cons]
    omega
  | case4 => simp at h

theorem length_le_of_readChar {b : UInt8} {bytes rest : List UInt8} {c : Char}
    (h : readChar b bytes = .char c rest) : rest.length ≤ bytes.length := by
  simp only [readChar] at h
  repeat' split at h
  all_goals first
    | exact length_le_of_readTails h
    | simp_all

inductive Remainder where
  /-- Nothing, or the beginning of a character. -/
  | open
  /-- Bytes that begin no character. -/
  | malformed
deriving DecidableEq, Repr

/-- The characters in front of some bytes, put in front of `chars` in reverse, the bytes left, and
what these are. -/
def readCharsOnto (chars : List Char) : List UInt8 → List Char × List UInt8 × Remainder
  | [] => (chars, [], .open)
  | b :: bytes =>
    match h : readChar b bytes with
    | .char c rest =>
      have : rest.length ≤ bytes.length := length_le_of_readChar h
      readCharsOnto (c :: chars) rest
    | .incomplete => (chars, b :: bytes, .open)
    | .malformed => (chars, b :: bytes, .malformed)
termination_by bytes => bytes.length
decreasing_by exact Nat.lt_succ_of_le this

def readChars (bytes : List UInt8) : List Char × List UInt8 × Remainder :=
  let (chars, rest, remainder) := readCharsOnto [] bytes
  (chars.reverse, rest, remainder)

def encode (s : String) : List UInt8 := s.toList.flatMap String.utf8EncodeChar

end PredictiveParsing.Text.Utf8
