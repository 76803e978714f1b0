import PredictiveParsing.Source.Stream
import PredictiveParsing.Text.Utf8

/-!
# Characters from a reader

A reader hands out bytes in pieces, can be interrupted, and can break. `ReaderChars`
is the supply of the characters in its bytes. Characters may straddle pieces: the
bytes that do not make one yet are kept until more arrive. The first fault ends the
supply and is kept, with the offset of the first byte that is not part of a
character where the encoding is at fault.
-/

namespace PredictiveParsing

/-- What a reader does when it is asked for bytes. -/
inductive ReadEvent where
  | bytes (bytes : List UInt8)
  /-- A try that came to nothing and may be repeated. -/
  | interrupted
  | failed (message : String)
deriving DecidableEq, Repr

inductive ReadError where
  | io (message : String)
  | invalidUtf8 (offset : Nat)
deriving BEq, DecidableEq, Repr

def ReadError.describe : ReadError → String
  | .io message => "failed to read input: " ++ message
  | .invalidUtf8 offset => s!"invalid UTF-8 in input at byte offset {offset}"

/-- The events of a reader that are still to come. When none are left there are no bytes. -/
abbrev Reader := List ReadEvent

namespace Reader

def chunkSize : Nat := 8 * 1024

/-- Asks for bytes. What does not fit is left as the next event. -/
def read : Reader → ReadEvent × Reader
  | [] => (.bytes [], [])
  | .bytes bytes :: rest =>
    match bytes.drop chunkSize with
    | [] => (.bytes bytes, rest)
    | _ => (.bytes (bytes.take chunkSize), .bytes (bytes.drop chunkSize) :: rest)
  | event :: rest => (event, rest)

/-- The bytes to come and the events that bring them. Every read takes something off. -/
def weight : Reader → Nat
  | [] => 0
  | .bytes bytes :: rest => bytes.length + 1 + weight rest
  | _ :: rest => 1 + weight rest

theorem weight_read_lt {r : Reader} (h : r ≠ []) : weight r.read.2 < weight r := by
  match r with
  | [] => contradiction
  | .bytes bytes :: rest =>
    simp only [read]
    split
    · simp only [weight]
      omega
    · rename_i hmore
      have hne : bytes.drop chunkSize ≠ [] := hmore
      have : chunkSize < bytes.length := by simpa using hne
      simp only [weight, List.length_drop, chunkSize] at this ⊢
      omega
  | .interrupted :: rest => simp [read, weight]
  | .failed _ :: rest => simp [read, weight]

end Reader

inductive ReadStatus where
  | reading
  | ended
  | failed (error : ReadError)
deriving DecidableEq, Repr

/-- The characters of a reader: the bytes read that are not a character yet, the characters
decoded and not taken, and the number of bytes decoded. -/
structure ReaderChars where
  reader : Reader
  undecoded : List UInt8 := []
  decoded : List Char := []
  bytesDecoded : Nat := 0
  status : ReadStatus := .reading
deriving Repr

namespace ReaderChars

def error? (r : ReaderChars) : Option ReadError :=
  match r.status with
  | .failed e => some e
  | _ => none

def decode (r : ReaderChars) (bytes : List UInt8) : ReaderChars :=
  let all := r.undecoded ++ bytes
  let (chars, rest, remainder) := Text.Utf8.readChars all
  let bytesDecoded := r.bytesDecoded + (all.length - rest.length)
  { r with
    undecoded := rest
    decoded := r.decoded ++ chars
    bytesDecoded
    status := match remainder with
      | .open => r.status
      | .malformed => .failed (.invalidUtf8 bytesDecoded) }

def readOnce (r : ReaderChars) : ReaderChars :=
  let (event, reader) := r.reader.read
  let r := { r with reader }
  match event with
  | .bytes [] =>
    match r.undecoded with
    | [] => { r with status := .ended }
    | _ => { r with status := .failed (.invalidUtf8 r.bytesDecoded) }
  | .bytes bytes => r.decode bytes
  | .interrupted => r
  | .failed message => { r with status := .failed (.io message) }

theorem reader_readOnce (r : ReaderChars) : r.readOnce.reader = r.reader.read.2 := by
  simp only [readOnce, decode]
  split
  · split <;> rfl
  all_goals rfl

def fill (r : ReaderChars) : ReaderChars :=
  match r.decoded, r.status with
  | [], .reading =>
    if h : r.reader = [] then r.readOnce
    else
      have : r.readOnce.reader.weight < r.reader.weight := by
        rw [reader_readOnce]
        exact Reader.weight_read_lt h
      fill r.readOnce
  | _, _ => r
termination_by r.reader.weight

def pop (r : ReaderChars) : Option Char × ReaderChars :=
  match r.decoded with
  | [] => (none, r)
  | c :: rest => (some c, { r with decoded := rest })

/-- The next character. The reader is asked only when no decoded character is left. -/
def next (r : ReaderChars) : Option Char × ReaderChars :=
  match r.decoded with
  | [] => r.fill.pop
  | _ :: _ => r.pop

def bound (r : ReaderChars) : Nat :=
  r.decoded.length + r.undecoded.length + r.reader.weight

instance : Supply ReaderChars Char where
  next := next
  bound := bound

def take : Nat → ReaderChars → List Char × ReaderChars
  | 0, r => ([], r)
  | n + 1, r =>
    match r.next with
    | (none, r) => ([], r)
    | (some c, r) =>
      let (cs, r) := take n r
      (c :: cs, r)

end ReaderChars

end PredictiveParsing
