/-!
# Sets of characters

A `CharSet` is a list of runs of code points, lowest first, disjoint and with a gap
between any two. Every operation here gives such a list when it is given such lists,
and `ofRuns` makes one of any runs. Surrogates are not characters: a run is cut so as
to leave them out, which makes the complement of the full set empty.
-/

namespace PredictiveParsing

/-- A set of characters as runs of code points, both ends included. -/
structure CharSet where
  runs : List (Nat × Nat)
deriving BEq, DecidableEq, Inhabited

namespace CharSet

instance : Hashable CharSet := ⟨fun s => hash s.runs.head?⟩

def empty : CharSet := ⟨[]⟩

def full : CharSet := ⟨[(0, 0xD7FF), (0xE000, 0x10FFFF)]⟩

def isEmpty (s : CharSet) : Bool := s.runs.isEmpty

def containsCode (s : CharSet) (code : Nat) : Bool :=
  s.runs.any fun (lo, hi) => lo ≤ code && code ≤ hi

def contains (s : CharSet) (c : Char) : Bool := s.containsCode c.toNat

/-- A run and runs that begin no earlier, lowest first, joined where they meet or overlap. -/
def joinedFrom (lo hi : Nat) : List (Nat × Nat) → List (Nat × Nat)
  | [] => [(lo, hi)]
  | (a, b) :: rest =>
    if a ≤ hi + 1 then joinedFrom lo (max hi b) rest else (lo, hi) :: joinedFrom a b rest

def joined : List (Nat × Nat) → List (Nat × Nat)
  | [] => []
  | (lo, hi) :: rest => joinedFrom lo hi rest

def withoutSurrogates : Nat × Nat → List (Nat × Nat)
  | (lo, hi) =>
    [(lo, min hi 0xD7FF), (max lo 0xE000, min hi 0x10FFFF)].filter fun (a, b) => a ≤ b

def ofRuns (runs : List (Nat × Nat)) : CharSet :=
  ⟨joined ((runs.flatMap withoutSurrogates).mergeSort fun a b => a.1 ≤ b.1)⟩

def singleton (c : Char) : CharSet := ⟨[(c.toNat, c.toNat)]⟩

def range (lo hi : Char) : CharSet := ofRuns [(lo.toNat, hi.toNat)]

def union (s t : CharSet) : CharSet := ofRuns (s.runs ++ t.runs)

def inter (s t : CharSet) : CharSet :=
  ofRuns <| s.runs.flatMap fun (a, b) =>
    t.runs.filterMap fun (c, d) =>
      if max a c ≤ min b d then some (max a c, min b d) else none

/-- The gaps between runs, from `start` on. -/
def gaps (start : Nat) : List (Nat × Nat) → List (Nat × Nat)
  | [] => [(start, 0x10FFFF)]
  | (lo, hi) :: rest =>
    if start < lo then (start, lo - 1) :: gaps (hi + 1) rest else gaps (hi + 1) rest

def complement (s : CharSet) : CharSet := ofRuns ((gaps 0 s.runs).filter fun (a, b) => a ≤ b)

def diff (s t : CharSet) : CharSet := s.inter t.complement

def symmDiff (s t : CharSet) : CharSet := (s.diff t).union (t.diff s)

/-! ### Written tables -/

def hexDigitValue (c : Char) : Nat :=
  if '0' ≤ c ∧ c ≤ '9' then c.toNat - '0'.toNat
  else if 'a' ≤ c ∧ c ≤ 'f' then c.toNat - 'a'.toNat + 10
  else if 'A' ≤ c ∧ c ≤ 'F' then c.toNat - 'A'.toNat + 10
  else 0

def hexValue (digits : List Char) : Nat :=
  digits.foldl (fun n c => 16 * n + hexDigitValue c) 0

/-- Reads code points in hexadecimal, single (`aa`) or as the ends of a run (`41-5a`), the
words apart by a space. `done` holds the runs read so far, last first, `low` the low end of the
word being read when its dash has passed, and `digits` the digits since, last first. -/
def readWords (done : List (Nat × Nat)) (low : Option Nat) (digits : List Char) :
    List Char → List (Nat × Nat)
  | [] => finish done low digits
  | ' ' :: rest => readWords (finish done low digits) none [] rest
  | '-' :: rest => readWords done (some (hexValue digits.reverse)) [] rest
  | c :: rest => readWords done low (c :: digits) rest
where
  finish (done : List (Nat × Nat)) (low : Option Nat) (digits : List Char) :
      List (Nat × Nat) :=
    if digits.isEmpty then done
    else
      let high := hexValue digits.reverse
      (low.getD high, high) :: done

/-- The set written in lines of hexadecimal runs, lowest first. -/
def ofText (lines : List String) : CharSet :=
  ⟨lines.flatMap fun line => (readWords [] none [] line.toList).reverse⟩

end CharSet

end PredictiveParsing
