import PredictiveParsing.Symbol

/-!
# Sets of symbols

A `SymbolSet` describes the symbols a parser can begin on. It is a tree of
leaves, and `union` keeps the trees in a normal form: the empty set vanishes in a
union and the full set absorbs the other side, so that no inner node ever has one
of them below it. Two sets are compared, and described, by their leaves from left
to right; the shape of the tree shows in `inspect` only.

A predicate is a named test. Tests cannot be compared, so predicates are equal
when their names are.
-/

namespace PredictiveParsing

/-- A description of a set of symbols. Build unions with `SymbolSet.union`. -/
inductive SymbolSet (σ : Type) where
  | empty
  | all
  | value (v : σ)
  | predicate (name : String) (test : σ → Bool)
  | either (left right : SymbolSet σ)

namespace SymbolSet

variable {σ : Type}

instance : Inhabited (SymbolSet σ) := ⟨.empty⟩

/-- Whether the set is the leaf `empty`. A predicate that no symbol passes is not. -/
def isEmpty : SymbolSet σ → Bool
  | .empty => true
  | _ => false

def isAll : SymbolSet σ → Bool
  | .all => true
  | _ => false

/-- The union of two sets: `empty` is neutral and `all` absorbs. -/
def union : SymbolSet σ → SymbolSet σ → SymbolSet σ
  | .empty, t => t
  | s, .empty => s
  | .all, _ => .all
  | _, .all => .all
  | s, t => .either s t

/-- The leaves of a set from left to right, in front of `rest`. -/
def leavesOnto : SymbolSet σ → List (SymbolSet σ) → List (SymbolSet σ)
  | .either l r, rest => l.leavesOnto (r.leavesOnto rest)
  | leaf, rest => leaf :: rest

def leaves (s : SymbolSet σ) : List (SymbolSet σ) :=
  s.leavesOnto []

def contains [BEq σ] : SymbolSet σ → σ → Bool
  | .empty, _ => false
  | .all, _ => true
  | .value v, x => v == x
  | .predicate _ test, x => test x
  | .either l r, x => l.contains x || r.contains x

/-! ### Comparison -/

/-- Whether two leaves are the same: values by `==`, predicates by name. -/
def sameLeaf [BEq σ] : SymbolSet σ → SymbolSet σ → Bool
  | .empty, .empty => true
  | .all, .all => true
  | .value a, .value b => a == b
  | .predicate m _, .predicate n _ => m == n
  | _, _ => false

def sameLeaves [BEq σ] : List (SymbolSet σ) → List (SymbolSet σ) → Bool
  | [], [] => true
  | l :: ls, r :: rs => l.sameLeaf r && sameLeaves ls rs
  | _, _ => false

instance [BEq σ] : BEq (SymbolSet σ) := ⟨fun s t => sameLeaves s.leaves t.leaves⟩

/-! ### Text -/

/-- How a message writes one leaf; the empty set is not mentioned. -/
def leafText? [Symbol σ] : SymbolSet σ → Option String
  | .all => some "any symbol"
  | .value v => some (Symbol.text v)
  | .predicate name _ => some name
  | _ => none

def withoutRepeats : List String → List String → List String
  | kept, [] => kept.reverse
  | kept, x :: xs => withoutRepeats (if kept.contains x then kept else x :: kept) xs

def enumeration : List String → String
  | [] => "nothing"
  | [x] => x
  | xs => ", ".intercalate xs.dropLast ++ " or " ++ xs.getLast?.getD ""

/-- What a message says is expected: each leaf once, where it comes first. -/
def describe [Symbol σ] (s : SymbolSet σ) : String :=
  enumeration (withoutRepeats [] (s.leaves.filterMap leafText?))

def inspect [Symbol σ] : SymbolSet σ → String
  | .empty => "Empty"
  | .all => "All"
  | .value v => "Value(" ++ Symbol.text v ++ ")"
  | .predicate name _ => "Predicate(" ++ Text.quoteString name ++ ")"
  | .either l r => "Union(" ++ l.inspect ++ ", " ++ r.inspect ++ ")"

end SymbolSet

end PredictiveParsing
