import PredictiveParsing.Unicode.CharSet

/-!
# Written patterns

The tree of a regular expression as it is written, before flags have given its parts
their meaning. Only what bears on the meaning is kept: groups have no names or numbers
and quantifiers no preference.

Nesting is limited. A level is a group, a quantifier, a bracketed class, or a list of
two or more parts, and a pattern may have `nestLimit` of them inside one another.
-/

namespace PredictiveParsing.Regex

inductive Flag where
  | ignoreCase
  | multiLine
  | dotMatchesAll
  | swapGreed
  | unicode
  | crlf
  | verbose
deriving BEq, DecidableEq, Repr

def Flag.ofChar? : Char → Option Flag
  | 'i' => some .ignoreCase
  | 'm' => some .multiLine
  | 's' => some .dotMatchesAll
  | 'U' => some .swapGreed
  | 'u' => some .unicode
  | 'R' => some .crlf
  | 'x' => some .verbose
  | _ => none

structure FlagChange where
  set : List Flag := []
  cleared : List Flag := []
deriving BEq, DecidableEq, Repr

/-- What a change of flags makes of one that stands at `current`. -/
def FlagChange.apply (change : FlagChange) (flag : Flag) (current : Bool) : Bool :=
  if change.set.contains flag then true
  else if change.cleared.contains flag then false
  else current

inductive Assertion where
  | caret
  | dollar
  | textStart
  | textEnd
  | wordBoundary
  | notWordBoundary
  | wordStart
  | wordEnd
  | wordStartHalf
  | wordEndHalf
deriving BEq, DecidableEq, Repr

inductive PerlClass where
  | digit
  | space
  | word
deriving BEq, DecidableEq, Repr

inductive PropertyQuery where
  | named (name : String)
  | byValue (name value : String)
deriving BEq, DecidableEq, Repr

inductive ClassOp where
  | intersection
  | difference
  | symmetricDifference
deriving BEq, DecidableEq, Repr

/-- A written character. `byte` says that it was written as a byte of two hexadecimal digits. -/
structure Literal where
  char : Char
  byte : Bool := false
deriving BEq, DecidableEq, Repr

inductive ClassTree where
  | literal (l : Literal)
  | range (lo hi : Literal)
  | posix (negated : Bool) (set : CharSet)
  | property (negated : Bool) (query : PropertyQuery)
  | perl (negated : Bool) (cls : PerlClass)
  | bracket (negated : Bool) (inner : ClassTree)
  | union (parts : List ClassTree)
  | op (op : ClassOp) (left right : ClassTree)
deriving Inhabited

inductive Ast where
  | empty
  | flags (change : FlagChange)
  | literal (l : Literal)
  | dot
  | assertion (a : Assertion)
  | property (negated : Bool) (query : PropertyQuery)
  | perl (negated : Bool) (cls : PerlClass)
  | bracket (negated : Bool) (inner : ClassTree)
  | repeated (min : Nat) (max : Option Nat) (a : Ast)
  | group (change : FlagChange) (a : Ast)
  | alternation (branches : List Ast)
  | concat (parts : List Ast)
deriving Inhabited

def ClassTree.ofParts : List ClassTree → ClassTree
  | [part] => part
  | parts => .union parts

def Ast.ofParts : List Ast → Ast
  | [] => .empty
  | [part] => part
  | parts => .concat parts

def Ast.ofBranches : List Ast → Ast
  | [branch] => branch
  | branches => .alternation branches

/-! ### Nesting -/

def nestLimit : Nat := 250

mutual

def ClassTree.depth : ClassTree → Nat
  | .bracket _ inner => inner.depth + 1
  | .union [] => 0
  | .union parts => ClassTree.depthOfAll parts + 1
  | .op _ l r => max l.depth r.depth + 1
  | _ => 0

def ClassTree.depthOfAll : List ClassTree → Nat
  | [] => 0
  | part :: parts => max part.depth (ClassTree.depthOfAll parts)

end

mutual

def Ast.depth : Ast → Nat
  | .bracket _ inner => inner.depth + 1
  | .repeated _ _ a => a.depth + 1
  | .group _ a => a.depth + 1
  | .alternation branches => Ast.depthOfAll branches + 1
  | .concat parts => Ast.depthOfAll parts + 1
  | _ => 0

def Ast.depthOfAll : List Ast → Nat
  | [] => 0
  | a :: rest => max a.depth (Ast.depthOfAll rest)

end

end PredictiveParsing.Regex
