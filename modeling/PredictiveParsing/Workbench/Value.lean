import PredictiveParsing.Arithmetic

/-!
# Values of described grammars

A grammar that is described as data has values of one type, which holds what parsers
give and, by name, the functions that grammars apply to it. The functions are total: a
function returns a value that it does not apply to unchanged, and one of two arguments
returns the pair of them.
-/

namespace PredictiveParsing.Workbench

inductive Value where
  | unit
  | bool (b : Bool)
  | int (n : Int64)
  | uint (n : UInt64)
  | float (x : Float)
  | char (c : Char)
  | str (s : String)
  /-- A function, by its name. -/
  | fn (name : String)
  | none
  | some (v : Value)
  | pair (a b : Value)
  | list (items : List Value)
deriving Inhabited

namespace Value

mutual

/-- Whether two values are the same. Floats are compared as numbers. -/
def same : Value → Value → Bool
  | .unit, .unit => true
  | .bool a, .bool b => a == b
  | .int a, .int b => a == b
  | .uint a, .uint b => a == b
  | .float a, .float b => a == b
  | .char a, .char b => a == b
  | .str a, .str b => a == b
  | .fn a, .fn b => a == b
  | .none, .none => true
  | .some a, .some b => a.same b
  | .pair a b, .pair c d => a.same c && b.same d
  | .list as, .list bs => sameAll as bs
  | _, _ => false

def sameAll : List Value → List Value → Bool
  | [], [] => true
  | a :: as, b :: bs => a.same b && sameAll as bs
  | _, _ => false

end

instance : BEq Value := ⟨same⟩

def ofOption : Option Value → Value
  | Option.none => .none
  | Option.some v => .some v

def ofPair (p : Value × Value) : Value := .pair p.1 p.2

/-! ### Functions of one argument -/

def digitValue (c : Char) : Int64 :=
  if c.isDigit then Int64.ofNat (c.toNat - '0'.toNat) else 0

mutual

/-- The text of a value: characters and strings as they are, integers in decimal, and what holds
values as the texts of these together. Other values have none. -/
def concat : Value → String
  | .char c => c.toString
  | .str s => s
  | .int n => toString n.toInt
  | .uint n => toString n.toNat
  | .some v => v.concat
  | .pair a b => a.concat ++ b.concat
  | .list items => concatAll items
  | _ => ""

def concatAll : List Value → String
  | [] => ""
  | v :: rest => v.concat ++ concatAll rest

end

def sumOf (items : List Value) : Int64 :=
  items.foldl (fun n v =>
    match v with
    | .int m => n + m
    | _ => n) 0

def numberOf (items : List Value) : Int64 :=
  items.foldl (fun n v =>
    match v with
    | .char c => n * 10 + digitValue c
    | _ => n) 0

/-- A function of one argument, by its name. An unknown one returns its argument. -/
def call (name : String) (v : Value) : Value :=
  match name, v with
  | "len", .list items => .int (Int64.ofNat items.length)
  | "len", .str s => .int (Int64.ofNat s.length)
  | "concat", v => .str v.concat
  | "fst", .pair a _ => a
  | "snd", .pair _ b => b
  | "inc", .int n => .int (n + 1)
  | "neg", .int n => .int (-n)
  | "sum", .list items => .int (sumOf items)
  | "digits", .list items => .int (numberOf items)
  | "digit_val", .char c => .int (digitValue c)
  | "wrap", v => .list [v]
  | _, v => v

/-! ### Functions of two arguments -/

/-- A function of two arguments, by its name. An unknown one returns the pair. -/
def call2 (name : String) (a b : Value) : Value :=
  match name, a, b with
  | "add", .int m, .int n => .int (m + n)
  | "sub", .int m, .int n => .int (m - n)
  | "mul", .int m, .int n => .int (m * n)
  | "pow", .int m, .int n => .int (Arithmetic.powerOrOne m n)
  | "left", a, _ => a
  | "right", _, b => b
  | "cons", a, .list items => .list (a :: items)
  | _, a, b => .pair a b

/-! ### Parsed functions -/

def apply (f a : Value) : Value :=
  match f with
  | .fn name => a.call name
  | f => .pair f a

def apply2 (f a b : Value) : Value :=
  match f with
  | .fn name => call2 name a b
  | f => .list [f, a, b]

def count : Value → Nat
  | .int n => n.toInt.toNat
  | .uint n => n.toNat
  | .char c => (digitValue c).toInt.toNat
  | .list items => items.length
  | _ => 0

end Value

/-! ### Checks -/

inductive Check where
  | even
  | atMost (n : Int64)
  | nonempty
  | reject (message : String)
deriving DecidableEq

def Check.run (check : Check) (v : Value) : Except String Value :=
  match check, v with
  | .even, .int n => if n % 2 == 0 then .ok v else .error "not even"
  | .even, _ => .error "not even"
  | .atMost max, .int n => if n ≤ max then .ok v else .error s!"more than {max.toInt}"
  | .atMost max, _ => .error s!"more than {max.toInt}"
  | .nonempty, .list [] => .error "empty"
  | .nonempty, .str "" => .error "empty"
  | .nonempty, v => .ok v
  | .reject message, _ => .error message

end PredictiveParsing.Workbench
