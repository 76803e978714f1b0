import PredictiveParsing.Workbench.Feed

/-!
# Texts over every backing

The same text can lie in memory, come from a stream of characters, or be read as bytes.
What a parser makes of it is asked for here with the backing as a parameter, so that
the backings can be held against each other.
-/

namespace PredictiveParsing.Workbench

variable {ρ : Nat → Type} {α : Type}

inductive Backing where
  | memory
  | stream
  | reader
deriving BEq, DecidableEq

def Backing.feed (backing : Backing) (text : String) : Feed Char :=
  match backing with
  | .memory => .memory text.toList.toArray
  | .stream => .stream (.ofSupply text.toList)
  | .reader => .reader (.ofSupply { reader := [.bytes (Text.Utf8.encode text)] }) id

def Backing.parse (backing : Backing) (rules : Rules Char ρ) (p : Parser Char ρ α) (text : String) :
    Parsed α :=
  (parseSource rules p (backing.feed text)).1

def Backing.apply (backing : Backing) (rules : Rules Char ρ) (p : Parser Char ρ α) (text : String) :
    Parsed (α × Nat) :=
  match Session.apply rules p .start { source := backing.feed text } with
  | .ok (.success a next) _ => .ok (.ok (a, next.position))
  | .ok (.failure f) _ => .ok (.error f.toError)
  | .error halt _ => .error halt

end PredictiveParsing.Workbench
