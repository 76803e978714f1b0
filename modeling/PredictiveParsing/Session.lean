import PredictiveParsing.Run
import PredictiveParsing.Source.Reader

/-!
# Sessions

A session is the host that parsers run on in earnest: a source of symbols, the memory
of what parsers say about themselves, and the furthest failure recovered from. It
outlives a parse: another one over the same source sees what was pulled before, and
over the same grammar what was remembered.

`parseSymbols` and its companions start a session, parse the whole of it and put
a failure into words.
-/

namespace PredictiveParsing

variable {σ : Type} {ρ : Nat → Type} {S α : Type}

/-- The state of parsers over a source. -/
structure Session (σ S : Type) where
  memory : Memory σ := {}
  recovered : Option (Failure σ) := none
  source : S

namespace Session

def inquire (q : Inquiry (Memory σ) α) : Inquiry (Session σ S) α
  | ⟨memory, recovered, source⟩ =>
    match q memory with
    | .ok a memory => .ok a ⟨memory, recovered, source⟩
    | .error e memory => .error e ⟨memory, recovered, source⟩

def host [BEq σ] [Source S σ] (rules : Rules σ ρ) : Host σ ρ (Session σ S) where
  symbolAt
    | i, ⟨memory, recovered, source⟩ =>
      let (symbol, source) := Source.symbolAt source i
      (symbol, ⟨memory, recovered, source⟩)
  acceptsEmpty p := inquire (Memory.askAcceptsEmpty rules p)
  firstSet p := inquire (Memory.askFirstSet rules p)
  recovered s := s.recovered
  setRecovered
    | recovered, ⟨memory, _, source⟩ => ⟨memory, recovered, source⟩

/-- Rules entered and rounds made that no run over the source needs: between two symbols every
rule is entered at most once, unless one begins with itself. -/
def budget [Source S σ] (rules : Rules σ ρ) (s : Session σ S) : Nat :=
  (Source.bound s.source + 2) * (rules.size + 2)

def apply [BEq σ] [Source S σ] (rules : Rules σ ρ) (p : Parser σ ρ α) (c : Cursor) :
    Act (Session σ S) (Outcome σ α) := fun s =>
  rules.apply (host rules) (s.budget rules) p c s

def parse [BEq σ] [Source S σ] (rules : Rules σ ρ) (p : Parser σ ρ α) (c : Cursor) :
    Act (Session σ S) (Outcome σ α) := fun s =>
  rules.parse (host rules) (s.budget rules) p c s

end Session

/-- The result of a run: it stops short, or gives a value or the error. -/
abbrev Parsed (α : Type) := Except Halt (Except ParseError α)

def Outcome.result [Symbol σ] : Outcome σ α → Except ParseError α
  | .success a _ => .ok a
  | .failure f => .error f.toError

/-- Parses a whole source, and gives the source as it was left. -/
def parseSource [Symbol σ] [Source S σ] (rules : Rules σ ρ) (p : Parser σ ρ α) (source : S) :
    Parsed α × S :=
  match Session.parse rules p .start { source } with
  | .ok outcome s => (.ok outcome.result, s.source)
  | .error halt s => (.error halt, s.source)

def parseSymbols [Symbol σ] (rules : Rules σ ρ) (p : Parser σ ρ α) (symbols : Array σ) :
    Parsed α :=
  (parseSource rules p symbols).1

def parseSupply [Symbol σ] {ι : Type} [Supply ι σ] (rules : Rules σ ρ) (p : Parser σ ρ α)
    (supply : ι) : Parsed α :=
  (parseSource rules p (Stream.ofSupply supply : Stream ι σ)).1

def parseText (rules : Rules Char ρ) (p : Parser Char ρ α) (text : String) :
    Parsed α :=
  parseSymbols rules p text.toList.toArray

inductive ReadParseError where
  | parse (e : ParseError)
  | read (e : ReadError)
deriving DecidableEq

def ReadParseError.describe : ReadParseError → String
  | .parse e => e.describe
  | .read e => e.describe

/-- Parses the characters of a reader. An error of the reader that was met counts before whatever
the parser made of the characters. -/
def parseReader (rules : Rules Char ρ) (p : Parser Char ρ α) (reader : Reader) :
    Except Halt (Except ReadParseError α) :=
  let chars : ReaderChars := { reader }
  match parseSource rules p (Stream.ofSupply chars : Stream ReaderChars Char) with
  | (.error halt, _) => .error halt
  | (.ok result, stream) =>
    match stream.supply.error?, result with
    | some e, _ => .ok (.error (.read e))
    | none, .error e => .ok (.error (.parse e))
    | none, .ok a => .ok (.ok a)

end PredictiveParsing
