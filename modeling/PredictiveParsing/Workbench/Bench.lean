import PredictiveParsing.Workbench.Build
import PredictiveParsing.Workbench.Feed

/-!
# Working on a bench

A bench holds the rules and parsers made so far, a source, what is remembered about the
parsers, and cursors by name. A script takes it through steps, each with a reply. A step
that is stopped by a misuse replies with that, and the script goes on with what the
step had changed before.
-/

namespace PredictiveParsing.Workbench

variable {σ : Type}

structure Bench (σ : Type) where
  workshop : Workshop σ
  session : Session σ (Feed σ)
  cursors : List (String × Cursor)

inductive Step (σ : Type) where
  /-- Makes a rule without a body. -/
  | declare (name : String)
  | assign (name : String) (g : Form σ)
  | isAssigned (name : String)
  | define (name : String) (g : Form σ)
  | inspect (g : Form σ)
  | acceptsEmpty (g : Form σ)
  | firstSet (g : Form σ)
  | inspectCursor (c : String)
  | position (c : String)
  | clone (c d : String)
  | atEnd (c : String)
  | current (c : String)
  | advance (c d : String)
  /-- Runs a parser, over the whole input if `whole`, and may name the cursor behind it. -/
  | run (whole : Bool) (g : Form σ) (c : String) (next : Option String)

inductive Reply (σ : Type) where
  | text (s : String)
  | flag (b : Bool)
  | set (s : SymbolSet σ)
  | symbol (s : σ)
  /-- The input ends at this position. -/
  | ended (position : Nat)
  /-- The position of a new cursor. -/
  | moved (position : Nat)
  /-- An outcome, and the same written out. -/
  | outcome (o : Outcome σ Value) (inspected : String)
  | fault (f : BuildFault)
  | halted (h : Halt)
  | noCursor (name : String)

def describeEnd (position : Nat) : String := s!"end of input at position {position}"

/-- Moves a cursor on by a number of symbols. Where the input ends first, the position of its end
is given. -/
def advanceBy : Nat → Cursor → Feed σ → Except Nat Cursor × Feed σ
  | 0, c, feed => (.ok c, feed)
  | n + 1, c, feed =>
    match feed.symbolAt c.position with
    | (some _, feed) => advanceBy n c.advance feed
    | (none, feed) => (.error c.position, feed)

def runParser [Alphabet σ] (w : Workshop σ) (whole : Bool) (p : Described σ) (c : Cursor) :
    Act (Session σ (Feed σ)) (Outcome σ Value) :=
  if whole then Session.parse w.rules p c else Session.apply w.rules p c

namespace Bench

variable [Alphabet σ]

def new (feed : Feed σ) : Bench σ where
  workshop := .new
  session := { source := feed }
  cursors := [("start", .start)]

def inspectParser (b : Bench σ) (p : Described σ) : String :=
  Workbench.inspectParser (p.rule?.bind fun i => b.session.memory.acceptsEmpty.lookup i)

def ask {α : Type} (b : Bench σ) (q : Inquiry (Memory σ) α) (reply : α → Reply σ) :
    Reply σ × Bench σ :=
  match Session.inquire q b.session with
  | .ok a session => (reply a, { b with session })
  | .error m session => (.halted (.misuse m), { b with session })

def withParser (b : Bench σ) (g : Form σ) (k : Described σ → Reply σ × Bench σ) :
    Reply σ × Bench σ :=
  match g.build b.workshop with
  | .ok p => k p
  | .error f => (.fault f, b)

def withCursor (b : Bench σ) (name : String) (k : Cursor → Reply σ × Bench σ) :
    Reply σ × Bench σ :=
  match b.cursors.lookup name with
  | some c => k c
  | none => (.noCursor name, b)

def withRule (b : Bench σ) (name : String) (k : Nat → Reply σ × Bench σ) :
    Reply σ × Bench σ :=
  match b.workshop.ruleNames.lookup name with
  | some i => k i
  | none => (.fault (.unknown name), b)

def look (b : Bench σ) (c : Cursor) : Option σ × Bench σ :=
  let (symbol, source) := b.session.source.symbolAt c.position
  (symbol, { b with session := { b.session with source } })

def name (b : Bench σ) (name : String) (c : Cursor) : Bench σ :=
  { b with cursors := (name, c) :: b.cursors }

def step (b : Bench σ) : Step σ → Reply σ × Bench σ
  | .declare name =>
    (.text (inspectRule false), { b with workshop := b.workshop.declare name })
  | .assign name g =>
    b.withParser g fun p => b.withRule name fun i =>
      match b.workshop.assign i p with
      | .ok workshop => (.text (inspectRule true), { b with workshop })
      | .error m => (.halted (.misuse m), b)
  | .isAssigned name => b.withRule name fun i => (.flag (b.workshop.isAssigned i), b)
  | .define name g =>
    b.withParser g fun p =>
      let (i, workshop) := b.workshop.define name p
      let b := { b with workshop }
      (.text (b.inspectParser (.rule i)), b)
  | .inspect g => b.withParser g fun p => (.text (b.inspectParser p), b)
  | .acceptsEmpty g =>
    b.withParser g fun p => b.ask (Memory.askAcceptsEmpty b.workshop.rules p) .flag
  | .firstSet g => b.withParser g fun p => b.ask (Memory.askFirstSet b.workshop.rules p) .set
  | .inspectCursor c =>
    b.withCursor c fun cursor =>
      (.text (Workbench.inspectCursor b.session.source.kind cursor), b)
  | .position c => b.withCursor c fun cursor => (.text (toString cursor.position), b)
  | .clone c d =>
    b.withCursor c fun cursor =>
      (.text (Workbench.inspectCursor b.session.source.kind cursor), b.name d cursor)
  | .atEnd c =>
    b.withCursor c fun cursor =>
      let (symbol, b) := b.look cursor
      (.flag symbol.isNone, b)
  | .current c =>
    b.withCursor c fun cursor =>
      match b.look cursor with
      | (some s, b) => (.symbol s, b)
      | (none, b) => (.ended cursor.position, b)
  | .advance c d =>
    b.withCursor c fun cursor =>
      match b.look cursor with
      | (some _, b) => (.moved cursor.advance.position, b.name d cursor.advance)
      | (none, b) => (.ended cursor.position, b)
  | .run whole g c next =>
    b.withParser g fun p => b.withCursor c fun cursor =>
      match runParser b.workshop whole p cursor b.session with
      | .error h session => (.halted h, { b with session })
      | .ok outcome session =>
        let b := { b with session }
        let b := match outcome, next with
          | .success _ behind, some d => b.name d behind
          | _, _ => b
        (.outcome outcome (inspectOutcome b.session.source.kind outcome), b)

end Bench

/-! ### Parsers by themselves -/

/-- What a parser says about itself: written out before and after the questions, and the answers
or misuses. -/
structure Portrait (σ : Type) where
  before : String
  acceptsEmpty : Except Misuse Bool
  firstSet : Except Misuse (SymbolSet σ)
  after : String

def answer {α : Type} (q : Inquiry (Memory σ) α) (m : Memory σ) : Except Misuse α × Memory σ :=
  match q m with
  | .ok a m => (.ok a, m)
  | .error e m => (.error e, m)

def portrait [Alphabet σ] (w : Workshop σ) (p : Described σ) : Portrait σ :=
  let (i, w) := w.share p
  let (acceptsEmpty, m) := answer (Memory.askAcceptsEmpty w.rules (.rule i : Described σ)) {}
  let (firstSet, m) := answer (Memory.askFirstSet w.rules (.rule i : Described σ)) m
  { before := inspectParser none
    acceptsEmpty
    firstSet
    after := inspectParser (m.acceptsEmpty.lookup i) }

end PredictiveParsing.Workbench
