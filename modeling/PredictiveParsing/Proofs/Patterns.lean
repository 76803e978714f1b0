import PredictiveParsing.Proofs.Automata
import PredictiveParsing.Proofs.Contract

/-!
# The contract of patterns

A parser of a pattern is asked whether it accepts empty input as if the input ended where it
begins, while a run of it sees the character that comes next. So it succeeds without reading
wherever the automaton tells that the empty text matches in front of that character
(`Host.Faithful.longest_honours`), and keeps its contract if no character makes the empty text
match that the end of the input does not (`Automaton.parser_contract`). None of this asks anything
of the automaton.

A word boundary is an exception: it needs a symbol by its own account, matches the empty text
before a letter, and a repetition of it never ends (`WordBoundary.never_ends`).
-/

namespace PredictiveParsing

variable {σ : Type} {ρ : Nat → Type} {S St α β : Type}

/-! ### Longest matches -/

/-- Whether the empty text is a match in front of a symbol, or at the end of the input. -/
def Recognizer.matchesEmpty (r : Recognizer σ) : Option σ → Bool
  | none => r.matchesAtEnd r.start
  | some x => r.matchesBefore r.start x

def Recognizer.Begins (r : Recognizer σ) (x : σ) : Prop := (r.step r.start x).isLive = true

namespace Host.Faithful

variable [BEq σ] {host : Host σ ρ St} {rules : Rules σ ρ} {symbols : List σ} {I : St → Prop}
  {E : Halt → Prop} {start c : Cursor} {rounds : Nat} {needs : Prop} {begins : σ → Prop}

omit [BEq σ] in
/-- The outcome honours what is said of it if the longest match does. -/
theorem longestMatch_honours (r : Recognizer σ) (start : Cursor) (read : List σ)
    {best : Option (Nat × Cursor)}
    (hbest : ∀ b, best = some b → Honours symbols needs begins start.position true b.2.position) :
    Honours symbols needs begins start.position (r.outcome start read best).succeeds
      (r.outcome start read best).position := by
  cases best with
  | none => exact Honours.fail
  | some b => exact hbest b rfl

/-- Behind its first symbol a recognizer may succeed or fail anywhere. -/
theorem longestFrom_honours (h : host.Faithful rules symbols I) (r : Recognizer σ)
    (state : r.State) (read : List σ) (width : Nat) (best : Option (Nat × Cursor))
    (hlt : start.position < c.position) (hspans : Spans symbols begins start.position c.position)
    (hbest : ∀ b, best = some b → Honours symbols needs begins start.position true b.2.position)
    (hrounds : E .exhausted ∨ symbols.length - c.position < rounds) :
    Yields I E (host.longestFrom r start rounds state read width best c) fun out =>
      Honours symbols needs begins start.position out.succeeds out.position := by
  induction rounds generalizing state read width best c with
  | zero =>
      rcases hrounds with hE | hlt
      · exact Yields.throw hE
      · exact absurd hlt (Nat.not_lt_zero _)
  | succ rounds ih =>
      have hhere : ∀ b : Nat × Cursor, some (width, c) = some b →
          Honours symbols needs begins start.position true b.2.position := by
        intro b hb
        cases hb
        exact ⟨hspans, fun _ _ => hlt⟩
      refine (h.current c).bind ?_
      intro symbol hsymbol
      cases symbol with
      | none =>
          refine Yields.pure (longestMatch_honours r start read ?_)
          cases r.matchesAtEnd state with
          | true => exact hhere
          | false => exact hbest
      | some s =>
          have hbest' : ∀ b, (if r.matchesBefore state s = true then some (width, c) else best) =
              some b → Honours symbols needs begins start.position true b.2.position := by
            cases r.matchesBefore state s with
            | true => exact hhere
            | false => exact hbest
          dsimp only
          cases r.step state s with
          | dead => exact Yields.pure (longestMatch_honours r start read hbest')
          | quit => exact Yields.pure ⟨hspans, nofun⟩
          | live state' =>
              have hinside : c.position < symbols.length :=
                (List.getElem?_eq_some_iff.mp hsymbol.symm).1
              have hadvance : c.advance.position = c.position + 1 := rfl
              have hon : Spans symbols begins start.position c.advance.position :=
                ⟨by omega, by omega, fun _ => hspans.first hlt⟩
              have hfewer : E .exhausted ∨ symbols.length - c.advance.position < rounds :=
                hrounds.imp_right fun hfew => by omega
              exact ih (c := c.advance) state' _ _ _ (by omega) hon hbest' hfewer

/-- A longest match is empty only where the empty text matches, and otherwise begins on a symbol
that the recognizer goes on with first. -/
theorem longest_honours (h : host.Faithful rules symbols I) (r : Recognizer σ)
    (hrounds : E .exhausted ∨ symbols.length - c.position < rounds) :
    Yields I E (host.longest rounds r c) fun out =>
      Honours symbols (r.matchesEmpty symbols[c.position]? = false) r.Begins c.position
        out.succeeds out.position := by
  unfold Host.longest
  cases rounds with
  | zero =>
      rcases hrounds with hE | hlt
      · exact Yields.throw hE
      · exact absurd hlt (Nat.not_lt_zero _)
  | succ rounds =>
      have hempty : ∀ {found : Bool}, found = r.matchesEmpty symbols[c.position]? →
          ∀ b : Nat × Cursor, (if found = true then some (0, c) else none) = some b →
          Honours symbols (r.matchesEmpty symbols[c.position]? = false) r.Begins c.position true
            b.2.position := by
        rintro found rfl b hb
        split at hb
        · rename_i hmatch
          cases hb
          exact Honours.rest fun hnot => Bool.false_ne_true (hnot.symm.trans hmatch)
        · cases hb
      refine (h.current c).bind ?_
      intro symbol hsymbol
      rw [← hsymbol] at hempty ⊢
      cases symbol with
      | none => exact Yields.pure (longestMatch_honours r c [] (hempty rfl))
      | some s =>
          dsimp only
          cases hstep : r.step r.start s with
          | dead => exact Yields.pure (longestMatch_honours r c [] (hempty rfl))
          | quit => exact Yields.pure Honours.fail
          | live state =>
              have hbegins : r.Begins s := by
                rw [Recognizer.Begins, hstep]
                rfl
              have hinside : c.position < symbols.length :=
                (List.getElem?_eq_some_iff.mp hsymbol.symm).1
              have hadvance : c.advance.position = c.position + 1 := rfl
              have hfewer : E .exhausted ∨ symbols.length - c.advance.position < rounds :=
                hrounds.imp_right fun hfew => by omega
              exact h.longestFrom_honours (c := c.advance) r state [s] _ _ (Nat.lt_succ_self _)
                (Spans.one hsymbol.symm hbegins) (hempty rfl) hfewer

end Host.Faithful

namespace Rules

variable [BEq σ] {rules : Rules σ ρ} {symbols : List σ} {r : Recognizer σ} {sure : Prop}
  {c e : Nat} {ok : Bool}

omit [BEq σ] in
theorem acceptsEmpty_longest {b : Bool} :
    rules.AcceptsEmpty (.longest r) b ↔ b = r.matchesAtEnd r.start := by
  constructor
  · intro h
    cases h
    rfl
  · rintro rfl
    rfl

theorem inFirstSet_longest {x : σ} (h : r.Begins x) : rules.InFirstSet (.longest r) x := by
  intro set hset
  cases hset
  exact h

/-- A recognizer keeps its word if no symbol lets the empty text match that the end of the input
does not. -/
theorem keeps_longest (hempty : ∀ x, r.matchesBefore r.start x = true →
      r.matchesAtEnd r.start = true)
    (h : Honours symbols (r.matchesEmpty symbols[c]? = false) r.Begins c ok e) :
    rules.Keeps symbols sure (.longest r) c ok e := by
  refine h.weaken ?_ fun x hx _ => inFirstSet_longest hx
  intro _ hneeds
  have hend : r.matchesAtEnd r.start = false := (acceptsEmpty_longest.mp hneeds).symm
  cases hx : symbols[c]? with
  | none => exact hend
  | some x =>
      refine Bool.eq_false_iff.mpr ?_
      intro hmatch
      exact Bool.false_ne_true (hend.symm.trans (hempty x hmatch))

/-- What is known of the longest matches of a recognizer is known of the runs of its parser, which
take one round more. -/
theorem apply_longest_yields [Source S σ] (f : List σ → α) {E : Halt → Prop} {budget : Nat}
    {c : Cursor} {q : Outcome σ (List σ) → Prop}
    (hlongest : ∀ rounds, E .exhausted ∨ symbols.length - c.position < rounds →
      Yields (Session.Consistent (S := S) rules symbols) E
        ((Session.host rules).longest rounds r c) q)
    (hbudget : E .exhausted ∨ symbols.length - c.position + 1 < budget) :
    Yields (Session.Consistent (S := S) rules symbols) E
      (rules.apply (Session.host rules) budget ((Parser.longest r).map f) c) fun out =>
        ∃ found, q found ∧ out = found.map f := by
  cases budget with
  | zero =>
      rcases hbudget with hE | hlt
      · exact Yields.throw hE
      · exact absurd hlt (Nat.not_lt_zero _)
  | succ rounds =>
      have hrounds : E .exhausted ∨ symbols.length - c.position < rounds :=
        hbudget.imp_right fun hlt => by omega
      refine (hlongest rounds hrounds).bind ?_
      intro found hfound
      exact Yields.pure ⟨found, hfound, rfl⟩

/-- A run of a recognizer reads something unless the empty text matches where it begins, and what it
reads begins on a symbol of the first set. -/
theorem apply_longest_fulfils [Source S σ] (f : List σ → α) {E : Halt → Prop} {budget : Nat}
    {c : Cursor} (hbudget : E .exhausted ∨ symbols.length - c.position + 1 < budget) :
    Yields (Session.Consistent (S := S) rules symbols) E
      (rules.apply (Session.host rules) budget ((Parser.longest r).map f) c)
      (Outcome.Fulfils symbols (r.matchesEmpty symbols[c.position]? = false)
        (rules.InFirstSet ((Parser.longest r).map f)) c) := by
  have h := Session.host_faithful (S := S) rules symbols
  refine (apply_longest_yields f (fun _ => h.longest_honours r) hbudget).mono ?_
  rintro out ⟨found, hfound, rfl⟩
  cases found with
  | failure e => exact trivial
  | success text next => exact hfound.contract.mono id fun x hx => inFirstSet_longest hx

/-- Any number of runs of a recognizer that keeps its word end, or are refused. -/
theorem apply_many_longest_not_exhausted [Source S σ] (f : List σ → α)
    (hempty : ∀ x, r.matchesBefore r.start x = true → r.matchesAtEnd r.start = true)
    {budget : Nat} {c : Cursor} {s s' : Session σ S} (hs : s.Consistent rules symbols)
    (hbudget : symbols.length - c.position + 1 < budget) :
    rules.apply (Session.host rules) budget ((Parser.longest r).map f).many c s ≠
      .error .exhausted s' := by
  intro hrun
  obtain ⟨rounds, rfl⟩ : ∃ rounds, budget = rounds + 1 := ⟨budget - 1, by omega⟩
  have h := Session.host_faithful (S := S) rules symbols
  have hallowed : Action.AllowedFrom
      (fun c => do return (← (Session.host (S := S) rules).longest rounds r c).map f) rules symbols
      (Session.Consistent rules symbols) NotExhausted True ((Parser.longest r).map f) c := by
    intro next hle
    refine Host.Faithful.map_yields ?_
    refine (h.longest_honours r (.inr (by omega))).mono ?_
    exact fun out hout => keeps_longest hempty hout
  have hrounds : NotExhausted .exhausted ∨ symbols.length - c.position < rounds :=
    .inr (by omega)
  have hmany := h.many_yields (fun _ => nofun) (h.operand_speaks (fun _ => nofun) _ _) hallowed
    hrounds
  exact hmany.of_error hs hrun rfl

end Rules

/-! ### Parsers of patterns -/

namespace Automaton

open Text.Utf8

variable {rules : Rules Char ρ} {symbols : List Char} {compile : String → Except String Automaton}
  {pattern name : String} {p : Parser Char ρ String} {a : Automaton} {start : a.State}
  {budget : Nat} {c : Cursor}

/-- Whether the automaton tells from its start that the empty text matches in front of a character,
or at the end of the input. -/
def matchesEmpty (a : Automaton) (start : a.State) : Option Char → Bool
  | none => a.isMatch (a.nextAtEnd start)
  | some x => a.matchesBefore start x

theorem matchesEmpty_recognizer (a : Automaton) (start : a.State) (name : String)
    (after : Option Char) :
    (a.recognizer start name).matchesEmpty after = a.matchesEmpty start after := by
  cases after with
  | none => rfl
  | some x => rfl

theorem acceptsEmpty_matchParser_iff {b : Bool} :
    rules.AcceptsEmpty (a.matchParser start name) b ↔ a.matchesEmpty start none = b :=
  Rules.acceptsEmpty_longest.trans eq_comm

theorem apply_matchParser_fulfils [Source S Char] {E : Halt → Prop}
    (hbudget : E .exhausted ∨ symbols.length - c.position + 1 < budget) :
    Yields (Session.Consistent (S := S) rules symbols) E
      (rules.apply (Session.host rules) budget (a.matchParser start name) c)
      (Outcome.Fulfils symbols (a.matchesEmpty start symbols[c.position]? = false)
        (rules.InFirstSet (a.matchParser start name)) c) := by
  rw [← matchesEmpty_recognizer a start name]
  exact Rules.apply_longest_fulfils String.ofList hbudget

/-- At the end of the input, what needs a symbol fails. -/
theorem eq_failure_of_end {begins : Char → Prop} {out : Outcome Char String}
    (hneeds : a.matchesEmpty start none = false) (hend : symbols.length ≤ c.position)
    (hout : out.Fulfils symbols (a.matchesEmpty start symbols[c.position]? = false) begins c) :
    ∃ e, out = .failure e := by
  cases out with
  | failure e => exact ⟨e, rfl⟩
  | success text next =>
      have hnot := hout.not_of_end hend
      rw [List.getElem?_eq_none_iff.mpr hend] at hnot
      exact absurd hneeds hnot

/-- The contract is kept where no character lets the empty text match that the end of the input
does not. -/
theorem keepsContract_of_end [Source S Char]
    (hends : ∀ x, a.matchesEmpty start (some x) = true → a.matchesEmpty start none = true) :
    rules.KeepsContract S symbols (a.matchParser start name) := by
  intro budget c next s s' text hs hrun
  have hout := ((apply_matchParser_fulfils (E := fun _ => True) (.inl trivial)).of_ok hs hrun).1
  refine hout.mono ?_ fun _ hx => hx
  intro hneeds
  have hend : a.matchesEmpty start none = false := acceptsEmpty_matchParser_iff.mp hneeds
  cases hx : symbols[c.position]? with
  | none => exact hend
  | some x =>
      refine Bool.eq_false_iff.mpr ?_
      intro hmatch
      exact Bool.false_ne_true (hend.symm.trans (hends x hmatch))

theorem parser_eq_matchParser (hp : parser compile pattern = .ok p) :
    ∃ a start, compile pattern = .ok a ∧ a.start = .ok start ∧
      p = a.matchParser start ("/" ++ pattern ++ "/") := by
  unfold parser at hp
  cases hcompile : compile pattern with
  | error fault =>
      rw [hcompile] at hp
      cases hp
  | ok a =>
      rw [hcompile] at hp
      dsimp only at hp
      cases hstart : a.start with
      | error fault =>
          rw [hstart] at hp
          cases hp
      | ok start =>
          rw [hstart] at hp
          cases hp
          exact ⟨a, start, rfl, hstart, rfl⟩

/-- The parser of a pattern accepts empty input, by its own account, if the empty text matches where
nothing follows. If it does not, it fails at the end of the input. Anywhere else a success reads
something unless the empty text matches in front of the character that follows, and what it
reads begins on a character of the first set. So the parser keeps its contract if no character lets
the empty text match that the end of the input does not, and then any repetition of it ends. -/
theorem parser_contract [Source S Char] (rules : Rules Char ρ) (symbols : List Char)
    (hp : parser compile pattern = .ok p) :
    ∃ a start, compile pattern = .ok a ∧ a.start = .ok start ∧
      (rules.AcceptsEmpty p true ↔ a.matchesEmpty start none = true) ∧
      (rules.AcceptsEmpty p false ↔ a.matchesEmpty start none = false) ∧
      (∀ (budget : Nat) (c : Cursor) (s : Session Char S), s.Consistent rules symbols →
        (∀ out s', rules.apply (Session.host rules) budget p c s = .ok out s' →
          out.Fulfils symbols (a.matchesEmpty start symbols[c.position]? = false)
            (rules.InFirstSet p) c ∧
          (symbols.length ≤ c.position → rules.AcceptsEmpty p false → ∃ f, out = .failure f)) ∧
        (symbols.length - c.position + 1 < budget →
          ∃ out s', rules.apply (Session.host rules) budget p c s = .ok out s')) ∧
      ((∀ x, a.matchesEmpty start (some x) = true → a.matchesEmpty start none = true) →
        rules.KeepsContract S symbols p ∧
        ∀ (budget : Nat) (c : Cursor) (s s' : Session Char S), s.Consistent rules symbols →
          symbols.length - c.position + 1 < budget →
          rules.apply (Session.host rules) budget p.many c s ≠ .error .exhausted s') := by
  obtain ⟨a, start, hcompile, hstart, rfl⟩ := parser_eq_matchParser hp
  refine ⟨a, start, hcompile, hstart, acceptsEmpty_matchParser_iff, acceptsEmpty_matchParser_iff,
    ?_, ?_⟩
  · intro budget c s hs
    refine ⟨?_, fun hbudget => (apply_matchParser_fulfils (.inr hbudget)).exists_ok hs⟩
    intro out s' hrun
    have hout := ((apply_matchParser_fulfils (E := fun _ => True) (.inl trivial)).of_ok hs hrun).1
    exact ⟨hout, fun hend hneeds =>
      eq_failure_of_end (acceptsEmpty_matchParser_iff.mp hneeds) hend hout⟩
  · intro hends
    exact ⟨keepsContract_of_end hends, fun budget c s s' hs hbudget =>
      Rules.apply_many_longest_not_exhausted String.ofList hends hs hbudget⟩

/-- The empty text is a word or not, whatever follows. -/
theorem matchesEmpty_ofWords (words : List (List UInt8)) (after : Option Char) :
    (ofWords words).matchesEmpty (words, false) after = words.contains [] := by
  cases after with
  | none => rfl
  | some x =>
      obtain ⟨b, bytes, hencode⟩ := exists_utf8EncodeChar x
      exact matchesBefore_eq hencode

/-- A choice of words keeps its contract, and any number of matches end. -/
theorem parser_contract_words :
    ∃ p : Parser Char (fun _ => Unit) String,
      parser (fun _ => .ok (ofWords (["λ", "λμν"].map encode))) "λ|λμν" = .ok p ∧
      Rules.empty.KeepsContract (Array Char) ['λ', 'λ', 'μ', 'x'] p ∧
      ∀ s', Rules.empty.apply (Session.host Rules.empty) 6 p.many .start
        { source := #['λ', 'λ', 'μ', 'x'] : Session Char (Array Char) } ≠
          .error .exhausted s' := by
  obtain ⟨p, hp⟩ : ∃ p : Parser Char (fun _ => Unit) String,
      parser (fun _ => .ok (ofWords (["λ", "λμν"].map encode))) "λ|λμν" = .ok p := ⟨_, rfl⟩
  obtain ⟨a, start, ha, hstart, -, -, -, hends⟩ :=
    parser_contract (S := Array Char) Rules.empty ['λ', 'λ', 'μ', 'x'] hp
  cases ha
  cases hstart
  obtain ⟨hkeeps, hmany⟩ := hends fun x hx => by
    rw [matchesEmpty_ofWords] at hx ⊢
    exact hx
  refine ⟨p, hp, hkeeps, ?_⟩
  intro s'
  exact hmany 6 .start _ s' (Session.consistent_start (Source.holds_array _)) (by decide)

end Automaton

/-! ### Word boundaries -/

namespace Host

variable [BEq σ] {host : Host σ ρ St} {c : Cursor} {st : St} {x : σ} {r : Recognizer σ}
  {state : r.State} {rounds : Nat}

omit [BEq σ] in
/-- In front of the last symbol the empty text is the longest match, if the recognizer goes on to
the symbol and finds none. -/
theorem longest_eq_nil (hhere : host.current c st = .ok (some x) st)
    (hbehind : host.current c.advance st = .ok none st) (hstep : r.step r.start x = .live state)
    (hmatch : r.matchesBefore r.start x = true) (hend : r.matchesAtEnd state = false) :
    host.longest (rounds + 2) r c st = .ok (.success [] c) st := by
  rw [longest, longestFrom, EStateM.bind_of_ok hhere]
  dsimp only
  rw [hstep, hmatch]
  dsimp only
  rw [longestFrom, EStateM.bind_of_ok hbehind]
  dsimp only
  rw [hend]
  rfl

/-- A parser that succeeds where it began, in front of a symbol of the set, is repeated until the
rounds are used up. -/
theorem roundsWhile_exhausted {first : SymbolSet σ} {act : Action St σ α} {a : α}
    (hpredicts : host.predicts first c st = .ok true st)
    (hact : act c st = .ok (.success a c) st) (step : β → α → β) (rounds : Nat) (acc : β) :
    host.roundsWhile first act step rounds acc c st = .error .exhausted st := by
  induction rounds generalizing acc with
  | zero => rfl
  | succ rounds ih =>
      refine (EStateM.bind_of_ok hpredicts).trans ?_
      rw [if_pos rfl]
      exact (EStateM.bind_of_ok hact).trans (ih (step acc a))

/-- Any number of times is then never enough, unless the repetition is refused. -/
theorem many_exhausted {p : Operand St σ α} {first : SymbolSet σ} {a : α}
    (hneeds : p.acceptsEmpty st = .ok false st) (hfirst : p.firstSet st = .ok first st)
    (hpredicts : host.predicts first c st = .ok true st)
    (happly : p.apply c st = .ok (.success a c) st) :
    host.many rounds p c st = .error .exhausted st := by
  have hallowed : needsSymbol .many p st = .ok () st := by
    rw [needsSymbol, EStateM.bind_of_ok hneeds]
    rfl
  rw [many, EStateM.bind_of_ok hallowed, EStateM.bind_of_ok hfirst]
  exact EStateM.bind_of_error (roundsWhile_exhausted hpredicts happly _ rounds [])

end Host

namespace WordBoundary

open Text.Utf8

abbrev host : Host Char (fun _ => Unit) (Session Char (Array Char)) := Session.host Rules.empty

def letter : Session Char (Array Char) := { source := #['a'] }

def isWordChar (c : Char) : Bool := c.isAlphanum || c == '_'

/-- What matches at a word boundary where a text begins: the empty text in front of a word. -/
def BeforeWord (text rest : List Char) : Prop := text = [] ∧ rest.head?.any isWordChar = true

abbrev boundary (a : Automaton) (start : a.State) (name : String) :
    Parser Char (fun _ => Unit) String :=
  a.matchParser start name

/-! Whatever automaton a word boundary is compiled to, it behaves like this. -/

section

variable {a : Automaton} {start : a.State} (h : a.Recognizes start BeforeWord) (name : String)

include h

theorem matchesEmpty_end : a.matchesEmpty start none = false :=
  Bool.eq_false_iff.mpr fun hmatch => nomatch ((h.atEnd []).mp hmatch).2

theorem matchesBefore_letter : a.matchesBefore start 'a' = true :=
  (h.matchesBefore_iff [] 'a' []).mpr ⟨rfl, rfl⟩

/-- The match in front of the letter is told one byte late, so the automaton goes on to the
letter. -/
theorem feed_letter : a.feed start 'a' = .live (a.next start 0x61) := by
  have hmatch : a.isMatch (a.next start 0x61) = true := matchesBefore_letter h
  have hdead : a.isDead (a.next start 0x61) = false := by
    refine Bool.eq_false_iff.mpr ?_
    intro hdead
    exact Bool.false_ne_true ((h.dead_isMatch hdead).symm.trans hmatch)
  have hquit : a.isQuit (a.next start 0x61) = false := h.never_quits [0x61]
  have hencode : String.utf8EncodeChar 'a' = [0x61] := rfl
  rw [Automaton.feed, hencode, Automaton.feedBytes, hdead, hquit]
  rfl

/-- In front of the letter there is a boundary, and behind it there is none. -/
theorem longest_letter (rounds : Nat) :
    host.longest (rounds + 2) (a.recognizer start name) .start letter =
      .ok (.success [] .start) letter := by
  have hbehind : a.isMatch (a.nextAtEnd (a.next start 0x61)) = false :=
    Bool.eq_false_iff.mpr fun hmatch => nomatch ((h.atEnd ['a']).mp hmatch).1
  exact Host.longest_eq_nil (r := a.recognizer start name) rfl rfl (feed_letter h)
    (matchesBefore_letter h) hbehind

/-- The parser of the boundary succeeds in front of the letter without reading it. -/
theorem apply_letter (rounds : Nat) :
    Rules.empty.apply host (rounds + 3) (boundary a start name) .start letter =
      .ok (.success "" .start) letter :=
  EStateM.bind_of_ok (longest_letter h name rounds)

theorem many_exhausted_add (rounds : Nat) :
    Rules.empty.apply host (rounds + 3) (boundary a start name).many .start letter =
      .error .exhausted letter := by
  let p : Operand (Session Char (Array Char)) Char String :=
    ⟨(host.acceptsEmpty (boundary a start name)).act,
      (host.firstSet (boundary a start name)).act,
      Rules.empty.apply host (rounds + 3) (boundary a start name)⟩
  let first : SymbolSet Char := .predicate name fun x => (a.feed start x).isLive
  have hneeds : p.acceptsEmpty letter = .ok false letter := by
    have hasked : p.acceptsEmpty letter = .ok (a.matchesEmpty start none) letter := rfl
    rw [hasked, matchesEmpty_end h]
  have hpredicts : host.predicts first .start letter = .ok true letter := by
    have hlooked : host.predicts first .start letter = .ok (a.feed start 'a').isLive letter := rfl
    rw [hlooked, feed_letter h]
    rfl
  have hfirst : p.firstSet letter = .ok first letter := rfl
  exact Host.many_exhausted (p := p) hneeds hfirst hpredicts (apply_letter h name rounds)

/-- No budget is enough, since no larger one is. -/
theorem many_exhausted (budget : Nat) :
    ∃ s, Rules.empty.apply host budget (boundary a start name).many .start letter =
      .error .exhausted s := by
  have hsimulates : Simulates Eq (fun e => e = .exhausted)
      (Rules.empty.apply host budget (boundary a start name).many .start)
      (Rules.empty.apply host (budget + 3) (boundary a start name).many .start) Eq :=
    Rules.apply_simulates (Nat.le_add_right budget 3) (boundary a start name).many .start
  have hst := hsimulates letter letter rfl
  rw [many_exhausted_add h name budget] at hst
  cases hm : Rules.empty.apply host budget (boundary a start name).many .start letter with
  | ok out s =>
      rw [hm] at hst
      obtain ⟨_, _, heq, _⟩ := hst
      cases heq
  | error e s =>
      rw [hm] at hst
      rcases hst with rfl | ⟨_, heq, _⟩
      · exact ⟨s, rfl⟩
      · cases heq
        exact ⟨s, rfl⟩

theorem not_keepsContract :
    ¬Rules.empty.KeepsContract (Array Char) ['a'] (boundary a start name) := by
  intro hkeeps
  have hcontract := hkeeps 3 .start .start letter letter ""
    (Session.consistent_start (Source.holds_array #['a'])) (apply_letter h name 0)
  have hneeds : Rules.empty.AcceptsEmpty (boundary a start name) false :=
    Automaton.acceptsEmpty_matchParser_iff.mpr (matchesEmpty_end h)
  exact absurd (hcontract.moves hneeds) (Nat.lt_irrefl 0)

end

/-- The states of the automaton of a word boundary: at the start, behind the byte in front of which
it matched, and dead. -/
inductive State where
  | start
  | told
  | dead
deriving DecidableEq, Repr

def State.behind : State → UInt8 → State
  | .start, b => if isWordChar (Char.ofNat b.toNat) then .told else .dead
  | .told, _ => .dead
  | .dead, _ => .dead

def State.isTold : State → Bool
  | .told => true
  | _ => false

def State.isDead : State → Bool
  | .dead => true
  | _ => false

def automaton : Automaton where
  State := State
  start := .ok .start
  next := State.behind
  nextAtEnd _ := .dead
  isMatch := State.isTold
  isDead := State.isDead
  isQuit _ := false

theorem foldl_behind_dead (bytes : List UInt8) : bytes.foldl State.behind .dead = .dead := by
  induction bytes with
  | nil => rfl
  | cons b bytes ih => exact ih

theorem foldl_behind_two (s : State) (b b' : UInt8) (bytes : List UInt8) :
    (b :: b' :: bytes).foldl State.behind s = .dead := by
  have htwo : (s.behind b).behind b' = .dead := by
    cases s with
    | start => by_cases hb : isWordChar (Char.ofNat b.toNat) = true <;> simp [State.behind, hb]
    | told => rfl
    | dead => rfl
  rw [List.foldl_cons, List.foldl_cons, htwo]
  exact foldl_behind_dead bytes

/-- Behind its first byte the automaton has nothing to tell of the next one. -/
theorem behind_foldl_behind (s : State) (b : UInt8) (bytes : List UInt8) (b' : UInt8) :
    ((b :: bytes).foldl State.behind s).behind b' = .dead := by
  refine (List.foldl_concat ..).symm.trans ?_
  cases bytes with
  | nil => exact foldl_behind_two s b b' []
  | cons b'' bytes => exact foldl_behind_two s b b'' (bytes ++ [b'])

theorem toNat_lt_of_isWordChar {c : Char} (h : isWordChar c = true) : c.toNat < 0x80 := by
  rw [isWordChar, Bool.or_eq_true, beq_iff_eq] at h
  rcases h with h | rfl
  · exact toNat_lt_of_isAlphanum h
  · decide

/-- The first byte of a character tells whether it belongs to a word. -/
theorem isWordChar_head {c : Char} {b : UInt8} {bytes : List UInt8}
    (h : String.utf8EncodeChar c = b :: bytes) :
    isWordChar (Char.ofNat b.toNat) = isWordChar c := by
  by_cases hc : c.toNat < 0x80
  · rw [(toNat_head_of_lt hc h).1, Char.ofNat_toNat]
  · have hb := le_toNat_head (Nat.le_of_not_lt hc) h
    have hvalid : b.toNat.isValidChar := .inl (by have := b.toNat_lt; omega)
    have hno : ∀ {d : Char}, 0x80 ≤ d.toNat → isWordChar d = false := by
      intro d hd
      refine Bool.eq_false_iff.mpr ?_
      intro hword
      have := toNat_lt_of_isWordChar hword
      omega
    rw [hno (Nat.le_of_not_lt hc), hno]
    rwa [toNat_ofNat_of_isValidChar hvalid]

theorem automaton_recognizes : automaton.Recognizes .start BeforeWord where
  before := by
    intro text c rest b bytes hencode
    cases text with
    | nil =>
        have hfirst : automaton.next (automaton.run .start (bytesOf [])) b =
            State.start.behind b := rfl
        rw [hfirst, State.behind, isWordChar_head hencode]
        cases hword : isWordChar c with
        | true => simp [automaton, BeforeWord, State.isTold, hword]
        | false => simp [automaton, BeforeWord, State.isTold, hword]
    | cons d text =>
        obtain ⟨b', bytes', hencode'⟩ := Automaton.exists_utf8EncodeChar d
        have hlast :
            automaton.next (automaton.run .start (bytesOf (d :: text))) b = State.dead := by
          rw [bytesOf_cons, hencode', List.cons_append]
          exact behind_foldl_behind .start b' (bytes' ++ bytesOf text) b
        rw [hlast]
        exact iff_of_false Bool.false_ne_true fun h => nomatch h.1
  atEnd := by
    intro text
    exact iff_of_false Bool.false_ne_true fun h => nomatch h.2
  dead_next := by
    rintro (s : State) b hdead
    cases s with
    | dead => rfl
    | _ => cases hdead
  dead_nextAtEnd _ := rfl
  dead_isMatch := by
    rintro (s : State) hdead
    cases s with
    | dead => rfl
    | _ => cases hdead
  never_quits _ := rfl

/-- By its own account the parser of a word boundary needs a symbol. In front of a letter it
succeeds without reading any, and a repetition of it, which is not refused, goes on for any number
of rounds. -/
theorem never_ends :
    automaton.Recognizes .start BeforeWord ∧ ∃ p : Parser Char (fun _ => Unit) String,
      Automaton.parser (fun _ => .ok automaton) "(?-u:\\b)" = .ok p ∧
      Rules.empty.AcceptsEmpty p false ∧
      Rules.empty.apply host 3 p .start letter = .ok (.success "" .start) letter ∧
      ¬Rules.empty.KeepsContract (Array Char) ['a'] p ∧
      ∀ budget, ∃ s, Rules.empty.apply host budget p.many .start letter = .error .exhausted s := by
  have h := automaton_recognizes
  exact ⟨h, _, rfl, Automaton.acceptsEmpty_matchParser_iff.mpr (matchesEmpty_end h),
    apply_letter h _ 0, not_keepsContract h _, many_exhausted h _⟩

end WordBoundary

end PredictiveParsing
