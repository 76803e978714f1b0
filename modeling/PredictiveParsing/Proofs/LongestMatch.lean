import PredictiveParsing.Proofs.Patterns

/-!
# The longest match

A recognizer runs over what remains of the input, one symbol at a time, and remembers the last
place where what was read is a match in front of what follows. It keeps how long the text was then
and cuts the text off there in the end, so the length has to stay in step with the cursor
(`Recognizer.Marks`). `Recognizer.accepts` says without a run which texts are matches, and the run
finds the longest of them, however far it went beyond it, unless the recognizer gives up
(`Host.Faithful.longest_finds`).

The recognizer of an automaton accepts what the automaton recognizes, character by character
(`Automaton.Recognizes.accepts_iff`), so a parser of a pattern reads the longest text that the
pattern matches (`Automaton.parser_reads_longest`).
-/

namespace PredictiveParsing

variable {σ : Type} {ρ : Nat → Type} {S St : Type}

def Cursor.past (c : Cursor) (count : Nat) : Cursor := { c with position := c.position + count }

theorem Cursor.past_advance (c : Cursor) (count : Nat) :
    c.advance.past count = c.past (count + 1) := by
  simp [Cursor.past, Cursor.advance, Nat.add_assoc, Nat.add_comm 1]

/-- A text with the property, and none that has it is longer. -/
structure IsLongest (P : List σ → Prop) (text : List σ) : Prop where
  holds : P text
  longest : ∀ other, P other → other.length ≤ text.length

namespace Recognizer

variable {r : Recognizer σ} {state state' : r.State} {x : σ} {remaining text more read : List σ}

/-! ### Widths -/

def widthOf (r : Recognizer σ) : List σ → Nat
  | [] => 0
  | x :: text => r.width x + r.widthOf text

theorem widthOf_append (text more : List σ) :
    r.widthOf (text ++ more) = r.widthOf text + r.widthOf more := by
  induction text with
  | nil => exact (Nat.zero_add _).symm
  | cons x text ih => rw [List.cons_append, widthOf, ih, widthOf, Nat.add_assoc]

theorem widthOf_reverse (text : List σ) : r.widthOf text.reverse = r.widthOf text := by
  induction text with
  | nil => rfl
  | cons x text ih =>
      rw [List.reverse_cons, widthOf_append, ih, widthOf, widthOf, widthOf, Nat.add_zero,
        Nat.add_comm]

theorem truncate_of_pos {width : Nat} (h : 0 < width) (x : σ) (text : List σ) :
    r.truncate width (x :: text) = x :: r.truncate (width - r.width x) text := by
  cases width with
  | zero => exact absurd h (Nat.lt_irrefl 0)
  | succ width => rfl

/-- Cut off behind its own width, a text that goes on is that text. -/
theorem truncate_widthOf (text more : List σ) :
    r.truncate (r.widthOf text) (text ++ more) = text := by
  induction text with
  | nil => cases more <;> rfl
  | cons x text ih =>
      have hwidth : r.widthOf (x :: text) = r.width x + r.widthOf text := rfl
      have hpos := r.width_pos x
      rw [List.cons_append, truncate_of_pos (by omega), hwidth, Nat.add_sub_cancel_left, ih]

/-- A match so far, of which only the width is kept: it is at the front of what was read. -/
def Marks (r : Recognizer σ) (read : List σ) :
    Option (Nat × Cursor) → Option (List σ × Cursor) → Prop :=
  Option.Rel fun best found => best.1 = r.widthOf found.1 ∧ found.1 <:+ read ∧ best.2 = found.2

theorem Marks.cons {best : Option (Nat × Cursor)} {found : Option (List σ × Cursor)}
    (h : r.Marks read best found) (x : σ) : r.Marks (x :: read) best found := by
  cases h with
  | none => exact .none
  | some h => exact .some ⟨h.1, h.2.1.trans (List.suffix_cons x read), h.2.2⟩

def given (r : Recognizer σ) (start : Cursor) : Option (List σ × Cursor) → Outcome σ (List σ)
  | some (text, next) => .success text.reverse next
  | none => .failure ⟨start.position, .message ("expected a match of " ++ r.name)⟩

theorem outcome_eq_given {best : Option (Nat × Cursor)} {found : Option (List σ × Cursor)}
    (start : Cursor) (h : r.Marks read best found) :
    r.outcome start read best = r.given start found := by
  cases h with
  | none => rfl
  | @some best found h =>
      obtain ⟨width, next⟩ := best
      obtain ⟨text, next'⟩ := found
      obtain ⟨hwidth, ⟨more, hread⟩, hnext⟩ := h
      dsimp only at hwidth hread hnext
      subst hwidth hread hnext
      rw [outcome, given, List.reverse_append, ← widthOf_reverse, truncate_widthOf]

/-! ### What recognizers accept -/

/-- Whether a text that is read from a state is a match in front of a symbol, or of the end. -/
def accepts (r : Recognizer σ) : r.State → List σ → Option σ → Bool
  | state, [], none => r.matchesAtEnd state
  | state, [], some x => r.matchesBefore state x
  | state, x :: text, after =>
    match r.step state x with
    | .live state => r.accepts state text after
    | .dead => false
    | .quit => false

/-- What remains begins with the text, which is accepted in front of what follows it. -/
def AcceptsPrefix (r : Recognizer σ) (state : r.State) (remaining text : List σ) : Prop :=
  ∃ rest, remaining = text ++ rest ∧ r.accepts state text rest.head? = true

/-- How many symbols are read until the recognizer gives up, if it does. -/
def readUntilQuit? (r : Recognizer σ) : r.State → List σ → Option Nat
  | _, [] => none
  | state, x :: remaining =>
    match r.step state x with
    | .live state => (r.readUntilQuit? state remaining).map (· + 1)
    | .dead => none
    | .quit => some 0

theorem acceptsPrefix_nil_iff :
    r.AcceptsPrefix state [] text ↔ text = [] ∧ r.matchesAtEnd state = true := by
  constructor
  · rintro ⟨rest, hrest, h⟩
    obtain ⟨rfl, rfl⟩ := List.append_eq_nil_iff.mp hrest.symm
    exact ⟨rfl, h⟩
  · rintro ⟨rfl, h⟩
    exact ⟨[], rfl, h⟩

theorem acceptsPrefix_cons_nil_iff :
    r.AcceptsPrefix state (x :: remaining) [] ↔ r.matchesBefore state x = true := by
  constructor
  · rintro ⟨rest, rfl, h⟩
    exact h
  · exact fun h => ⟨x :: remaining, rfl, h⟩

theorem acceptsPrefix_cons_iff {y : σ} : r.AcceptsPrefix state (x :: remaining) (y :: text) ↔
    y = x ∧ ∃ state', r.step state x = .live state' ∧ r.AcceptsPrefix state' remaining text := by
  constructor
  · rintro ⟨rest, hrest, h⟩
    rw [List.cons_append, List.cons.injEq] at hrest
    obtain ⟨rfl, rfl⟩ := hrest
    rw [accepts] at h
    cases hstep : r.step state x with
    | live state' =>
        rw [hstep] at h
        exact ⟨rfl, state', rfl, rest, rfl, h⟩
    | dead =>
        rw [hstep] at h
        cases h
    | quit =>
        rw [hstep] at h
        cases h
  · rintro ⟨rfl, state', hstep, rest, rfl, h⟩
    refine ⟨rest, rfl, ?_⟩
    rw [accepts, hstep]
    exact h

/-- What a run from a state finds is the longest text that is accepted, behind what was read before,
or the best match before if there is no such text. -/
def Finds (r : Recognizer σ) (state : r.State) (remaining read : List σ)
    (best : Option (List σ × Cursor)) (c : Cursor) (found : Option (List σ × Cursor)) : Prop :=
  (∃ text, IsLongest (r.AcceptsPrefix state remaining) text ∧
    found = some (text.reverse ++ read, c.past text.length)) ∨
  (∀ text, ¬r.AcceptsPrefix state remaining text) ∧ found = best

variable {best found : Option (List σ × Cursor)} {c : Cursor}

theorem finds_nil : r.Finds state [] read best c
    (if r.matchesAtEnd state = true then some (read, c) else best) := by
  split
  · rename_i hmatch
    refine .inl ⟨[], ⟨acceptsPrefix_nil_iff.mpr ⟨rfl, hmatch⟩, ?_⟩, rfl⟩
    intro other hother
    rw [(acceptsPrefix_nil_iff.mp hother).1]
  · rename_i hmatch
    exact .inr ⟨fun text h => hmatch (acceptsPrefix_nil_iff.mp h).2, rfl⟩

/-- Where only the empty text can match, it does or the best match stays. -/
theorem finds_of_only_nil
    (h : ∀ y text, ¬r.AcceptsPrefix state (x :: remaining) (y :: text)) :
    r.Finds state (x :: remaining) read best c
      (if r.matchesBefore state x = true then some (read, c) else best) := by
  split
  · rename_i hmatch
    refine .inl ⟨[], ⟨acceptsPrefix_cons_nil_iff.mpr hmatch, ?_⟩, rfl⟩
    intro other hother
    cases other with
    | nil => exact Nat.le_refl _
    | cons y text => exact absurd hother (h y text)
  · rename_i hmatch
    refine .inr ⟨?_, rfl⟩
    intro text htext
    cases text with
    | nil => exact hmatch (acceptsPrefix_cons_nil_iff.mp htext)
    | cons y text => exact h y text htext

/-- What is found behind a symbol is found in front of it, if what was read up to there is taken for
the best match where it is one. -/
theorem Finds.of_step (hstep : r.step state x = .live state')
    (h : r.Finds state' remaining (x :: read)
      (if r.matchesBefore state x = true then some (read, c) else best) c.advance found) :
    r.Finds state (x :: remaining) read best c found := by
  rcases h with ⟨text, htext, rfl⟩ | ⟨hnone, rfl⟩
  · refine .inl ⟨x :: text, ⟨acceptsPrefix_cons_iff.mpr ⟨rfl, state', hstep, htext.holds⟩, ?_⟩, ?_⟩
    · intro other hother
      cases other with
      | nil => exact Nat.zero_le _
      | cons y other =>
          obtain ⟨-, state'', hstep', hother⟩ := acceptsPrefix_cons_iff.mp hother
          obtain rfl : state' = state'' := Step.live.inj (hstep.symm.trans hstep')
          exact Nat.succ_le_succ (htext.longest other hother)
    · simp [Cursor.past_advance]
  · refine finds_of_only_nil ?_
    intro y text htext
    obtain ⟨-, state'', hstep', htext⟩ := acceptsPrefix_cons_iff.mp htext
    obtain rfl : state' = state'' := Step.live.inj (hstep.symm.trans hstep')
    exact hnone text htext

/-- What comes of a run from a state: where the recognizer gives up, a failure there, and otherwise
what the run finds. -/
def Gives (r : Recognizer σ) (start : Cursor) (state : r.State) (remaining read : List σ)
    (best : Option (List σ × Cursor)) (c : Cursor) (out : Outcome σ (List σ)) : Prop :=
  match r.readUntilQuit? state remaining with
  | some count => out = .failure ⟨c.position + count,
      .message (r.name ++ " cannot be matched against this input")⟩
  | none => ∃ found, r.Finds state remaining read best c found ∧ out = r.given start found

variable {start : Cursor} {out : Outcome σ (List σ)}

theorem gives_nil {width : Option (Nat × Cursor)} (hmarks : r.Marks read width found)
    (h : r.Finds state [] read best c found) :
    r.Gives start state [] read best c (r.outcome start read width) :=
  ⟨found, h, outcome_eq_given start hmarks⟩

theorem gives_of_dead {width : Option (Nat × Cursor)} (hstep : r.step state x = .dead)
    (hmarks : r.Marks read width
      (if r.matchesBefore state x = true then some (read, c) else best)) :
    r.Gives start state (x :: remaining) read best c (r.outcome start read width) := by
  rw [Gives, readUntilQuit?, hstep]
  refine ⟨_, finds_of_only_nil ?_, outcome_eq_given start hmarks⟩
  intro y text htext
  obtain ⟨-, state', hstep', -⟩ := acceptsPrefix_cons_iff.mp htext
  rw [hstep] at hstep'
  cases hstep'

theorem gives_of_quit (hstep : r.step state x = .quit) :
    r.Gives start state (x :: remaining) read best c
      (.failure ⟨c.position, .message (r.name ++ " cannot be matched against this input")⟩) := by
  rw [Gives, readUntilQuit?, hstep]
  rfl

theorem Gives.of_step (hstep : r.step state x = .live state')
    (h : r.Gives start state' remaining (x :: read)
      (if r.matchesBefore state x = true then some (read, c) else best) c.advance out) :
    r.Gives start state (x :: remaining) read best c out := by
  rw [Gives, readUntilQuit?, hstep]
  rw [Gives] at h
  dsimp only
  cases hquit : r.readUntilQuit? state' remaining with
  | none =>
      rw [hquit] at h
      obtain ⟨found, hfound, hout⟩ := h
      exact ⟨found, hfound.of_step hstep, hout⟩
  | some count =>
      rw [hquit] at h
      dsimp only [Cursor.advance] at h
      dsimp only [Option.map]
      rw [h, Nat.add_assoc, Nat.add_comm 1]

end Recognizer

/-! ### Runs of recognizers -/

namespace Host.Faithful

variable [BEq σ] {host : Host σ ρ St} {rules : Rules σ ρ} {symbols : List σ} {I : St → Prop}
  {E : Halt → Prop} {start c : Cursor} {rounds : Nat}

/-- From any state the rounds of a recognizer find the longest text that it accepts, if the width
that is kept is the one of what was read. -/
theorem longestFrom_gives (h : host.Faithful rules symbols I) (r : Recognizer σ) (state : r.State)
    (read : List σ) {width : Nat} (hwidth : width = r.widthOf read)
    {best : Option (Nat × Cursor)} {found : Option (List σ × Cursor)}
    (hmarks : r.Marks read best found)
    (hrounds : E .exhausted ∨ symbols.length - c.position < rounds) :
    Yields I E (host.longestFrom r start rounds state read width best c)
      (r.Gives start state (symbols.drop c.position) read found c) := by
  induction rounds generalizing state read width best found c with
  | zero =>
      rcases hrounds with hE | hlt
      · exact Yields.throw hE
      · exact absurd hlt (Nat.not_lt_zero _)
  | succ rounds ih =>
      have hhere : r.Marks read (some (width, c)) (some (read, c)) :=
        .some ⟨hwidth, List.suffix_rfl, rfl⟩
      refine (h.current c).bind ?_
      intro symbol hsymbol
      cases symbol with
      | none =>
          have hend : symbols.drop c.position = [] :=
            List.drop_eq_nil_of_le (List.getElem?_eq_none_iff.mp hsymbol.symm)
          rw [hend]
          refine Yields.pure (Recognizer.gives_nil ?_ Recognizer.finds_nil)
          cases r.matchesAtEnd state with
          | true => exact hhere
          | false => exact hmarks
      | some x =>
          obtain ⟨hlt, rfl⟩ := List.getElem?_eq_some_iff.mp hsymbol.symm
          rw [List.drop_eq_getElem_cons hlt]
          have hmarks' : r.Marks read
              (if r.matchesBefore state symbols[c.position] = true then some (width, c) else best)
              (if r.matchesBefore state symbols[c.position] = true then some (read, c)
                else found) := by
            cases r.matchesBefore state symbols[c.position] with
            | true => exact hhere
            | false => exact hmarks
          dsimp only
          cases hstep : r.step state symbols[c.position] with
          | dead => exact Yields.pure (Recognizer.gives_of_dead hstep hmarks')
          | quit => exact Yields.pure (Recognizer.gives_of_quit hstep)
          | live state' =>
              have hlonger : width + r.width symbols[c.position] =
                  r.widthOf (symbols[c.position] :: read) := by
                rw [hwidth, Nat.add_comm]
                rfl
              have hfewer : E .exhausted ∨ symbols.length - c.advance.position < rounds :=
                hrounds.imp_right fun hfew => by
                  rw [c.position_advance]
                  omega
              exact (ih (c := c.advance) state' _ hlonger (hmarks'.cons _) hfewer).mono
                fun out hout => hout.of_step hstep

/-- A recognizer reads the longest text that it accepts from its start, and fails with its name if
there is none, unless it gives up. -/
theorem longest_finds (h : host.Faithful rules symbols I) (r : Recognizer σ)
    (hrounds : E .exhausted ∨ symbols.length - c.position < rounds) :
    Yields I E (host.longest rounds r c) fun out =>
      match r.readUntilQuit? r.start (symbols.drop c.position) with
      | some count => out = .failure ⟨c.position + count,
          .message (r.name ++ " cannot be matched against this input")⟩
      | none =>
        (∃ text, IsLongest (r.AcceptsPrefix r.start (symbols.drop c.position)) text ∧
          out = .success text (c.past text.length)) ∨
        (∀ text, ¬r.AcceptsPrefix r.start (symbols.drop c.position) text) ∧
          out = .failure ⟨c.position, .message ("expected a match of " ++ r.name)⟩ := by
  refine (h.longestFrom_gives r r.start [] rfl .none hrounds).mono ?_
  intro out hout
  rw [Recognizer.Gives] at hout
  cases hquit : r.readUntilQuit? r.start (symbols.drop c.position) with
  | some count =>
      rw [hquit] at hout
      exact hout
  | none =>
      rw [hquit] at hout
      obtain ⟨found, ⟨text, htext, rfl⟩ | ⟨hnone, rfl⟩, rfl⟩ := hout
      · refine .inl ⟨text, htext, ?_⟩
        rw [Recognizer.given, List.append_nil, List.reverse_reverse]
      · exact .inr ⟨hnone, rfl⟩

end Host.Faithful

/-! ### Automata -/

namespace Automaton

open Text.Utf8

variable {a : Automaton} {start : a.State} {M : List Char → List Char → Prop}

namespace Recognizes

/-- Behind what was read, the recognizer of an automaton accepts what makes it a match. -/
theorem accepts_iff (h : a.Recognizes start M) {name : String}
    {s : (a.recognizer start name).State} (read : List Char)
    (hs : s = a.run start (bytesOf read)) (text rest : List Char) :
    (a.recognizer start name).accepts s text rest.head? = true ↔ M (read ++ text) rest := by
  induction text generalizing s read with
  | nil =>
      subst hs
      rw [List.append_nil]
      cases rest with
      | nil => exact h.atEnd read
      | cons c rest => exact h.matchesBefore_iff read c rest
  | cons x text ih =>
      rw [Recognizer.accepts]
      cases hfeed : (a.recognizer start name).step s x with
      | live s' =>
          subst hs
          rw [List.append_cons]
          exact ih (read ++ [x]) (feed_eq_live hfeed)
      | dead =>
          subst hs
          exact iff_of_false Bool.false_ne_true (h.not_of_feed_eq_dead hfeed text rest)
      | quit =>
          subst hs
          exact absurd hfeed (h.feed_ne_quit read x)

theorem readUntilQuit?_eq_none (h : a.Recognizes start M) {name : String}
    {s : (a.recognizer start name).State} (read : List Char)
    (hs : s = a.run start (bytesOf read)) (remaining : List Char) :
    (a.recognizer start name).readUntilQuit? s remaining = none := by
  induction remaining generalizing s read with
  | nil => rfl
  | cons x remaining ih =>
      rw [Recognizer.readUntilQuit?]
      cases hfeed : (a.recognizer start name).step s x with
      | live s' =>
          subst hs
          exact Option.map_eq_none_iff.mpr (ih (read ++ [x]) (feed_eq_live hfeed))
      | dead => rfl
      | quit =>
          subst hs
          exact absurd hfeed (h.feed_ne_quit read x)

end Recognizes

/-! ### Patterns -/

variable {rules : Rules Char ρ} {symbols : List Char} {compile : String → Except String Automaton}
  {pattern name : String} {remaining text : List Char} {c : Cursor}

/-- What remains begins with the text, which matches in front of what follows it. -/
def MatchesPrefix (M : List Char → List Char → Prop) (remaining text : List Char) : Prop :=
  ∃ rest, remaining = text ++ rest ∧ M text rest

theorem Recognizes.acceptsPrefix_eq (h : a.Recognizes start M) (name : String)
    (remaining : List Char) :
    (a.recognizer start name).AcceptsPrefix (a.recognizer start name).start remaining =
      MatchesPrefix M remaining := by
  funext text
  exact propext (exists_congr fun rest => and_congr_right fun _ =>
    h.accepts_iff [] rfl text rest)

/-- The outcome at a cursor is the longest text that matches there, with the cursor behind it, or a
failure there if none does. -/
def IsLongestMatch (M : List Char → List Char → Prop) (pattern : String) (remaining : List Char)
    (c : Cursor) (out : Outcome Char String) : Prop :=
  (∀ text next, out = .success text next ↔
    IsLongest (MatchesPrefix M remaining) text.toList ∧ next = c.past text.length) ∧
  ∀ e, out = .failure e ↔ (∀ text, ¬MatchesPrefix M remaining text) ∧
    e = ⟨c.position, .message ("expected a match of /" ++ pattern ++ "/")⟩

/-- Of what remains only one beginning is the longest. -/
theorem eq_of_isLongest {other : List Char} (h : IsLongest (MatchesPrefix M remaining) text)
    (hother : IsLongest (MatchesPrefix M remaining) other) : text = other := by
  have hlength := Nat.le_antisymm (hother.longest _ h.holds) (h.longest _ hother.holds)
  obtain ⟨rest, htext, -⟩ := h.holds
  obtain ⟨rest', hother, -⟩ := hother.holds
  exact (List.append_inj (htext.symm.trans hother) hlength).1

theorem isLongestMatch_success (h : IsLongest (MatchesPrefix M remaining) text) :
    IsLongestMatch M pattern remaining c
      (.success (String.ofList text) (c.past text.length)) := by
  refine ⟨?_, ?_⟩
  · intro found next
    rw [Outcome.success.injEq]
    constructor
    · rintro ⟨rfl, rfl⟩
      rw [String.toList_ofList, String.length_ofList]
      exact ⟨h, rfl⟩
    · rintro ⟨hfound, rfl⟩
      obtain rfl := eq_of_isLongest h hfound
      rw [String.ofList_toList, String.length_toList]
      exact ⟨rfl, rfl⟩
  · intro e
    refine iff_of_false nofun ?_
    exact fun hnone => hnone.1 text h.holds

theorem isLongestMatch_failure (h : ∀ text, ¬MatchesPrefix M remaining text) :
    IsLongestMatch M pattern remaining c
      (.failure ⟨c.position, .message ("expected a match of /" ++ pattern ++ "/")⟩) := by
  refine ⟨?_, ?_⟩
  · intro found next
    exact iff_of_false nofun fun hfound => h _ hfound.1.holds
  · intro e
    rw [Outcome.failure.injEq]
    exact ⟨fun he => ⟨h, he.symm⟩, fun he => he.2.symm⟩

/-- What the parser of an automaton gives is the longest match, and it ends if there are at least as
many rounds as characters remain. -/
theorem Recognizes.apply_isLongestMatch [Source S Char] (h : a.Recognizes start M)
    {E : Halt → Prop} {budget : Nat}
    (hbudget : E .exhausted ∨ symbols.length - c.position + 1 < budget) :
    Yields (Session.Consistent (S := S) rules symbols) E
      (rules.apply (Session.host rules) budget (a.matchParser start ("/" ++ pattern ++ "/")) c)
      (IsLongestMatch M pattern (symbols.drop c.position) c) := by
  have hfaithful := Session.host_faithful (S := S) rules symbols
  refine (Rules.apply_longest_yields String.ofList
    (fun _ => hfaithful.longest_finds (a.recognizer start _)) hbudget).mono ?_
  rintro out ⟨found, hfound, rfl⟩
  have hquit : (a.recognizer start ("/" ++ pattern ++ "/")).readUntilQuit?
      (a.recognizer start ("/" ++ pattern ++ "/")).start (symbols.drop c.position) = none :=
    h.readUntilQuit?_eq_none [] rfl _
  rw [hquit] at hfound
  rcases hfound with ⟨text, htext, rfl⟩ | ⟨hnone, rfl⟩
  · rw [h.acceptsPrefix_eq] at htext
    exact isLongestMatch_success htext
  · rw [h.acceptsPrefix_eq] at hnone
    exact isLongestMatch_failure hnone

/-- Of a pattern whose automaton tells what matches, the parser reads the longest text at the cursor
that matches in front of what follows it, where the cursor counts as the beginning, and fails at
the cursor where no text matches, not even the empty one. It ends in any budget that exceeds the
characters that remain by more than one. -/
theorem parser_reads_longest [Source S Char] (rules : Rules Char ρ) (symbols : List Char)
    (hcompile : compile pattern = .ok a) (hstart : a.start = .ok start)
    (h : a.Recognizes start M) :
    ∃ p : Parser Char ρ String, parser compile pattern = .ok p ∧
      ∀ (budget : Nat) (c : Cursor) (s : Session Char S), s.Consistent rules symbols →
        (∀ out s', rules.apply (Session.host rules) budget p c s = .ok out s' →
          IsLongestMatch M pattern (symbols.drop c.position) c out) ∧
        (symbols.length - c.position + 1 < budget →
          ∃ out s', rules.apply (Session.host rules) budget p c s = .ok out s') := by
  refine ⟨a.matchParser start ("/" ++ pattern ++ "/"), ?_, ?_⟩
  · rw [parser, hcompile]
    dsimp only
    rw [hstart]
  · intro budget c s hs
    refine ⟨?_, fun hbudget => (h.apply_isLongestMatch (.inr hbudget)).exists_ok hs⟩
    intro out s' hrun
    exact ((h.apply_isLongestMatch (E := fun _ => True) (.inl trivial)).of_ok hs hrun).1

/-- Of two words that begin alike the longer one is gone into, and backed out of where it breaks
off. -/
theorem parser_reads_longest_back :
    ∃ p : Parser Char (fun _ => Unit) String,
      parser (fun _ => .ok (ofWords (["λ", "λμν"].map encode))) "λ|λμν" = .ok p ∧
      (ofWords (["λ", "λμν"].map encode)).Recognizes (["λ", "λμν"].map encode, false)
        (fun text _ => text ∈ [['λ'], ['λ', 'μ', 'ν']]) ∧
      ∃ s', Rules.empty.apply (Session.host Rules.empty) 6 p .start
        { source := #['λ', 'μ', 'λ'] : Session Char (Array Char) } =
          .ok (.success "λ" ⟨1, false⟩) s' := by
  have h : (ofWords (["λ", "λμν"].map encode)).Recognizes (["λ", "λμν"].map encode, false)
      fun text _ => text ∈ [['λ'], ['λ', 'μ', 'ν']] :=
    ofWords_recognizes [['λ'], ['λ', 'μ', 'ν']]
  let compile : String → Except String Automaton := fun _ =>
    .ok (ofWords (["λ", "λμν"].map encode))
  have hcompile : compile "λ|λμν" = .ok (ofWords (["λ", "λμν"].map encode)) := rfl
  obtain ⟨p, hp, hreads⟩ := parser_reads_longest (S := Array Char) Rules.empty ['λ', 'μ', 'λ']
    hcompile rfl h
  obtain ⟨hlongest, hends⟩ := hreads 6 .start _
    (Session.consistent_start (Source.holds_array #['λ', 'μ', 'λ']))
  obtain ⟨out, s', hrun⟩ := hends (by decide)
  refine ⟨p, hp, h, s', ?_⟩
  have hone : MatchesPrefix (fun text _ => text ∈ [['λ'], ['λ', 'μ', 'ν']]) ['λ', 'μ', 'λ'] ['λ'] :=
    ⟨['μ', 'λ'], rfl, by decide⟩
  have hbound : ∀ other, MatchesPrefix (fun text _ => text ∈ [['λ'], ['λ', 'μ', 'ν']])
      ['λ', 'μ', 'λ'] other → other.length ≤ 1 := by
    rintro other ⟨rest, hrest, hword⟩
    simp only [List.mem_cons, List.not_mem_nil, or_false] at hword
    rcases hword with rfl | rfl
    · exact Nat.le_refl 1
    · simp at hrest
  have hout := ((hlongest out s' hrun).1 "λ" ⟨1, false⟩).mpr ⟨⟨hone, hbound⟩, rfl⟩
  exact hout ▸ hrun

end Automaton

end PredictiveParsing
