import PredictiveParsing.Proofs.Soundness

/-!
# Trying everything

What a grammar means without a look ahead: `Parser.trial` finds out what a parser does by
trying all that could be tried, in order. It asks no parser what it accepts or begins on:
the second of two parsers is always applied, so are both alternatives of a choice if need
be, and a repetition makes its rounds until one fails. A round that fails where it began
ends the repetition, and one that fails further on is the failure of all. Labels and
records of failures have no part in it, and of a failure only the position counts.

Trials may go on for ever. They are given a budget for the rules entered and the rounds
made, and find nothing when it is spent.

What a trial finds honours what the parser says of itself (`Rules.trial_honest`), as runs
do: a parser that needs a symbol fails in a trial where there is none for it.
-/

namespace PredictiveParsing

variable {σ : Type} {ρ : Nat → Type} {α β : Type}

/-- What came of trying a parser at a position: a value and the position behind it, or the
position of the failure. -/
inductive Attempt (α : Type) where
  | success (value : α) (next : Nat)
  | failure (position : Nat)
deriving DecidableEq, Repr

namespace Attempt

def map (f : α → β) : Attempt α → Attempt β
  | .success a next => .success (f a) next
  | .failure e => .failure e

/-- The attempt after one that failed at `e`: of two failures the further one. -/
def orFurther (e : Nat) : Attempt α → Attempt α
  | .success a next => .success a next
  | .failure e' => .failure (max e e')

def succeeds : Attempt α → Bool
  | .success _ _ => true
  | .failure _ => false

def position : Attempt α → Nat
  | .success _ next => next
  | .failure e => e

@[simp]
theorem succeeds_map (f : α → β) (att : Attempt α) : (att.map f).succeeds = att.succeeds := by
  cases att with
  | success _ _ => rfl
  | failure _ => rfl

@[simp]
theorem position_map (f : α → β) (att : Attempt α) : (att.map f).position = att.position := by
  cases att with
  | success _ _ => rfl
  | failure _ => rfl

theorem eq_failure {att : Attempt α} {c : Nat} (hok : att.succeeds = false)
    (hc : att.position = c) : att = .failure c := by
  cases att with
  | success a next => cases hok
  | failure e => rw [← hc, position]

end Attempt

/-- A parser as it is tried: what comes of it at a position, unless that takes too long. -/
abbrev Trial (α : Type) := Nat → Option (Attempt α)

namespace Trial

variable (symbols : List σ)

/-! ### Symbols -/

def eof : Trial Unit := fun c =>
  if symbols[c]?.isNone then some (.success () c) else some (.failure c)

def satisfy [BEq σ] (set : SymbolSet σ) : Trial σ := fun c =>
  match symbols[c]? with
  | some s => if set.contains s then some (.success s (c + 1)) else some (.failure c)
  | none => some (.failure c)

def expectEach [BEq σ] : List σ → Nat → Option Nat
  | [], c => some c
  | want :: rest, c =>
    match symbols[c]? with
    | some s => if s == want then expectEach rest (c + 1) else none
    | none => none

def literal [BEq σ] (first : σ) (rest : List σ) : Trial (List σ) := fun c =>
  match expectEach symbols (first :: rest) c with
  | some next => some (.success (first :: rest) next)
  | none => some (.failure c)

def longestRead (start : Nat) : Option Nat → Attempt Nat
  | some read => .success read (start + read)
  | none => .failure start

/-- How many symbols the longest match of a recognizer reads that began at `start`, from the state
it is in, with the number read so far and that of the longest match so far. -/
def longestFrom (r : Recognizer σ) (start : Nat) :
    List σ → r.State → (read : Nat) → Option Nat → Attempt Nat
  | [], state, read, best => longestRead start (if r.matchesAtEnd state then some read else best)
  | s :: rest, state, read, best =>
    let best := if r.matchesBefore state s then some read else best
    match r.step state s with
    | .live state => longestFrom r start rest state (read + 1) best
    | .dead => longestRead start best
    | .quit => .failure (start + read)

def longest (r : Recognizer σ) : Trial (List σ) := fun c =>
  some ((longestFrom r c (symbols.drop c) r.start 0 none).map (symbols.drop c).take)

/-! ### One after the other -/

def map (f : α → β) (t : Trial α) : Trial β := fun c => do return (← t c).map f

/-- A rejected value is a failure where the trial began. -/
def tryMap (f : α → Except String β) (t : Trial α) : Trial β := fun c => do
  match ← t c with
  | .failure e => return .failure e
  | .success a next =>
    match f a with
    | .ok b => return .success b next
    | .error _ => return .failure c

def flatMap (t : Trial α) (k : α → Trial β) : Trial β := fun c => do
  match ← t c with
  | .failure e => return .failure e
  | .success a next => k a next

def and (t : Trial α) (t' : Trial β) : Trial (α × β) :=
  t.flatMap fun a => t'.map fun b => (a, b)

def sequence : List (Trial α) → Trial (List α)
  | [] => fun c => some (.success [] c)
  | t :: ts => t.flatMap fun a => (sequence ts).map fun values => a :: values

/-! ### Alternatives -/

/-- Both alternatives if need be. Of two failures the further one counts. -/
def or (t t' : Trial α) : Trial α := fun c => do
  match ← t c with
  | .success a next => return .success a next
  | .failure e => return (← t' c).orFurther e

def optional (t : Trial α) : Trial (Option α) := fun c => do
  match ← t c with
  | .success a next => return .success (some a) next
  | .failure _ => return .success none c

/-! ### Looking without reading -/

def lookahead (t : Trial α) : Trial α := fun c => do
  match ← t c with
  | .success a _ => return .success a c
  | .failure e => return .failure e

def not (t : Trial α) : Trial Unit := fun c => do
  match ← t c with
  | .success _ _ => return .failure c
  | .failure _ => return .success () c

/-! ### Repetition -/

/-- Rounds until one fails: where it began, or for all. -/
def many (t : Trial α) : (rounds : Nat) → Trial (List α)
  | 0 => fun _ => none
  | rounds + 1 => fun c => do
    match ← t c with
    | .success a next => return (← many t rounds next).map fun values => a :: values
    | .failure e => if c < e then return .failure e else return .success [] c

def many1 (t : Trial α) (rounds : Nat) : Trial (List α) :=
  t.flatMap fun a => (t.many rounds).map fun values => a :: values

/-- Rounds until one fails, of which `required` have to succeed, and `allowed` at most. -/
def times (t : Trial α) : (required allowed : Nat) → Trial (List α)
  | _, 0 => fun c => some (.success [] c)
  | required, allowed + 1 => fun c => do
    match ← t c with
    | .success a next =>
      return (← times t (required - 1) allowed next).map fun values => a :: values
    | .failure e => if required = 0 then return .success [] c else return .failure e

/-- Rounds until the stop succeeds, which is tried before each. -/
def manyTill (t : Trial α) (stop : Trial β) : (rounds : Nat) → Trial (List α)
  | 0 => fun _ => none
  | rounds + 1 => fun c => do
    match ← stop c with
    | .success _ next => return .success [] next
    | .failure e =>
      match ← t c with
      | .success a next =>
        return (← manyTill t stop rounds next).map fun values => a :: values
      | .failure e' => return .failure (max e e')

def chain (side : Side) (operand : Trial α) (op : Trial (α → α → α)) (rounds : Nat) : Trial α :=
  operand.flatMap fun first =>
    ((op.and operand).many rounds).map fun pairs => Host.group side first pairs.reverse

end Trial

/-! ### Trees -/

/-- What comes of trying a parser, with the trials of rules given and at most `rounds` rounds in a
loop. -/
def Parser.trial [BEq σ] (symbols : List σ) (rule : (i : Nat) → Trial (ρ i)) (rounds : Nat) :
    {α : Type} → Parser σ ρ α → Trial α
  | _, .pure a => fun c => some (.success a c)
  | _, .fail _ => fun c => some (.failure c)
  | _, .eof => .eof symbols
  | _, .satisfy set => .satisfy symbols set
  | _, .literal _ first rest => .literal symbols first rest
  | _, .longest r => .longest symbols r
  | _, .map f p => (p.trial symbols rule rounds).map f
  | _, .tryMap f p => (p.trial symbols rule rounds).tryMap f
  | _, .and p q => (p.trial symbols rule rounds).and (q.trial symbols rule rounds)
  | _, .or p q => (p.trial symbols rule rounds).or (q.trial symbols rule rounds)
  | _, .flatMap p k =>
    (p.trial symbols rule rounds).flatMap fun a => (k a).trial symbols rule rounds
  | _, .label _ p => p.trial symbols rule rounds
  | _, .lookahead p => (p.trial symbols rule rounds).lookahead
  | _, .not p => (p.trial symbols rule rounds).not
  | _, .optional p => (p.trial symbols rule rounds).optional
  | _, .sequence ps => .sequence (.ofFn fun i => (ps i).trial symbols rule rounds)
  | _, .many p => (p.trial symbols rule rounds).many rounds
  | _, .many1 p => (p.trial symbols rule rounds).many1 rounds
  | _, .skipMany p => ((p.trial symbols rule rounds).many rounds).map fun _ => ()
  | _, .times min max p => (p.trial symbols rule rounds).times min max
  | _, .manyTill p stop =>
    (p.trial symbols rule rounds).manyTill (stop.trial symbols rule rounds) rounds
  | _, .chain side operand op =>
    .chain side (operand.trial symbols rule rounds) (op.trial symbols rule rounds) rounds
  | _, .declared _ _ p => p.trial symbols rule rounds
  | _, .recording _ p => p.trial symbols rule rounds
  | _, .rule i => rule i

def Rules.trial [BEq σ] (rules : Rules σ ρ) (symbols : List σ) :
    (budget : Nat) → {α : Type} → Parser σ ρ α → Trial α
  | 0, _, _ => fun _ => none
  | budget + 1, _, p =>
    p.trial symbols
      (fun i =>
        match rules.body? i with
        | some body => rules.trial symbols budget body
        | none => fun _ => none)
      budget

/-! ### What a trial has tried -/

namespace Trial

variable {t : Trial α} {c : Nat}

theorem map_eq_some {f : α → β} {att : Attempt β} (h : t.map f c = some att) :
    ∃ att', t c = some att' ∧ att = att'.map f := by
  obtain ⟨att', hfound, heq⟩ := Option.bind_eq_some_iff.mp h
  cases heq
  exact ⟨att', hfound, rfl⟩

theorem flatMap_eq_some {k : α → Trial β} {att : Attempt β} (h : t.flatMap k c = some att) :
    (∃ e, t c = some (.failure e) ∧ att = .failure e) ∨
      ∃ a next, t c = some (.success a next) ∧ k a next = some att := by
  obtain ⟨att', hfound, hrest⟩ := Option.bind_eq_some_iff.mp h
  cases att' with
  | failure e =>
      cases hrest
      exact .inl ⟨e, hfound, rfl⟩
  | success a next => exact .inr ⟨a, next, hfound, hrest⟩

/-! ### Honest trials -/

variable [BEq σ] {rules : Rules σ ρ} {symbols : List σ}

/-- What the trial finds honours what the parser says of itself. -/
def Honest (rules : Rules σ ρ) (symbols : List σ) (t : Trial α) (p : Parser σ ρ β) : Prop :=
  ∀ c att, t c = some att → rules.Keeps symbols True p c att.succeeds att.position

section

variable {p : Parser σ ρ β}

/-- At the end of the input nothing is read. -/
theorem Honest.position_eq (h : t.Honest rules symbols p) {att : Attempt α}
    (ht : t c = some att) (hend : symbols.length ≤ c) : att.position = c :=
  (h c att ht).eq_of_length_le hend

/-- Where the input ends, a parser that needs a symbol fails. -/
theorem Honest.eq_failure_of_end (h : t.Honest rules symbols p) {att : Attempt α}
    (ht : t c = some att) (hend : symbols.length ≤ c) (hneeds : rules.AcceptsEmpty p false) :
    att = .failure c :=
  Attempt.eq_failure ((h c att ht).ok_eq_false hend hneeds) (h.position_eq ht hend)

/-- Where its first set does not match, a parser that needs a symbol fails. -/
theorem Honest.eq_failure_of_firstSet (h : t.Honest rules symbols p) {att : Attempt α}
    (ht : t c = some att) (hneeds : rules.AcceptsEmpty p false) {first : SymbolSet σ}
    (hfirst : rules.FirstSet p first)
    (hnone : ¬∃ s, symbols[c]? = some s ∧ first.contains s = true) : att = .failure c := by
  have hfails := (h c att ht).eq_fail hneeds fun ⟨s, hs, hbegins⟩ =>
    hnone ⟨s, hs, hbegins trivial first hfirst⟩
  exact Attempt.eq_failure hfails.1 hfails.2

theorem honest_failure : Honest rules symbols (fun c => some (.failure c) : Trial α) p := by
  intro c att h
  cases h
  exact Honours.fail

theorem honest_success {a : α} (hp : rules.AcceptsEmpty p true) :
    Honest rules symbols (fun c => some (.success a c)) p := by
  intro c att h
  cases h
  exact Honours.rest (Rules.not_acceptsEmpty_false hp)

end

theorem honest_eof : (eof symbols).Honest rules symbols (.eof : Parser σ ρ Unit) := by
  intro c att h
  unfold eof at h
  split at h
  · cases h
    exact Honours.rest (Rules.not_acceptsEmpty_false rfl)
  · cases h
    exact Honours.fail

theorem honest_satisfy (set : SymbolSet σ) :
    (satisfy symbols set).Honest rules symbols (.satisfy set : Parser σ ρ σ) := by
  intro c att h
  unfold satisfy at h
  split at h
  · rename_i s hs
    split at h
    · rename_i hset
      cases h
      refine ⟨Spans.one hs ?_, fun _ _ => Nat.lt_succ_self _⟩
      intro _ set' hset'
      cases hset'
      exact hset
    · cases h
      exact Honours.fail
  · cases h
    exact Honours.fail

theorem expectEach_eq_some {want : List σ} {next : Nat}
    (h : expectEach symbols want c = some next) :
    next = c + want.length ∧ next ≤ max c symbols.length ∧ ∀ w rest, want = w :: rest →
      ∃ s, symbols[c]? = some s ∧ (s == w) = true := by
  induction want generalizing c with
  | nil =>
      cases h
      exact ⟨rfl, Nat.le_max_left _ _, nofun⟩
  | cons w want ih =>
      unfold expectEach at h
      cases hs : symbols[c]? with
      | none =>
          rw [hs] at h
          cases h
      | some s =>
          rw [hs] at h
          dsimp only at h
          split at h
          · rename_i hw
            have hlt : c < symbols.length := (List.getElem?_eq_some_iff.mp hs).1
            obtain ⟨hnext, hwithin, _⟩ := ih h
            refine ⟨by rw [hnext, List.length_cons]; omega, by omega, ?_⟩
            rintro _ _ heq
            cases heq
            exact ⟨s, rfl, hw⟩
          · cases h

theorem honest_literal (name : String) (first : σ) (rest : List σ) :
    (literal symbols first rest).Honest rules symbols
      (.literal name first rest : Parser σ ρ (List σ)) := by
  intro c att h
  unfold literal at h
  split at h
  · rename_i next hnext
    cases h
    obtain ⟨hlength, hwithin, hfirst⟩ := expectEach_eq_some hnext
    obtain ⟨s, hs, hmatch⟩ := hfirst first rest rfl
    rw [List.length_cons] at hlength
    have hlt : c < next := by omega
    refine ⟨⟨Nat.le_of_lt hlt, hwithin, ?_⟩, fun _ _ => hlt⟩
    intro _
    refine ⟨s, hs, ?_⟩
    intro _ set hset
    cases hset
    exact hmatch
  · cases h
    exact Honours.fail

variable {p : Parser σ ρ α} {q : Parser σ ρ β} {t' : Trial β}

/-- Only the value is changed by a function on it. -/
theorem Honest.changed {γ : Type} {f : α → γ} (ht : t.Honest rules symbols q) :
    (t.map f).Honest rules symbols q := by
  intro c att h
  obtain ⟨att', hfound, rfl⟩ := map_eq_some h
  simpa using ht c att' hfound

theorem Honest.map {f : α → β} (ht : t.Honest rules symbols p) :
    (t.map f).Honest rules symbols (p.map f) :=
  fun c att h => ht.changed c att h

theorem Honest.tryMap {f : α → Except String β} (ht : t.Honest rules symbols p) :
    (t.tryMap f).Honest rules symbols (p.tryMap f) := by
  intro c att h
  obtain ⟨att', hfound, h⟩ := Option.bind_eq_some_iff.mp h
  have hp := ht c att' hfound
  cases att' with
  | failure e =>
      cases h
      exact hp
  | success a next =>
      dsimp only at h
      cases hf : f a with
      | ok b =>
          rw [hf] at h
          cases h
          exact hp
      | error message =>
          rw [hf] at h
          cases h
          exact Honours.fail

theorem Honest.flatMap {k : α → Parser σ ρ β} {k' : α → Trial β} (ht : t.Honest rules symbols p)
    (hk : ∀ a, (k' a).Honest rules symbols (k a)) :
    (t.flatMap k').Honest rules symbols (p.flatMap k) := by
  intro c att h
  rcases flatMap_eq_some h with ⟨e, hfound, rfl⟩ | ⟨a, next, hfound, h⟩
  · exact Rules.keeps_flatMap_left (ht c _ hfound)
  · exact Rules.keeps_flatMap_right (ht c _ hfound) (hk a next att h)

theorem Honest.and (ht : t.Honest rules symbols p) (ht' : t'.Honest rules symbols q) :
    (t.and t').Honest rules symbols (p.and q) := by
  intro c att h
  rcases flatMap_eq_some h with ⟨e, hfound, rfl⟩ | ⟨a, next, hfound, h⟩
  · exact Rules.keeps_and_left (ht c _ hfound)
  · exact Rules.keeps_and_right (ht c _ hfound) (ht'.changed next att h)

theorem honest_sequence {n : Nat} {ps : Fin n → Parser σ ρ α} {ts : Fin n → Trial α}
    (ht : ∀ i, (ts i).Honest rules symbols (ps i)) :
    (sequence (List.ofFn ts)).Honest rules symbols (.sequence ps) := by
  have hall : ∀ (n : Nat) (ps : Fin n → Parser σ ρ α) (ts : Fin n → Trial α),
      (∀ i, (ts i).Honest rules symbols (ps i)) → ∀ c att, sequence (List.ofFn ts) c = some att →
        rules.KeepsAll symbols True (List.ofFn ps) c att.succeeds att.position := by
    intro n
    induction n with
    | zero =>
        intro ps ts _ c att h
        rw [List.ofFn_zero] at h ⊢
        cases h
        exact Rules.keepsAll_nil
    | succ n ih =>
        intro ps ts ht c att h
        rw [List.ofFn_succ] at h ⊢
        rcases flatMap_eq_some h with ⟨e, hfound, rfl⟩ | ⟨a, next, hfound, h⟩
        · exact Rules.keepsAll_cons_left (ht 0 c _ hfound)
        · obtain ⟨att', hrest, rfl⟩ := map_eq_some h
          rw [Attempt.succeeds_map, Attempt.position_map]
          exact Rules.keepsAll_cons_right (ht 0 c _ hfound)
            (ih _ _ (fun i => ht i.succ) next att' hrest)
  exact fun c att h => Rules.keeps_sequence (hall n ps ts ht c att h)

theorem Honest.or {q : Parser σ ρ α} {t' : Trial α} (ht : t.Honest rules symbols p)
    (ht' : t'.Honest rules symbols q) : (t.or t').Honest rules symbols (p.or q) := by
  intro c att h
  obtain ⟨left, hleft, h⟩ := Option.bind_eq_some_iff.mp h
  have hp := ht c left hleft
  cases left with
  | success a next =>
      cases h
      exact Rules.keeps_or_left hp
  | failure e =>
      obtain ⟨right, hright, heq⟩ := Option.bind_eq_some_iff.mp h
      cases heq
      have hq := ht' c right hright
      cases right with
      | success a next => exact Rules.keeps_or_right hq
      | failure e' => exact Honours.furthest (Rules.keeps_or_left hp) (Rules.keeps_or_right hq)

theorem Honest.optional (ht : t.Honest rules symbols p) :
    t.optional.Honest rules symbols p.optional := by
  intro c att h
  obtain ⟨att', hfound, h⟩ := Option.bind_eq_some_iff.mp h
  have hp := ht c att' hfound
  cases att' with
  | success a next =>
      cases h
      exact Rules.keeps_optional hp
  | failure e =>
      cases h
      exact Honours.rest (Rules.not_acceptsEmpty_false rfl)

theorem Honest.label (name : String) (ht : t.Honest rules symbols p) :
    t.Honest rules symbols (.label name p) :=
  fun c att h => Rules.keeps_label name (ht c att h)

theorem Honest.lookahead (ht : t.Honest rules symbols p) :
    t.lookahead.Honest rules symbols p.lookahead := by
  intro c att h
  obtain ⟨att', hfound, h⟩ := Option.bind_eq_some_iff.mp h
  have hp := ht c att' hfound
  cases att' with
  | success a next =>
      cases h
      exact Honours.rest (Rules.not_acceptsEmpty_false rfl)
  | failure e =>
      cases h
      exact ⟨hp.spans, nofun⟩

theorem honest_not : t.not.Honest rules symbols p.not := by
  intro c att h
  obtain ⟨att', _, h⟩ := Option.bind_eq_some_iff.mp h
  cases att' with
  | success a next =>
      cases h
      exact Honours.fail
  | failure e =>
      cases h
      exact Honours.rest (Rules.not_acceptsEmpty_false rfl)

theorem Honest.many (ht : t.Honest rules symbols p) (rounds : Nat) :
    (t.many rounds).Honest rules symbols p.many := by
  induction rounds with
  | zero => exact nofun
  | succ rounds ih =>
      intro c att h
      obtain ⟨att', hfound, h⟩ := Option.bind_eq_some_iff.mp h
      have hp := ht c att' hfound
      cases att' with
      | success a next =>
          exact Rules.keeps_many hp (ih.changed next att h)
      | failure e =>
          dsimp only at h
          split at h
          · cases h
            exact ⟨hp.spans, nofun⟩
          · cases h
            exact Honours.rest (Rules.not_acceptsEmpty_false rfl)

theorem Honest.many1 (ht : t.Honest rules symbols p) (rounds : Nat) :
    (t.many1 rounds).Honest rules symbols p.many1 := by
  intro c att h
  rcases flatMap_eq_some h with ⟨e, hfound, rfl⟩ | ⟨a, next, hfound, h⟩
  · exact ht c _ hfound
  · exact Rules.keeps_many1 (ht c _ hfound) ((ht.many rounds).changed next att h)

theorem Honest.skipMany (ht : t.Honest rules symbols p) (rounds : Nat) :
    ((t.many rounds).map fun _ => ()).Honest rules symbols p.skipMany :=
  fun c att h => (ht.many rounds).changed c att h

theorem Honest.times (ht : t.Honest rules symbols p) {min max : Nat} (hle : min ≤ max) :
    (t.times min max).Honest rules symbols (.times min max p) := by
  induction max generalizing min with
  | zero =>
      have hzero : min = 0 := Nat.le_zero.mp hle
      subst hzero
      exact honest_success (Rules.acceptsEmpty_times.mpr rfl)
  | succ max ih =>
      intro c att h
      obtain ⟨att', hfound, h⟩ := Option.bind_eq_some_iff.mp h
      have hp := ht c att' hfound
      cases att' with
      | success a next =>
          have hrest : min - 1 ≤ max := Nat.sub_le_of_le_add hle
          exact Rules.keeps_times_right hp ((ih hrest).changed next att h)
      | failure e =>
          dsimp only at h
          by_cases hzero : min = 0
          · rw [if_pos hzero] at h
            cases h
            rw [hzero]
            exact Rules.keeps_times_zero
          · rw [if_neg hzero] at h
            cases h
            exact Rules.keeps_times_left hp

theorem Honest.manyTill (ht : t.Honest rules symbols p) (ht' : t'.Honest rules symbols q)
    (rounds : Nat) : (t.manyTill t' rounds).Honest rules symbols (.manyTill p q) := by
  induction rounds with
  | zero => exact nofun
  | succ rounds ih =>
      intro c att h
      obtain ⟨stop, hstop, h⟩ := Option.bind_eq_some_iff.mp h
      have hq := ht' c stop hstop
      cases stop with
      | success b next =>
          cases h
          exact Rules.keeps_manyTill_stop hq
      | failure e =>
          obtain ⟨round, hround, h⟩ := Option.bind_eq_some_iff.mp h
          have hp := ht c round hround
          cases round with
          | success a next => exact Rules.keeps_manyTill_round hp (ih.changed next att h)
          | failure e' =>
              cases h
              exact Rules.keeps_manyTill_fail hq hp

/-- Behind its first operand a chain only goes forward. -/
theorem Honest.spans_pairs (ht : t.Honest rules symbols p) (ht' : t'.Honest rules symbols q)
    (rounds : Nat) {att : Attempt (List (β × α))} (h : (t'.and t).many rounds c = some att) :
    Spans symbols (fun _ => True) c att.position :=
  (((ht'.and ht).many rounds) c att h).spans.mono fun _ _ => trivial

theorem Honest.chain {side : Side} {op : Parser σ ρ (α → α → α)} {opTrial : Trial (α → α → α)}
    (ht : t.Honest rules symbols p) (hop : opTrial.Honest rules symbols op) (rounds : Nat)
    (hneeds : ∀ set, True → rules.FirstSet p set → rules.AcceptsEmpty p false) :
    (chain side t opTrial rounds).Honest rules symbols (.chain side p op) := by
  intro c att h
  rcases flatMap_eq_some h with ⟨e, hfound, rfl⟩ | ⟨first, next, hfound, h⟩
  · exact Rules.keeps_chain_left (ht c _ hfound)
  · obtain ⟨att', hpairs, rfl⟩ := map_eq_some h
    rw [Attempt.succeeds_map, Attempt.position_map]
    exact Rules.keeps_chain_right (ht c _ hfound) hneeds (ht.spans_pairs hop rounds hpairs)

end Trial

/-! ### Trees and rules -/

section

variable [BEq σ] {rules : Rules σ ρ} {symbols : List σ}

/-- If the rules are honest, so is every premade parser over them. -/
theorem Parser.trial_honest {rule : (i : Nat) → Trial (ρ i)} {rounds : Nat}
    (hrules : ∀ i body, rules.body? i = some body → body.Everywhere (rules.Sure True))
    (hrule : ∀ i, (rule i).Honest rules symbols (.rule i : Parser σ ρ (ρ i)))
    {p : Parser σ ρ α} (hp : p.Everywhere (rules.Sure True)) :
    (p.trial symbols rule rounds).Honest rules symbols p := by
  induction p with
  | pure a => exact Trial.honest_success rfl
  | fail message => exact Trial.honest_failure
  | eof => exact Trial.honest_eof
  | satisfy set => exact Trial.honest_satisfy set
  | literal name first rest => exact Trial.honest_literal name first rest
  | longest | declared | recording => exact absurd hp.here.1 id
  | map f p ih => exact (ih hp.2).map
  | tryMap f p ih => exact (ih hp.2).tryMap
  | and p q ihp ihq => exact (ihp hp.2.1).and (ihq hp.2.2)
  | or p q ihp ihq => exact (ihp hp.2.1).or (ihq hp.2.2)
  | flatMap p k ihp ihk => exact (ihp hp.2.1).flatMap fun a => ihk a (hp.2.2 a)
  | label name p ih => exact (ih hp.2).label name
  | lookahead p ih => exact (ih hp.2).lookahead
  | not p ih => exact Trial.honest_not
  | optional p ih => exact (ih hp.2).optional
  | sequence ps ih => exact Trial.honest_sequence fun i => ih i (hp.2 i)
  | many p ih => exact (ih hp.2).many rounds
  | many1 p ih => exact (ih hp.2).many1 rounds
  | skipMany p ih => exact (ih hp.2).skipMany rounds
  | times min max p ih => exact (ih hp.2).times hp.here.1
  | manyTill p stop ihp ihs => exact (ihp hp.2.1).manyTill (ihs hp.2.2) rounds
  | chain side operand op ihp iho =>
      exact (ihp hp.2.1).chain (iho hp.2.2) rounds (Rules.Sure.chain_needs hp hrules)
  | rule i => exact hrule i

theorem Rules.trial_honest
    (hrules : ∀ i body, rules.body? i = some body → body.Everywhere (rules.Sure True))
    (budget : Nat) {p : Parser σ ρ α} (hp : p.Everywhere (rules.Sure True)) :
    (rules.trial symbols budget p).Honest rules symbols p := by
  induction budget generalizing α p with
  | zero => exact nofun
  | succ budget ih =>
      refine Parser.trial_honest hrules ?_ hp
      intro i c att h
      cases hi : rules.body? i with
      | none =>
          rw [hi] at h
          cases h
      | some body =>
          rw [hi] at h
          exact keeps_rule (c := ⟨c, false⟩) hi (ih (hrules i body hi) c att h)

end

end PredictiveParsing
