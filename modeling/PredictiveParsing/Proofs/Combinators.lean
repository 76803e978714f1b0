import PredictiveParsing.Proofs.Honours
import PredictiveParsing.Proofs.Host

/-!
# Combinators at work

A combinator whose operands keep their word keeps its own, under a faithful host and
with no fault but those of its operands: one lemma for each combinator that decides
anything. The set `E` of faults is left open. Where it contains `exhausted`, a loop may
run out of rounds; where it does not, the loop needs a round more than there are symbols
left, and that is enough because each of its rounds reads one.
-/

namespace PredictiveParsing

variable {σ : Type} {ρ : Nat → Type} {St α β ε : Type}

@[simp]
theorem Cursor.position_advance (c : Cursor) : c.advance.position = c.position + 1 := rfl

namespace Outcome

def succeeds : Outcome σ α → Bool
  | .success _ _ => true
  | .failure _ => false

def position : Outcome σ α → Nat
  | .success _ next => next.position
  | .failure f => f.position

@[simp]
theorem succeeds_map (f : α → β) (out : Outcome σ α) : (out.map f).succeeds = out.succeeds := by
  cases out with
  | success _ _ => rfl
  | failure _ => rfl

@[simp]
theorem position_map (f : α → β) (out : Outcome σ α) : (out.map f).position = out.position := by
  cases out with
  | success _ _ => rfl
  | failure _ => rfl

end Outcome

theorem Failure.position_merge (f g : Failure σ) :
    (f.merge g).position = max f.position g.position := by
  unfold Failure.merge
  by_cases hfg : g.position < f.position
  · rw [if_pos hfg]
    omega
  · rw [if_neg hfg]
    by_cases hgf : f.position < g.position
    · rw [if_pos hgf]
      omega
    · rw [if_neg hgf]
      dsimp only
      omega

/-- The outcome is one that the parser's answers allow from the cursor. -/
abbrev Rules.Allows [BEq σ] (rules : Rules σ ρ) (symbols : List σ) (sure : Prop)
    (p : Parser σ ρ α) (c : Cursor) (out : Outcome σ β) : Prop :=
  rules.Keeps symbols sure p c.position out.succeeds out.position

def Action.AllowedFrom [BEq σ] (act : Action St σ α) (rules : Rules σ ρ) (symbols : List σ)
    (I : St → Prop) (E : Halt → Prop) (sure : Prop) (p : Parser σ ρ α) (c : Cursor) : Prop :=
  ∀ next : Cursor, c.position ≤ next.position →
    Yields I E (act next) (rules.Allows symbols sure p next)

namespace Action.AllowedFrom

variable [BEq σ] {act : Action St σ α} {rules : Rules σ ρ} {symbols : List σ} {I : St → Prop}
  {E : Halt → Prop} {sure : Prop} {p : Parser σ ρ α} {c next : Cursor}

theorem here (h : act.AllowedFrom rules symbols I E sure p c) :
    Yields I E (act c) (rules.Allows symbols sure p c) := h c (Nat.le_refl _)

theorem later (h : act.AllowedFrom rules symbols I E sure p c)
    (hle : c.position ≤ next.position) : act.AllowedFrom rules symbols I E sure p next :=
  fun next' hle' => h next' (Nat.le_trans hle hle')

end Action.AllowedFrom

namespace Host.Faithful

variable [BEq σ] {host : Host σ ρ St} {rules : Rules σ ρ} {symbols : List σ} {I : St → Prop}
  {E : Halt → Prop} {sure : Prop} {c : Cursor}

/-! ### Symbols -/

theorem eof_yields (h : host.Faithful rules symbols I) :
    Yields I E (host.eof c) (rules.Allows symbols sure .eof c) := by
  refine (h.atEnd c).bind ?_
  intro ended _
  cases ended with
  | true => exact Yields.pure (Honours.rest (Rules.not_acceptsEmpty_false rfl))
  | false => exact Yields.pure Honours.fail

theorem satisfy_yields (h : host.Faithful rules symbols I) (set : SymbolSet σ) :
    Yields I E (host.satisfy set c) (rules.Allows symbols sure (.satisfy set) c) := by
  refine (h.current c).bind ?_
  intro symbol hsymbol
  cases symbol with
  | none => exact Yields.pure Honours.fail
  | some s =>
      dsimp only
      cases hs : set.contains s with
      | false => exact Yields.pure Honours.fail
      | true =>
          refine Yields.pure ⟨Spans.one hsymbol.symm ?_, fun _ _ => Nat.lt_succ_self _⟩
          intro _ set' hset
          cases hset
          exact hs

theorem expectEach_yields (h : host.Faithful rules symbols I) (want : List σ) (c : Cursor) :
    Yields I E (host.expectEach want c) fun next? => ∀ next, next? = some next →
      next.position = c.position + want.length ∧
        ∀ i w, want[i]? = some w → ∃ s, symbols[c.position + i]? = some s ∧ (s == w) = true := by
  induction want generalizing c with
  | nil =>
      refine Yields.pure ?_
      intro next hnext
      cases hnext
      exact ⟨rfl, nofun⟩
  | cons w want ih =>
      refine (h.current c).bind ?_
      intro symbol hsymbol
      cases symbol with
      | none => exact Yields.pure nofun
      | some s =>
          dsimp only
          cases hs : s == w with
          | false => exact Yields.pure nofun
          | true =>
              refine (ih c.advance).mono ?_
              intro next? hnext next hsome
              obtain ⟨hposition, hmatch⟩ := hnext next hsome
              rw [Cursor.position_advance] at hposition hmatch
              refine ⟨by rw [hposition, List.length_cons]; omega, ?_⟩
              intro i v hv
              cases i with
              | zero =>
                  cases hv
                  exact ⟨s, hsymbol.symm, hs⟩
              | succ i =>
                  obtain ⟨t, ht, htv⟩ := hmatch i v hv
                  refine ⟨t, ?_, htv⟩
                  rw [← ht, Nat.add_assoc, Nat.add_comm 1 i]

theorem literal_yields (h : host.Faithful rules symbols I) (name : String) (first : σ)
    (rest : List σ) :
    Yields I E (host.literal name first rest c)
      (rules.Allows symbols sure (.literal name first rest) c) := by
  refine (h.expectEach_yields (first :: rest) c).bind ?_
  intro next? hnext
  cases next? with
  | some next =>
      obtain ⟨hposition, hmatch⟩ := hnext next rfl
      obtain ⟨s, hs, hfirst⟩ := hmatch 0 first rfl
      have hlast : (first :: rest)[rest.length]? = some ((first :: rest)[rest.length]) :=
        List.getElem?_eq_getElem (Nat.lt_succ_self _)
      obtain ⟨t, ht, _⟩ := hmatch rest.length _ hlast
      have hwithin := (List.getElem?_eq_some_iff.mp ht).1
      rw [List.length_cons] at hposition
      refine Yields.pure ⟨⟨?_, ?_, ?_⟩, ?_⟩
      · change c.position ≤ next.position
        omega
      · change next.position ≤ max c.position symbols.length
        omega
      · intro _
        refine ⟨s, hs, ?_⟩
        intro _ set hset
        cases hset
        exact hfirst
      · intro _ _
        change c.position < next.position
        omega
  | none =>
      refine (h.atEnd c).bind ?_
      intro ended _
      cases ended with
      | true => exact Yields.pure Honours.fail
      | false => exact Yields.pure Honours.fail

/-! ### One after the other -/

variable {o : Operand St σ α} {o' : Operand St σ β} {p : Parser σ ρ α} {q : Parser σ ρ β}

omit [BEq σ] in
/-- To map the result changes neither whether an action succeeds nor where it ends. -/
theorem yields_map {Q : Bool → Nat → Prop} {act : Act St (Outcome σ α)} {f : α → β}
    (hact : Yields I E act fun out => Q out.succeeds out.position) :
    Yields I E (do return (← act).map f) fun out => Q out.succeeds out.position := by
  refine hact.bind ?_
  intro out hout
  refine Yields.pure ?_
  rw [Outcome.succeeds_map, Outcome.position_map]
  exact hout

theorem map_yields {act : Act St (Outcome σ α)} {f : α → β}
    (hp : Yields I E act (rules.Allows symbols sure p c)) :
    Yields I E (do return (← act).map f) (rules.Allows symbols sure (p.map f) c) :=
  yields_map hp

theorem tryMap_yields {f : α → Except String β}
    (hp : Yields I E (o.apply c) (rules.Allows symbols sure p c)) :
    Yields I E (Host.tryMap f o c) (rules.Allows symbols sure (p.tryMap f) c) := by
  refine hp.bind ?_
  intro out hout
  cases out with
  | failure e => exact Yields.pure hout
  | success a next =>
      dsimp only
      cases f a with
      | ok b => exact Yields.pure hout
      | error message => exact Yields.pure Honours.fail

theorem and_yields (h : host.Faithful rules symbols I) (hq : o'.Speaks rules I E q)
    (hp : Yields I E (o.apply c) (rules.Allows symbols sure p c))
    (hnext : ∀ next : Cursor, rules.Keeps symbols sure p c.position true next.position →
      Yields I E (o'.apply next) (rules.Allows symbols sure q next)) :
    Yields I E (host.and o o' c) (rules.Allows symbols sure (p.and q) c) := by
  refine hp.bind ?_
  intro out hout
  cases out with
  | failure e => exact Yields.pure (Rules.keeps_and_left hout)
  | success a next =>
      refine (h.endsBefore hq next).bind ?_
      intro ends _
      cases ends with
      | true =>
          refine hq.firstSet.bind ?_
          intro set _
          exact Yields.pure (Rules.keeps_and_right hout Honours.fail)
      | false =>
          refine (hnext next hout).bind ?_
          intro out hout'
          cases out with
          | failure e => exact Yields.pure (Rules.keeps_and_right hout hout')
          | success b next' => exact Yields.pure (Rules.keeps_and_right hout hout')

theorem flatMap_yields {k : α → Parser σ ρ β} {act : α → Action St σ β}
    (hp : Yields I E (o.apply c) (rules.Allows symbols sure p c))
    (hnext : ∀ a (next : Cursor), rules.Keeps symbols sure p c.position true next.position →
      Yields I E (act a next) (rules.Allows symbols sure (k a) next)) :
    Yields I E (Host.flatMap o act c) (rules.Allows symbols sure (p.flatMap k) c) := by
  refine hp.bind ?_
  intro out hout
  cases out with
  | failure e => exact Yields.pure (Rules.keeps_flatMap_left hout)
  | success a next =>
      refine (hnext a next hout).mono ?_
      intro out hout'
      exact Rules.keeps_flatMap_right hout hout'

/-- The parsers of a list keep their word one after the other, each from where the ones before it
got to. -/
def InTurn (rules : Rules σ ρ) (symbols : List σ) (I : St → Prop) (E : Halt → Prop) (sure : Prop)
    (operand : Parser σ ρ α → Operand St σ α) : List (Parser σ ρ α) → Cursor → Prop
  | [], _ => True
  | p :: ps, c => Yields I E ((operand p).apply c) (rules.Allows symbols sure p c) ∧
      ∀ next : Cursor, rules.Keeps symbols sure p c.position true next.position →
        InTurn rules symbols I E sure operand ps next

theorem sequenceFrom_yields {operand : Parser σ ρ α → Operand St σ α}
    (h : host.Faithful rules symbols I) (ps : List (Parser σ ρ α)) (values : List α) (c : Cursor)
    (hs : ∀ p ∈ ps, (operand p).Speaks rules I E p)
    (hp : InTurn rules symbols I E sure operand ps c) :
    Yields I E (host.sequenceFrom values c (ps.map operand)) fun out =>
      rules.KeepsAll symbols sure ps c.position out.succeeds out.position := by
  induction ps generalizing values c with
  | nil => exact Yields.pure Rules.keepsAll_nil
  | cons p ps ih =>
      rw [List.forall_mem_cons] at hs
      rw [List.map_cons, Host.sequenceFrom]
      refine (h.endsBefore hs.1 c).bind ?_
      intro ends _
      cases ends with
      | true =>
          refine hs.1.firstSet.bind ?_
          intro set _
          exact Yields.pure Honours.fail
      | false =>
          refine hp.1.bind ?_
          intro out hout
          cases out with
          | failure e => exact Yields.pure (Rules.keepsAll_cons_left hout)
          | success a next =>
              refine (ih (a :: values) next hs.2 (hp.2 next hout)).mono ?_
              intro out hout'
              exact Rules.keepsAll_cons_right hout hout'

/-! ### Alternatives -/

theorem orElse_yields {p q : Parser σ ρ α} {left : Failure σ} {out : Outcome σ α}
    (h : host.Faithful rules symbols I)
    (hleft : rules.Keeps symbols sure p c.position false left.position)
    (hout : rules.Allows symbols sure q c out) :
    Yields I E (host.orElse c left out) (rules.Allows symbols sure (p.or q) c) := by
  cases out with
  | success a next =>
      refine (h.recover c left).bind ?_
      intro _ _
      exact Yields.pure (Rules.keeps_or_right hout)
  | failure right =>
      refine Yields.pure ?_
      change rules.Keeps symbols sure (p.or q) c.position false (left.merge right).position
      rw [Failure.position_merge]
      exact (Rules.keeps_or_left hleft).furthest (Rules.keeps_or_right hout)

theorem or_yields {o o' : Operand St σ α} {p q : Parser σ ρ α} (h : host.Faithful rules symbols I)
    (hps : o.Speaks rules I E p) (hqs : o'.Speaks rules I E q)
    (hp : Yields I E (o.apply c) (rules.Allows symbols sure p c))
    (hq : Yields I E (o'.apply c) (rules.Allows symbols sure q c)) :
    Yields I E (host.or o o' c) (rules.Allows symbols sure (p.or q) c) := by
  refine (h.atEnd c).bind ?_
  intro ended _
  cases ended with
  | false =>
      refine hp.bind ?_
      intro out hout
      cases out with
      | success a next => exact Yields.pure (Rules.keeps_or_left hout)
      | failure left => exact hq.bind fun out hout' => h.orElse_yields hout hout'
  | true =>
      refine hqs.acceptsEmpty.bind ?_
      intro rightAccepts _
      refine hps.acceptsEmpty.bind ?_
      intro leftAccepts _
      cases leftAccepts with
      | true =>
          refine hp.bind ?_
          intro out hout
          cases out with
          | success a next => exact Yields.pure (Rules.keeps_or_left hout)
          | failure left =>
              cases rightAccepts with
              | true => exact hq.bind fun out hout' => h.orElse_yields hout hout'
              | false => exact Yields.pure (Rules.keeps_or_left hout)
      | false =>
          cases rightAccepts with
          | true => exact hq.mono fun out hout => Rules.keeps_or_right hout
          | false =>
              refine hps.firstSet.bind ?_
              intro left _
              refine hqs.firstSet.bind ?_
              intro right _
              exact Yields.pure Honours.fail

theorem optional_yields (h : host.Faithful rules symbols I) (hs : o.Speaks rules I E p)
    (hp : Yields I E (o.apply c) (rules.Allows symbols sure p c)) :
    Yields I E (host.optional o c) (rules.Allows symbols sure p.optional c) := by
  have hrest : rules.Keeps symbols sure p.optional c.position true c.position :=
    Honours.rest (Rules.not_acceptsEmpty_false rfl)
  refine (h.endsBefore hs c).bind ?_
  intro ends _
  cases ends with
  | true => exact Yields.pure hrest
  | false =>
      refine hp.bind ?_
      intro out hout
      cases out with
      | success a next => exact Yields.pure (Rules.keeps_optional hout)
      | failure e =>
          refine (h.recover c e).bind ?_
          intro _ _
          exact Yields.pure hrest

theorem label_yields {name : String} (hs : o.Speaks rules I E p)
    (hp : Yields I E (o.apply c) (rules.Allows symbols sure p c)) :
    Yields I E (Host.label name o c) (rules.Allows symbols sure (.label name p) c) := by
  refine hp.bind ?_
  intro out hout
  have hlabel := Rules.keeps_label name hout
  cases out with
  | success a next => exact Yields.pure hlabel
  | failure e =>
      dsimp only
      split
      · exact Yields.pure hlabel
      · refine hs.firstSet.bind ?_
        intro set _
        split
        · exact Yields.pure hlabel
        · exact Yields.pure hlabel

/-! ### Looking without reading -/

theorem lookahead_yields (hp : Yields I E (o.apply c) (rules.Allows symbols sure p c)) :
    Yields I E (Host.lookahead o c) (rules.Allows symbols sure p.lookahead c) := by
  refine hp.bind ?_
  intro out hout
  cases out with
  | success a next => exact Yields.pure (Honours.rest (Rules.not_acceptsEmpty_false rfl))
  | failure e => exact Yields.pure ⟨hout.spans, nofun⟩

theorem not_yields {r : Outcome σ α → Prop} (hp : Yields I E (o.apply c.untracked) r) :
    Yields I E (Host.not o c) (rules.Allows symbols sure p.not c) := by
  refine hp.bind ?_
  intro out _
  cases out with
  | success a next => exact Yields.pure Honours.fail
  | failure e => exact Yields.pure (Honours.rest (Rules.not_acceptsEmpty_false rfl))

/-! ### Repetition -/

variable {rounds : Nat}

/-- A loop over a parser that needs a symbol has rounds enough when there is one more than there
are symbols left. -/
theorem roundsWhile_yields {act : Action St σ α} (h : host.Faithful rules symbols I)
    (first : SymbolSet σ) (step : β → α → β) (acc : β) (c : Cursor)
    (hneeds : rules.AcceptsEmpty p false)
    (hp : act.AllowedFrom rules symbols I E sure p c)
    (hrounds : E .exhausted ∨ symbols.length - c.position < rounds) :
    Yields I E (host.roundsWhile first act step rounds acc c)
      (rules.Allows symbols sure p.many c) := by
  have hrest : ∀ c : Nat, rules.Keeps symbols sure p.many c true c := fun _ =>
    Honours.rest (Rules.not_acceptsEmpty_false rfl)
  induction rounds generalizing acc c with
  | zero =>
      rcases hrounds with hE | hlt
      · exact Yields.throw hE
      · exact absurd hlt (Nat.not_lt_zero _)
  | succ rounds ih =>
      refine (h.predicts first c).bind ?_
      intro predicted _
      cases predicted with
      | false => exact Yields.pure (hrest _)
      | true =>
          refine hp.here.bind ?_
          intro out hout
          cases out with
          | success a next =>
              have hlt : c.position < next.position := hout.moves rfl hneeds
              have hwithin : next.position ≤ max c.position symbols.length := hout.spans.within
              have hfewer : E .exhausted ∨ symbols.length - next.position < rounds :=
                hrounds.imp_right fun hfew => by omega
              refine (ih (step acc a) next (hp.later (Nat.le_of_lt hlt)) hfewer).mono ?_
              intro out hout'
              exact Rules.keeps_many hout hout'
          | failure e =>
              dsimp only
              split
              · exact Yields.pure ⟨hout.spans, nofun⟩
              · refine (h.recover c e).bind ?_
                intro _ _
                exact Yields.pure (hrest _)

theorem many_yields (h : host.Faithful rules symbols I) (hE : Halt.CoversMisuse E)
    (hs : o.Speaks rules I E p)
    (hp : o.apply.AllowedFrom rules symbols I E sure p c)
    (hrounds : E .exhausted ∨ symbols.length - c.position < rounds) :
    Yields I E (host.many rounds o c) (rules.Allows symbols sure p.many c) := by
  refine (needsSymbol_yields hE hs .many).bind ?_
  intro _ hneeds
  refine hs.firstSet.bind ?_
  intro first _
  exact map_yields (f := List.reverse) (p := p.many)
    (h.roundsWhile_yields first _ [] c hneeds hp hrounds)

theorem skipMany_yields (h : host.Faithful rules symbols I) (hE : Halt.CoversMisuse E)
    (hs : o.Speaks rules I E p)
    (hp : o.apply.AllowedFrom rules symbols I E sure p c)
    (hrounds : E .exhausted ∨ symbols.length - c.position < rounds) :
    Yields I E (host.skipMany rounds o c) (rules.Allows symbols sure p.skipMany c) := by
  refine (needsSymbol_yields hE hs .skipMany).bind ?_
  intro _ hneeds
  refine hs.firstSet.bind ?_
  intro first _
  exact h.roundsWhile_yields first _ () c hneeds hp hrounds

theorem many1_yields (h : host.Faithful rules symbols I) (hE : Halt.CoversMisuse E)
    (hs : o.Speaks rules I E p)
    (hp : o.apply.AllowedFrom rules symbols I E sure p c)
    (hrounds : E .exhausted ∨ symbols.length - c.position < rounds) :
    Yields I E (host.many1 rounds o c) (rules.Allows symbols sure p.many1 c) := by
  refine (needsSymbol_yields hE hs .many1).bind ?_
  intro _ hneeds
  refine hp.here.bind ?_
  intro out hout
  cases out with
  | failure e => exact Yields.pure hout
  | success a next =>
      have hle : c.position ≤ next.position := hout.spans.le
      refine hs.firstSet.bind ?_
      intro first _
      have hfewer : E .exhausted ∨ symbols.length - next.position < rounds :=
        hrounds.imp_right fun hlt => by omega
      have hloop := h.roundsWhile_yields first (fun values a => a :: values) [a] next hneeds
        (hp.later hle) hfewer
      exact map_yields (f := List.reverse) (p := p.many1)
        (hloop.mono fun out hout' => Rules.keeps_many1 hout hout')

theorem timesFrom_yields (h : host.Faithful rules symbols I) (hs : o.Speaks rules I E p)
    (required allowed : Nat) (values : List α) (c : Cursor) (hle : required ≤ allowed)
    (hp : 0 < allowed → o.apply.AllowedFrom rules symbols I E sure p c) :
    Yields I E (host.timesFrom o required allowed values c)
      (rules.Allows symbols sure (.times required allowed p) c) := by
  induction allowed generalizing required values c with
  | zero =>
      have hzero : required = 0 := by omega
      subst hzero
      exact Yields.pure Rules.keeps_times_zero
  | succ allowed ih =>
      refine (h.endsBefore hs c).bind ?_
      intro ends _
      cases ends with
      | true =>
          rw [if_pos rfl]
          by_cases hzero : required = 0
          · rw [if_pos hzero, hzero]
            exact Yields.pure Rules.keeps_times_zero
          · rw [if_neg hzero]
            refine hs.firstSet.bind ?_
            intro set _
            exact Yields.pure Honours.fail
      | false =>
          have hp := hp (Nat.succ_pos allowed)
          refine hp.here.bind ?_
          intro out hout
          cases out with
          | success a next =>
              have hnext : c.position ≤ next.position := hout.spans.le
              have hfewer : required - 1 ≤ allowed := Nat.sub_le_of_le_add hle
              refine (ih (required - 1) (a :: values) next hfewer fun _ => hp.later hnext).mono ?_
              intro out hout'
              exact Rules.keeps_times_right hout hout'
          | failure e =>
              dsimp only
              by_cases hzero : required = 0
              · rw [if_pos hzero, hzero]
                refine (h.recover c e).bind ?_
                intro _ _
                exact Yields.pure Rules.keeps_times_zero
              · rw [if_neg hzero]
                exact Yields.pure (Rules.keeps_times_left hout)

theorem times_yields {min max : Nat} (h : host.Faithful rules symbols I)
    (hE : Halt.CoversMisuse E) (hs : o.Speaks rules I E p) (hle : min ≤ max)
    (hp : 0 < max → o.apply.AllowedFrom rules symbols I E sure p c) :
    Yields I E (host.times min max o c) (rules.Allows symbols sure (.times min max p) c) := by
  have hloop := h.timesFrom_yields hs min max [] c hle hp
  unfold Host.times
  split
  · exact (needsSymbol_yields hE hs .between).bind fun _ _ => hloop
  · exact hloop

theorem manyTillFrom_yields {stop : Parser σ ρ β} (h : host.Faithful rules symbols I)
    (hs : o'.Speaks rules I E stop) (values : List α) (c : Cursor)
    (hneeds : rules.AcceptsEmpty p false)
    (hp : o.apply.AllowedFrom rules symbols I E sure p c)
    (hstop : o'.apply.AllowedFrom rules symbols I E sure stop c)
    (hrounds : E .exhausted ∨ symbols.length - c.position < rounds) :
    Yields I E (host.manyTillFrom o o' rounds values c)
      (rules.Allows symbols sure (.manyTill p stop) c) := by
  induction rounds generalizing values c with
  | zero =>
      rcases hrounds with hE | hlt
      · exact Yields.throw hE
      · exact absurd hlt (Nat.not_lt_zero _)
  | succ rounds ih =>
      have hstopHere := hstop.here
      refine (h.atEnd c).bind ?_
      intro ended hended
      cases ended with
      | true =>
          refine hs.acceptsEmpty.bind ?_
          intro accepts _
          cases accepts with
          | true =>
              refine hstopHere.bind ?_
              intro out hout
              refine Yields.pure ?_
              rw [Rules.Allows, Outcome.succeeds_map, Outcome.position_map]
              exact Rules.keeps_manyTill_stop hout
          | false =>
              refine hs.firstSet.bind ?_
              intro set _
              exact Yields.pure Honours.fail
      | false =>
          refine hstopHere.bind ?_
          intro out hout
          cases out with
          | success b next => exact Yields.pure (Rules.keeps_manyTill_stop hout)
          | failure stopFailure =>
              refine hp.here.bind ?_
              intro out hout'
              cases out with
              | success a next =>
                  have hlt : c.position < next.position := hout'.moves rfl hneeds
                  have hmore : c.position < symbols.length := by
                    rw [← Nat.not_le, ← hended]
                    exact Bool.false_ne_true
                  refine (h.recover c stopFailure).bind ?_
                  intro _ _
                  have hle : c.position ≤ next.position := Nat.le_of_lt hlt
                  have hfewer : E .exhausted ∨ symbols.length - next.position < rounds :=
                    hrounds.imp_right fun hfew => by omega
                  refine (ih (a :: values) next (hp.later hle) (hstop.later hle) hfewer).mono ?_
                  intro out hrest
                  exact Rules.keeps_manyTill_round hout' hrest
              | failure e =>
                  refine Yields.pure ?_
                  change rules.Keeps symbols sure (.manyTill p stop) c.position false
                    (stopFailure.merge e).position
                  rw [Failure.position_merge]
                  exact Rules.keeps_manyTill_fail hout hout'

theorem manyTill_yields {stop : Parser σ ρ β} (h : host.Faithful rules symbols I)
    (hE : Halt.CoversMisuse E) (hps : o.Speaks rules I E p) (hs : o'.Speaks rules I E stop)
    (hp : o.apply.AllowedFrom rules symbols I E sure p c)
    (hstop : o'.apply.AllowedFrom rules symbols I E sure stop c)
    (hrounds : E .exhausted ∨ symbols.length - c.position < rounds) :
    Yields I E (host.manyTill rounds o o' c)
      (rules.Allows symbols sure (.manyTill p stop) c) := by
  refine (needsSymbol_yields hE hps .manyTill).bind ?_
  intro _ hneeds
  exact h.manyTillFrom_yields hs [] c hneeds hp hstop hrounds

/-! ### Chains of operators -/

theorem chainRound_yields {op : Parser σ ρ β} {act : Action St σ α} {opAct : Action St σ β}
    (hop : Yields I E (opAct c) (rules.Allows symbols sure op c))
    (hp : act.AllowedFrom rules symbols I E sure p c) :
    Yields I E (Host.chainRound act opAct c) fun out =>
      Honours symbols (rules.AcceptsEmpty p false) (fun _ => True) c.position out.succeeds
        out.position := by
  refine hop.bind ?_
  intro out hout
  have hspan := hout.spans.mono fun _ _ => trivial
  cases out with
  | failure e => exact Yields.pure ⟨hspan, nofun⟩
  | success f next =>
      have hle : c.position ≤ next.position := hout.spans.le
      refine (hp next hle).bind ?_
      intro out hout'
      refine Yields.pure ?_
      rw [Outcome.succeeds_map, Outcome.position_map]
      refine ⟨hspan.trans (hout'.spans.mono fun _ _ => trivial) fun _ _ hs => hs, ?_⟩
      intro hok hneeds
      have hlt := hout'.moves hok hneeds
      omega

/-- Where the rounds of a chain get to. They end where the rounds are enough, since the operand of
each reads a symbol. -/
theorem chainFrom_yields {op : Parser σ ρ β} {act : Action St σ α} {opAct : Action St σ β}
    (h : host.Faithful rules symbols I) (opEmpty : Bool) (opFirst : SymbolSet σ)
    (pairs : List (β × α)) (c : Cursor)
    (hop : opAct.AllowedFrom rules symbols I E sure op c)
    (hp : act.AllowedFrom rules symbols I E sure p c)
    (hrounds : E .exhausted ∨
      rules.AcceptsEmpty p false ∧ symbols.length - c.position < rounds) :
    Yields I E (host.chainFrom opEmpty opFirst act opAct rounds pairs c) fun out =>
      Spans symbols (fun _ => True) c.position out.position := by
  induction rounds generalizing pairs c with
  | zero =>
      rcases hrounds with hE | ⟨_, hlt⟩
      · exact Yields.throw hE
      · exact absurd hlt (Nat.not_lt_zero _)
  | succ rounds ih =>
      refine (h.chainEnds opEmpty opFirst c).bind ?_
      intro ends _
      cases ends with
      | true => exact Yields.pure Spans.refl
      | false =>
          have hround := chainRound_yields hop.here hp
          refine hround.bind ?_
          intro round hround
          cases round with
          | success pair next =>
              have hle : c.position ≤ next.position := hround.spans.le
              have hwithin : next.position ≤ max c.position symbols.length := hround.spans.within
              have hfewer : E .exhausted ∨
                  rules.AcceptsEmpty p false ∧ symbols.length - next.position < rounds := by
                refine hrounds.imp_right ?_
                rintro ⟨hneeds, hfew⟩
                have hlt : c.position < next.position := hround.moves rfl hneeds
                exact ⟨hneeds, by omega⟩
              refine (ih (pair :: pairs) next (hop.later hle) (hp.later hle) hfewer).mono ?_
              intro out hrest
              exact hround.spans.trans hrest fun _ _ hs => hs
          | failure e =>
              dsimp only
              split
              · exact Yields.pure hround.spans
              · refine (h.recover c e).bind ?_
                intro _ _
                exact Yields.pure Spans.refl

theorem needsOperand_yields (hE : Halt.CoversMisuse E) (hs : o.Speaks rules I E p)
    (opEmpty : Bool) : Yields I E (Host.needsOperand opEmpty o) fun _ => True := by
  cases opEmpty with
  | false => exact Yields.pure trivial
  | true =>
      refine hs.acceptsEmpty.bind ?_
      intro accepts _
      cases accepts with
      | true => exact Yields.throw (hE _)
      | false => exact Yields.pure trivial

theorem chain_yields {side : Side} {op : Parser σ ρ (α → α → α)}
    {oop : Operand St σ (α → α → α)} (h : host.Faithful rules symbols I)
    (hE : Halt.CoversMisuse E) (hps : o.Speaks rules I E p) (hos : oop.Speaks rules I E op)
    (hneeds : ∀ set, sure → rules.FirstSet p set → rules.AcceptsEmpty p false)
    (hop : ∀ next : Cursor, rules.Keeps symbols sure p c.position true next.position →
      oop.apply.AllowedFrom rules symbols I E sure op next)
    (hp : o.apply.AllowedFrom rules symbols I E sure p c)
    (hrounds : E .exhausted ∨
      rules.AcceptsEmpty p false ∧ symbols.length - c.position < rounds) :
    Yields I E (host.chain rounds side o oop c)
      (rules.Allows symbols sure (.chain side p op) c) := by
  refine hp.here.bind ?_
  intro out hout
  cases out with
  | failure e => exact Yields.pure (Rules.keeps_chain_left hout)
  | success first next =>
      have hle : c.position ≤ next.position := hout.spans.le
      refine hos.firstSet.bind ?_
      intro opFirst _
      refine hos.acceptsEmpty.bind ?_
      intro opEmpty _
      refine (needsOperand_yields hE hps opEmpty).bind ?_
      intro _ _
      have hfewer : E .exhausted ∨
          rules.AcceptsEmpty p false ∧ symbols.length - next.position < rounds :=
        hrounds.imp_right fun h => ⟨h.1, by omega⟩
      refine (h.chainFrom_yields (p := p) opEmpty opFirst [] next (hop next hout) (hp.later hle)
        hfewer).bind ?_
      intro out hspan
      refine Yields.pure ?_
      rw [Rules.Allows, Outcome.succeeds_map, Outcome.position_map]
      exact Rules.keeps_chain_right hout hneeds hspan

end Host.Faithful

end PredictiveParsing
