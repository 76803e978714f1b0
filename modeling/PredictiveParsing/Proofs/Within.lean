import PredictiveParsing.Proofs.Combinators
import PredictiveParsing.Proofs.Everywhere

/-!
# Positions stay within what is parsed

A run from a position of the input stays between that position and the end of the input:
a success goes on there, and a failure is there. A failure that says that the input ended
is exactly at its end (`Failure.Within`). Merging two failures keeps this, and so does every
combinator, whatever it does with a failure: return it, relabel it, replace it by one of its
own where it began, or record it and go on.

What is recorded is left to the host: it confines a run if it can keep its invariant `I` with
every failure within the bounds (`Host.Confines`). `I` is kept also by runs that stop with a
fault, so that nothing a run has recorded is missed.

The one parser that can put a failure of any position into the record is `recording`
(`Parser.RecordsNothing`).
-/

namespace PredictiveParsing

variable {σ : Type} {ρ : Nat → Type} {St α β ε : Type}

/-! ### Bounds -/

structure Cursor.Within (lo n : Nat) (c : Cursor) : Prop where
  ge : lo ≤ c.position
  le : c.position ≤ n

/-- The failure is between two positions, and at the second one if it says that the input ended. -/
structure Failure.Within (lo n : Nat) (f : Failure σ) : Prop where
  ge : lo ≤ f.position
  le : f.position ≤ n
  atEnd : f.isEndOfInput = true → f.position = n

def Outcome.Within (lo n : Nat) : Outcome σ α → Prop
  | .success _ next => next.Within lo n
  | .failure f => f.Within lo n

variable {lo lo' n : Nat} {c next : Cursor}

namespace Cursor.Within

theorem refl (h : c.position ≤ n) : c.Within c.position n := ⟨Nat.le_refl _, h⟩

theorem here (h : c.Within lo n) : c.Within c.position n := refl h.le

theorem mono (h : c.Within lo n) (hle : lo' ≤ lo) : c.Within lo' n := ⟨Nat.le_trans hle h.ge, h.le⟩

theorem advance (hlt : c.position < n) : c.advance.Within c.position n := ⟨Nat.le_succ _, hlt⟩

end Cursor.Within

namespace Failure

variable {f g : Failure σ}

namespace Within

theorem mono (h : f.Within lo n) (hle : lo' ≤ lo) : f.Within lo' n :=
  ⟨Nat.le_trans hle h.ge, h.le, h.atEnd⟩

/-- A failure at a cursor that says nothing of the end of the input. -/
theorem of_cursor {reason : Reason σ} (h : c.position ≤ n)
    (hreason : Failure.isEndOfInput ⟨c.position, reason⟩ = false) :
    Failure.Within c.position n ⟨c.position, reason⟩ :=
  ⟨Nat.le_refl _, h, fun hend => absurd (hreason.symm.trans hend) Bool.false_ne_true⟩

/-- A failure at a cursor at the end of the input. -/
theorem of_ended {reason : Reason σ} (h : c.position ≤ n) (hend : n ≤ c.position) :
    Failure.Within c.position n ⟨c.position, reason⟩ :=
  ⟨Nat.le_refl _, h, fun _ => Nat.le_antisymm h hend⟩

end Within

/-- Of two failures at one position, one said that the input ended if the two together do. -/
theorem isEndOfInput_merge (hpos : f.position = g.position)
    (h : (f.merge g).isEndOfInput = true) : f.isEndOfInput = true ∨ g.isEndOfInput = true := by
  rcases f with ⟨i, reason⟩
  rcases g with ⟨j, reason'⟩
  change i = j at hpos
  subst hpos
  cases reason with
  | endOfInput a => exact .inl rfl
  | expected a =>
      cases reason' with
      | endOfInput b => exact .inr rfl
      | expected b => simp [merge, Reason.merge, isEndOfInput] at h
      | message m =>
          -- A message gives way to a set, and neither says that the input ended.
          cases hempty : a.isEmpty with
          | true => simp [merge, Reason.merge, isEndOfInput, hempty] at h
          | false => simp [merge, Reason.merge, isEndOfInput, hempty] at h
  | message m =>
      cases reason' with
      | endOfInput b => exact .inr rfl
      | expected b =>
          cases hempty : b.isEmpty with
          | true => simp [merge, Reason.merge, isEndOfInput, hempty] at h
          | false => simp [merge, Reason.merge, isEndOfInput, hempty] at h
      | message m' => simp [merge, Reason.merge, isEndOfInput] at h

theorem Within.merge (hf : f.Within lo n) (hg : g.Within lo n) : (f.merge g).Within lo n := by
  have hpos := position_merge f g
  refine ⟨?_, ?_, ?_⟩
  · rw [hpos]
    exact Nat.le_trans hf.ge (Nat.le_max_left _ _)
  · rw [hpos]
    exact Nat.max_le.mpr ⟨hf.le, hg.le⟩
  · intro hend
    have hfle := hf.le
    have hgle := hg.le
    by_cases hgf : g.position < f.position
    · have hmerge : f.merge g = f := if_pos hgf
      rw [hmerge] at hend ⊢
      exact hf.atEnd hend
    · by_cases hfg : f.position < g.position
      · have hmerge : f.merge g = g := (if_neg hgf).trans (if_pos hfg)
        rw [hmerge] at hend ⊢
        exact hg.atEnd hend
      · rw [hpos]
        rcases isEndOfInput_merge (by omega) hend with h | h
        · have := hf.atEnd h
          omega
        · have := hg.atEnd h
          omega

end Failure

namespace Outcome.Within

theorem mono {out : Outcome σ α} (h : out.Within lo n) (hle : lo' ≤ lo) : out.Within lo' n := by
  cases out with
  | success a next => exact Cursor.Within.mono h hle
  | failure f => exact Failure.Within.mono h hle

theorem map {out : Outcome σ α} (f : α → β) (h : out.Within lo n) : (out.map f).Within lo n := by
  cases out with
  | success a next => exact h
  | failure f => exact h

end Outcome.Within

/-! ### Hosts -/

/-- In a state with `I`, the input ends at `n`, and `I` stays whatever is asked. -/
structure Host.Ends (host : Host σ ρ St) (n : Nat) (I : St → Prop) : Prop where
  symbolAt : ∀ i st, I st → ((host.symbolAt i st).1 = none ↔ n ≤ i) ∧ I (host.symbolAt i st).2
  acceptsEmpty : ∀ {α : Type} (p : Parser σ ρ α), Maintains I (host.acceptsEmpty p) fun _ => True
  firstSet : ∀ {α : Type} (p : Parser σ ρ α), Maintains I (host.firstSet p) fun _ => True

/-- `I` stays also when failures within the bounds are recorded. -/
structure Host.Confines (host : Host σ ρ St) (lo n : Nat) (I : St → Prop) : Prop
    extends host.Ends n I where
  recover : ∀ c f, f.Within lo n → Maintains I (host.recover c f) fun _ => True

/-- From a cursor within the bounds, the action stays between the cursor and the end. -/
def Action.Confined (act : Action St σ α) (lo n : Nat) (I : St → Prop) : Prop :=
  ∀ c, c.Within lo n → Maintains I (act c) (Outcome.Within c.position n)

structure Operand.Confined (o : Operand St σ α) (lo n : Nat) (I : St → Prop) : Prop where
  acceptsEmpty : Maintains I o.acceptsEmpty fun _ => True
  firstSet : Maintains I o.firstSet fun _ => True
  apply : o.apply.Confined lo n I

theorem Inquiry.act_maintains {q : Inquiry St α} {I : St → Prop} {r : α → Prop}
    (h : Maintains I q r) : Maintains I q.act r := by
  intro st hI
  have hst := h st hI
  unfold Inquiry.act
  cases hq : q st with
  | ok a st' =>
      rw [hq] at hst
      exact hst
  | error e st' =>
      rw [hq] at hst
      exact hst

namespace Action.Confined

variable {act : Action St σ α} {I : St → Prop}

theorem later (h : act.Confined lo n I) (hc : c.Within lo n) (hnext : next.Within c.position n) :
    Maintains I (act next) (Outcome.Within c.position n) :=
  (h next (hnext.mono hc.ge)).mono fun _ hout => hout.mono hnext.ge

/-- Where failures are passed on, only the successes are left to look at. -/
theorem forward (h : act.Confined lo n I) (hc : c.Within lo n)
    {rest : Outcome σ α → Act St (Outcome σ β)}
    (hfailure : ∀ f, rest (.failure f) = pure (.failure f))
    (hsuccess : ∀ a next, next.Within c.position n →
      Maintains I (rest (.success a next)) (Outcome.Within c.position n)) :
    Maintains I (act c >>= rest) (Outcome.Within c.position n) := by
  refine (h c hc).bind ?_
  intro out hout
  cases out with
  | failure f =>
      rw [hfailure]
      exact Maintains.pure hout
  | success a next => exact hsuccess a next hout

end Action.Confined

/-! ### Decisions -/

namespace Host.Ends

variable {host : Host σ ρ St} {I : St → Prop}

theorem current (h : host.Ends n I) (c : Cursor) :
    Maintains I (host.current c) fun symbol => symbol = none ↔ n ≤ c.position :=
  fun st hI => h.symbolAt c.position st hI

theorem atEnd (h : host.Ends n I) (c : Cursor) :
    Maintains I (host.atEnd c) fun ended => ended = true ↔ n ≤ c.position := by
  refine (h.current c).bind ?_
  intro symbol hsymbol
  refine Maintains.pure ?_
  rw [Option.isNone_iff_eq_none]
  exact hsymbol

end Host.Ends

namespace Host.Confines

variable {host : Host σ ρ St} {I : St → Prop}

theorem predicts [BEq σ] (h : host.Confines lo n I) (first : SymbolSet σ) (c : Cursor) :
    Maintains I (host.predicts first c) fun _ => True := by
  refine (h.current c).bind ?_
  intro symbol _
  cases symbol with
  | none => exact Maintains.pure trivial
  | some s => exact Maintains.pure trivial

theorem chainEnds [BEq σ] (h : host.Confines lo n I) (opEmpty : Bool) (opFirst : SymbolSet σ)
    (c : Cursor) : Maintains I (host.chainEnds opEmpty opFirst c) fun _ => True := by
  unfold Host.chainEnds
  cases opEmpty with
  | true => exact Maintains.pure trivial
  | false =>
      refine (h.predicts opFirst c).bind ?_
      intro b _
      exact Maintains.pure trivial

theorem operand (h : host.Confines lo n I) (p : Parser σ ρ α) {act : Action St σ α}
    (hact : act.Confined lo n I) : (Parser.run.operand host p act).Confined lo n I :=
  ⟨Inquiry.act_maintains (h.acceptsEmpty p), Inquiry.act_maintains (h.firstSet p), hact⟩

variable {o : Operand St σ α} {o' : Operand St σ β}

theorem endsBefore (h : host.Confines lo n I) (ho : o.Confined lo n I) (c : Cursor) :
    Maintains I (host.endsBefore o c) fun ends => ends = true → n ≤ c.position := by
  refine (h.atEnd c).bind ?_
  intro ended hended
  cases ended with
  | false => exact Maintains.pure nofun
  | true =>
      refine ho.acceptsEmpty.bind ?_
      intro b _
      exact Maintains.pure fun _ => hended.mp rfl

theorem needsSymbol (ho : o.Confined lo n I) (repetition : Repetition) :
    Maintains I (Host.needsSymbol repetition o) fun _ => True := by
  refine ho.acceptsEmpty.bind ?_
  intro b _
  cases b with
  | true => exact Maintains.throw
  | false => exact Maintains.pure trivial

theorem needsOperand (ho : o.Confined lo n I) (opEmpty : Bool) :
    Maintains I (Host.needsOperand opEmpty o) fun _ => True := by
  cases opEmpty with
  | false => exact Maintains.pure trivial
  | true =>
      refine ho.acceptsEmpty.bind ?_
      intro b _
      cases b with
      | true => exact Maintains.throw
      | false => exact Maintains.pure trivial

/-- A failure at the end of the input names what the parser begins on. -/
theorem failAtEnd (ho : o.Confined lo n I) (hc : c.position ≤ n) (hend : n ≤ c.position) :
    Maintains I (do return (.failure ⟨c.position, .endOfInput (← o.firstSet)⟩ : Outcome σ β))
      (Outcome.Within c.position n) := by
  refine ho.firstSet.bind ?_
  intro set _
  exact Maintains.pure (Failure.Within.of_ended hc hend)

/-- What was recovered from is recorded, and the run goes on. -/
theorem recover_bind (h : host.Confines lo n I) (hc : c.Within lo n) {f : Failure σ}
    (hf : f.Within c.position n) {rest : Act St α} {q : α → Prop} (hrest : Maintains I rest q) :
    Maintains I (do host.recover c f; rest) q := by
  refine (h.recover c f (hf.mono hc.ge)).bind ?_
  intro _ _
  exact hrest

/-! ### Symbols -/

theorem eof (h : host.Confines lo n I) : host.eof.Confined lo n I := by
  intro c hc
  refine (h.atEnd c).bind ?_
  intro ended _
  cases ended with
  | true => exact Maintains.pure hc.here
  | false => exact Maintains.pure (Failure.Within.of_cursor hc.le rfl)

theorem satisfy [BEq σ] (h : host.Confines lo n I) (set : SymbolSet σ) :
    (host.satisfy set).Confined lo n I := by
  intro c hc
  refine (h.current c).bind ?_
  intro symbol hsymbol
  cases symbol with
  | none => exact Maintains.pure (Failure.Within.of_ended hc.le (hsymbol.mp rfl))
  | some s =>
      have hlt : c.position < n := Nat.lt_of_not_le fun hle => nomatch hsymbol.mpr hle
      dsimp only
      by_cases hs : set.contains s = true
      · rw [if_pos hs]
        exact Maintains.pure (Cursor.Within.advance hlt)
      · rw [if_neg hs]
        exact Maintains.pure (Failure.Within.of_cursor hc.le rfl)

theorem expectEach [BEq σ] (h : host.Confines lo n I) (want : List σ) (hc : c.position ≤ n) :
    Maintains I (host.expectEach want c) fun next? =>
      ∀ next, next? = some next → next.Within c.position n := by
  induction want generalizing c with
  | nil =>
      refine Maintains.pure ?_
      intro next hnext
      cases hnext
      exact .refl hc
  | cons w want ih =>
      refine (h.current c).bind ?_
      intro symbol hsymbol
      cases symbol with
      | none => exact Maintains.pure nofun
      | some s =>
          have hlt : c.position < n := Nat.lt_of_not_le fun hle => nomatch hsymbol.mpr hle
          dsimp only
          by_cases hs : (s == w) = true
          · rw [if_pos hs]
            refine (ih (c := c.advance) hlt).mono ?_
            intro next? hnext next hsome
            exact (hnext next hsome).mono (Nat.le_succ _)
          · rw [if_neg hs]
            exact Maintains.pure nofun

theorem literal [BEq σ] (h : host.Confines lo n I) (name : String) (first : σ) (rest : List σ) :
    (host.literal name first rest).Confined lo n I := by
  intro c hc
  refine (h.expectEach (first :: rest) hc.le).bind ?_
  intro next? hnext
  cases next? with
  | some next => exact Maintains.pure (hnext next rfl)
  | none =>
      refine (h.atEnd c).bind ?_
      intro ended hended
      cases ended with
      | true => exact Maintains.pure (Failure.Within.of_ended hc.le (hended.mp rfl))
      | false => exact Maintains.pure (Failure.Within.of_cursor hc.le rfl)

/-- The longest match ends where the best one so far does, and without one the failure is at the
beginning. -/
theorem longestMatch (r : Recognizer σ) {start : Cursor} (hstart : start.position ≤ n)
    (read : List σ) {best : Option (Nat × Cursor)}
    (hbest : ∀ b, best = some b → b.2.Within start.position n) :
    (r.outcome start read best).Within start.position n := by
  cases best with
  | some b => exact hbest b rfl
  | none => exact Failure.Within.of_cursor hstart rfl

/-- The longest match so far ends between the beginning and the cursor, and so does the one that is
found. -/
theorem longestFrom (h : host.Confines lo n I) (r : Recognizer σ) {start : Cursor}
    (hstart : start.position ≤ n) (rounds : Nat) (state : r.State) (read : List σ) (width : Nat)
    (best : Option (Nat × Cursor)) (hc : c.Within start.position n)
    (hbest : ∀ b, best = some b → b.2.Within start.position n) :
    Maintains I (host.longestFrom r start rounds state read width best c)
      (Outcome.Within start.position n) := by
  induction rounds generalizing state read width best c with
  | zero => exact Maintains.throw
  | succ rounds ih =>
      have hread : ∀ b : Nat × Cursor, some (width, c) = some b → b.2.Within start.position n := by
        intro b hb
        cases hb
        exact hc
      refine (h.current c).bind ?_
      intro symbol hsymbol
      cases symbol with
      | none =>
          refine Maintains.pure (longestMatch r hstart read ?_)
          cases r.matchesAtEnd state with
          | true => exact hread
          | false => exact hbest
      | some s =>
          have hlt : c.position < n := Nat.lt_of_not_le fun hle => nomatch hsymbol.mpr hle
          have hbest' : ∀ b, (if r.matchesBefore state s = true then some (width, c) else best) =
              some b → b.2.Within start.position n := by
            cases r.matchesBefore state s with
            | true => exact hread
            | false => exact hbest
          dsimp only
          cases r.step state s with
          | live state' => exact ih state' _ _ _ ((Cursor.Within.advance hlt).mono hc.ge) hbest'
          | dead => exact Maintains.pure (longestMatch r hstart read hbest')
          | quit => exact Maintains.pure ((Failure.Within.of_cursor hc.le rfl).mono hc.ge)

theorem longest (h : host.Confines lo n I) (rounds : Nat) (r : Recognizer σ) :
    (host.longest rounds r).Confined lo n I :=
  fun _ hc => h.longestFrom r hc.le rounds r.start [] 0 none hc.here nofun

/-! ### One parser after another -/

theorem map {act : Action St σ α} (f : α → β) (hact : act.Confined lo n I) :
    Action.Confined (fun c => do return (← act c).map f) lo n I := by
  intro c hc
  refine (hact c hc).bind ?_
  intro out hout
  exact Maintains.pure (hout.map f)

theorem tryMap (ho : o.Confined lo n I) (f : α → Except String β) :
    (Host.tryMap f o).Confined lo n I := by
  intro c hc
  refine ho.apply.forward hc (fun _ => rfl) ?_
  intro a next hnext
  dsimp only
  cases f a with
  | ok b => exact Maintains.pure hnext
  | error message => exact Maintains.pure (Failure.Within.of_cursor hc.le rfl)

theorem and (h : host.Confines lo n I) (hp : o.Confined lo n I) (hq : o'.Confined lo n I) :
    (host.and o o').Confined lo n I := by
  intro c hc
  refine hp.apply.forward hc (fun _ => rfl) ?_
  intro a next hnext
  refine (h.endsBefore hq next).bind ?_
  intro ends hends
  cases ends with
  | true => exact (failAtEnd hq hnext.le (hends rfl)).mono fun _ hout => hout.mono hnext.ge
  | false =>
      refine (hq.apply.later hc hnext).bind ?_
      intro out hout
      cases out with
      | failure e => exact Maintains.pure hout
      | success b next' => exact Maintains.pure hout

theorem flatMap {k : α → Action St σ β} (ho : o.Confined lo n I)
    (hk : ∀ a, (k a).Confined lo n I) : (Host.flatMap o k).Confined lo n I := by
  intro c hc
  refine ho.apply.forward hc (fun _ => rfl) ?_
  intro a next hnext
  exact (hk a).later hc hnext

theorem sequenceFrom (h : host.Confines lo n I) (os : List (Operand St σ α))
    (hos : ∀ o ∈ os, o.Confined lo n I) (values : List α) (hc : c.Within lo n) :
    Maintains I (host.sequenceFrom values c os) (Outcome.Within c.position n) := by
  induction os generalizing values c with
  | nil => exact Maintains.pure hc.here
  | cons o os ih =>
      have ho := hos o List.mem_cons_self
      refine (h.endsBefore ho c).bind ?_
      intro ends hends
      cases ends with
      | true => exact failAtEnd ho hc.le (hends rfl)
      | false =>
          refine ho.apply.forward hc (fun _ => rfl) ?_
          intro a next hnext
          refine (ih (fun o ho => hos o (List.mem_cons_of_mem _ ho)) _ (hnext.mono hc.ge)).mono ?_
          exact fun _ hout => hout.mono hnext.ge

/-! ### Alternatives -/

theorem orElse (h : host.Confines lo n I) (hc : c.Within lo n) {left : Failure σ}
    {out : Outcome σ α} (hleft : left.Within c.position n) (hout : out.Within c.position n) :
    Maintains I (host.orElse c left out) (Outcome.Within c.position n) := by
  cases out with
  | success a next => exact h.recover_bind hc hleft (Maintains.pure hout)
  | failure right => exact Maintains.pure (Failure.Within.merge hleft hout)

theorem or {o o' : Operand St σ α} (h : host.Confines lo n I) (hp : o.Confined lo n I)
    (hq : o'.Confined lo n I) : (host.or o o').Confined lo n I := by
  intro c hc
  refine (h.atEnd c).bind ?_
  intro ended hended
  cases ended with
  | true =>
      refine hq.acceptsEmpty.bind ?_
      intro rightAccepts _
      refine hp.acceptsEmpty.bind ?_
      intro leftAccepts _
      cases leftAccepts with
      | true =>
          refine (hp.apply c hc).bind ?_
          intro out hout
          cases out with
          | success a next => exact Maintains.pure hout
          | failure left =>
              cases rightAccepts with
              | true =>
                  refine (hq.apply c hc).bind ?_
                  intro out' hout'
                  exact h.orElse hc hout hout'
              | false => exact Maintains.pure hout
      | false =>
          cases rightAccepts with
          | true => exact hq.apply c hc
          | false =>
              refine hp.firstSet.bind ?_
              intro left _
              refine hq.firstSet.bind ?_
              intro right _
              exact Maintains.pure (Failure.Within.of_ended hc.le (hended.mp rfl))
  | false =>
      refine (hp.apply c hc).bind ?_
      intro out hout
      cases out with
      | success a next => exact Maintains.pure hout
      | failure left =>
          refine (hq.apply c hc).bind ?_
          intro out' hout'
          exact h.orElse hc hout hout'

theorem optional (h : host.Confines lo n I) (ho : o.Confined lo n I) :
    (host.optional o).Confined lo n I := by
  intro c hc
  refine (h.endsBefore ho c).bind ?_
  intro ends _
  cases ends with
  | true => exact Maintains.pure hc.here
  | false =>
      refine (ho.apply c hc).bind ?_
      intro out hout
      cases out with
      | success a next => exact Maintains.pure hout
      | failure e => exact h.recover_bind hc hout (Maintains.pure hc.here)

/-- A label leaves the position of a failure and whether the input ended there. -/
theorem label [BEq σ] (ho : o.Confined lo n I) (name : String) :
    (Host.label name o).Confined lo n I := by
  intro c hc
  refine (ho.apply c hc).bind ?_
  intro out hout
  cases out with
  | success a next => exact Maintains.pure hout
  | failure e =>
      dsimp only
      split
      · exact Maintains.pure hout
      · refine ho.firstSet.bind ?_
        intro set _
        cases hend : e.isEndOfInput with
        | true => exact Maintains.pure ⟨hout.ge, hout.le, fun _ => hout.atEnd hend⟩
        | false => exact Maintains.pure ⟨hout.ge, hout.le, nofun⟩

/-! ### Looking without reading -/

theorem lookahead (ho : o.Confined lo n I) : (Host.lookahead o).Confined lo n I := by
  intro c hc
  refine (ho.apply c hc).bind ?_
  intro out hout
  cases out with
  | success a next => exact Maintains.pure hc.here
  | failure e => exact Maintains.pure hout

theorem not (ho : o.Confined lo n I) : (Host.not o).Confined lo n I := by
  intro c hc
  refine (ho.apply c.untracked ⟨hc.ge, hc.le⟩).bind ?_
  intro out _
  cases out with
  | success a next => exact Maintains.pure (Failure.Within.of_cursor hc.le rfl)
  | failure e => exact Maintains.pure hc.here

/-! ### Repetition -/

section Rounds

variable [BEq σ] {act : Action St σ α} {op : Action St σ β}

theorem roundsWhile (h : host.Confines lo n I) (first : SymbolSet σ) (hact : act.Confined lo n I)
    (step : β → α → β) (rounds : Nat) (acc : β) (hc : c.Within lo n) :
    Maintains I (host.roundsWhile first act step rounds acc c) (Outcome.Within c.position n) := by
  induction rounds generalizing acc c with
  | zero => exact Maintains.throw
  | succ rounds ih =>
      refine (h.predicts first c).bind ?_
      intro goes _
      cases goes with
      | false => exact Maintains.pure hc.here
      | true =>
          refine (hact c hc).bind ?_
          intro out hout
          cases out with
          | success a next =>
              exact (ih _ (Cursor.Within.mono hout hc.ge)).mono fun _ h => h.mono hout.ge
          | failure e =>
              dsimp only
              split
              · exact Maintains.pure hout
              · exact h.recover_bind hc hout (Maintains.pure hc.here)

theorem many (h : host.Confines lo n I) (ho : o.Confined lo n I) (rounds : Nat) :
    (host.many rounds o).Confined lo n I := by
  intro c hc
  refine (needsSymbol ho .many).bind ?_
  intro _ _
  refine ho.firstSet.bind ?_
  intro first _
  refine (h.roundsWhile first ho.apply _ rounds [] hc).bind ?_
  intro out hout
  exact Maintains.pure (hout.map _)

theorem many1 (h : host.Confines lo n I) (ho : o.Confined lo n I) (rounds : Nat) :
    (host.many1 rounds o).Confined lo n I := by
  intro c hc
  refine (needsSymbol ho .many1).bind ?_
  intro _ _
  refine ho.apply.forward hc (fun _ => rfl) ?_
  intro a next hnext
  refine ho.firstSet.bind ?_
  intro first _
  refine (h.roundsWhile first ho.apply _ rounds [a] (hnext.mono hc.ge)).bind ?_
  intro out hout
  exact Maintains.pure ((hout.mono hnext.ge).map _)

theorem skipMany (h : host.Confines lo n I) (ho : o.Confined lo n I) (rounds : Nat) :
    (host.skipMany rounds o).Confined lo n I := by
  intro c hc
  refine (needsSymbol ho .skipMany).bind ?_
  intro _ _
  refine ho.firstSet.bind ?_
  intro first _
  exact h.roundsWhile first ho.apply _ rounds () hc

omit [BEq σ] in
theorem timesFrom (h : host.Confines lo n I) (ho : o.Confined lo n I) (required allowed : Nat)
    (values : List α) (hc : c.Within lo n) :
    Maintains I (host.timesFrom o required allowed values c) (Outcome.Within c.position n) := by
  induction allowed generalizing required values c with
  | zero =>
      unfold Host.timesFrom
      exact Maintains.pure hc.here
  | succ allowed ih =>
      unfold Host.timesFrom
      refine (h.endsBefore ho c).bind ?_
      intro ends hends
      cases ends with
      | true =>
          rw [if_pos rfl]
          by_cases hrequired : required = 0
          · rw [if_pos hrequired]
            exact Maintains.pure hc.here
          · rw [if_neg hrequired]
            exact failAtEnd ho hc.le (hends rfl)
      | false =>
          rw [if_neg Bool.false_ne_true]
          refine (ho.apply c hc).bind ?_
          intro out hout
          cases out with
          | success a next =>
              exact (ih _ _ (Cursor.Within.mono hout hc.ge)).mono fun _ h => h.mono hout.ge
          | failure e =>
              dsimp only
              by_cases hrequired : required = 0
              · rw [if_pos hrequired]
                exact h.recover_bind hc hout (Maintains.pure hc.here)
              · rw [if_neg hrequired]
                exact Maintains.pure hout

omit [BEq σ] in
theorem times (h : host.Confines lo n I) (ho : o.Confined lo n I) (min max : Nat) :
    (host.times min max o).Confined lo n I := by
  intro c hc
  unfold Host.times
  split
  · refine (needsSymbol ho .between).bind ?_
    intro _ _
    exact h.timesFrom ho min max [] hc
  · exact h.timesFrom ho min max [] hc

omit [BEq σ] in
theorem manyTillFrom (h : host.Confines lo n I) (hp : o.Confined lo n I) (hs : o'.Confined lo n I)
    (rounds : Nat) (values : List α) (hc : c.Within lo n) :
    Maintains I (host.manyTillFrom o o' rounds values c) (Outcome.Within c.position n) := by
  induction rounds generalizing values c with
  | zero => exact Maintains.throw
  | succ rounds ih =>
      refine (h.atEnd c).bind ?_
      intro ended hended
      cases ended with
      | true =>
          refine hs.acceptsEmpty.bind ?_
          intro accepts _
          cases accepts with
          | true => exact map _ hs.apply c hc
          | false => exact failAtEnd hs hc.le (hended.mp rfl)
      | false =>
          refine (hs.apply c hc).bind ?_
          intro out hout
          cases out with
          | success b next => exact Maintains.pure hout
          | failure stopFailure =>
              refine (hp.apply c hc).bind ?_
              intro out' hout'
              cases out' with
              | success a next =>
                  refine h.recover_bind hc hout ?_
                  exact (ih _ (Cursor.Within.mono hout' hc.ge)).mono fun _ h => h.mono hout'.ge
              | failure e => exact Maintains.pure (Failure.Within.merge hout hout')

omit [BEq σ] in
theorem manyTill (h : host.Confines lo n I) (hp : o.Confined lo n I) (hs : o'.Confined lo n I)
    (rounds : Nat) : (host.manyTill rounds o o').Confined lo n I := by
  intro c hc
  refine (needsSymbol hp .manyTill).bind ?_
  intro _ _
  exact h.manyTillFrom hp hs rounds [] hc

/-! ### Chains of operators -/

omit [BEq σ] in
theorem chainRound (hact : act.Confined lo n I) (hop : op.Confined lo n I) :
    (Host.chainRound act op).Confined lo n I := by
  intro c hc
  refine hop.forward hc (fun _ => rfl) ?_
  intro f next hnext
  refine (hact.later hc hnext).bind ?_
  intro out hout
  exact Maintains.pure (hout.map _)

theorem chainFrom (h : host.Confines lo n I) (opEmpty : Bool) (opFirst : SymbolSet σ)
    (hact : act.Confined lo n I) (hop : op.Confined lo n I) (rounds : Nat)
    (pairs : List (β × α)) (hc : c.Within lo n) :
    Maintains I (host.chainFrom opEmpty opFirst act op rounds pairs c)
      (Outcome.Within c.position n) := by
  induction rounds generalizing pairs c with
  | zero => exact Maintains.throw
  | succ rounds ih =>
      refine (h.chainEnds opEmpty opFirst c).bind ?_
      intro ends _
      cases ends with
      | true => exact Maintains.pure hc.here
      | false =>
          refine (chainRound hact hop c hc).bind ?_
          intro out hout
          cases out with
          | success pair next =>
              exact (ih _ (Cursor.Within.mono hout hc.ge)).mono fun _ h => h.mono hout.ge
          | failure e =>
              dsimp only
              split
              · exact Maintains.pure hout
              · exact h.recover_bind hc hout (Maintains.pure hc.here)

theorem chain {op : Operand St σ (α → α → α)} (h : host.Confines lo n I)
    (ho : o.Confined lo n I) (hop : op.Confined lo n I) (rounds : Nat) (side : Side) :
    (host.chain rounds side o op).Confined lo n I := by
  intro c hc
  refine ho.apply.forward hc (fun _ => rfl) ?_
  intro first next hnext
  refine hop.firstSet.bind ?_
  intro opFirst _
  refine hop.acceptsEmpty.bind ?_
  intro opEmpty _
  refine (needsOperand ho opEmpty).bind ?_
  intro _ _
  refine (h.chainFrom opEmpty opFirst ho.apply hop.apply rounds [] (hnext.mono hc.ge)).bind ?_
  intro out hout
  exact Maintains.pure ((hout.mono hnext.ge).map _)

end Rounds

end Host.Confines

/-! ### Runs -/

/-- The parser puts no failure from outside into the record. -/
def Parser.RecordsNothing : (α : Type) → Parser σ ρ α → Prop
  | _, .recording .. => False
  | _, _ => True

theorem Parser.IsPremade.recordsNothing {p : Parser σ ρ α} (h : Parser.IsPremade α p) :
    Parser.RecordsNothing α p := by
  cases p with
  | recording => cases h
  | pure | fail | eof | satisfy | literal | longest | rule | map | tryMap | and | or | flatMap
  | label | lookahead | not | optional | sequence | times | many | many1 | skipMany | manyTill
  | chain | declared => exact trivial

variable [BEq σ] {host : Host σ ρ St} {I : St → Prop}

def Host.RecordsFreely (host : Host σ ρ St) (I : St → Prop) : Prop :=
  ∀ c f, Maintains I (host.recover c f) fun _ => True

theorem Parser.run_confined (h : host.Confines lo n I) {rule : (i : Nat) → Action St σ (ρ i)}
    (hrule : ∀ i, (rule i).Confined lo n I) (rounds : Nat) (p : Parser σ ρ α)
    (hp : p.Everywhere fun α q => RecordsNothing α q ∨ host.RecordsFreely I) :
    (p.run host rule rounds).Confined lo n I := by
  induction p with
  | pure a => exact fun c hc => Maintains.pure hc.here
  | fail message =>
      cases message with
      | none => exact fun c hc => Maintains.pure (Failure.Within.of_cursor hc.le rfl)
      | some message => exact fun c hc => Maintains.pure (Failure.Within.of_cursor hc.le rfl)
  | eof => exact h.eof
  | satisfy set => exact h.satisfy set
  | literal name first rest => exact h.literal name first rest
  | longest r => exact h.longest rounds r
  | map f p ih => exact Host.Confines.map f (ih hp.2)
  | tryMap f p ih => exact Host.Confines.tryMap (h.operand p (ih hp.2)) f
  | and p q ihp ihq => exact h.and (h.operand p (ihp hp.2.1)) (h.operand q (ihq hp.2.2))
  | or p q ihp ihq => exact h.or (h.operand p (ihp hp.2.1)) (h.operand q (ihq hp.2.2))
  | flatMap p k ihp ihk =>
      exact Host.Confines.flatMap (h.operand p (ihp hp.2.1)) fun a => ihk a (hp.2.2 a)
  | label name p ih => exact Host.Confines.label (h.operand p (ih hp.2)) name
  | lookahead p ih => exact Host.Confines.lookahead (h.operand p (ih hp.2))
  | not p ih => exact Host.Confines.not (h.operand p (ih hp.2))
  | optional p ih => exact h.optional (h.operand p (ih hp.2))
  | sequence ps ih =>
      refine fun c hc => h.sequenceFrom _ ?_ [] hc
      intro o ho
      obtain ⟨i, rfl⟩ := List.mem_ofFn.mp ho
      exact h.operand (ps i) (ih i (hp.2 i))
  | many p ih => exact h.many (h.operand p (ih hp.2)) rounds
  | many1 p ih => exact h.many1 (h.operand p (ih hp.2)) rounds
  | skipMany p ih => exact h.skipMany (h.operand p (ih hp.2)) rounds
  | times min max p ih => exact h.times (h.operand p (ih hp.2)) min max
  | manyTill p stop ihp ihs =>
      exact h.manyTill (h.operand p (ihp hp.2.1)) (h.operand stop (ihs hp.2.2)) rounds
  | chain side operand op ihp iho =>
      exact h.chain (h.operand operand (ihp hp.2.1)) (h.operand op (iho hp.2.2)) rounds side
  | declared _ _ p ih => exact ih hp.2
  | recording f p ih =>
      intro c hc
      refine (hp.1.resolve_left id c f).bind ?_
      intro _ _
      exact ih hp.2 c hc
  | rule i => exact hrule i

namespace Rules

variable {rules : Rules σ ρ} {p : Parser σ ρ α}

theorem apply_confined_of_or (h : host.Confines lo n I)
    (hp : rules.Throughout (fun α q => Parser.RecordsNothing α q ∨ host.RecordsFreely I) p)
    (budget : Nat) : (rules.apply host budget p).Confined lo n I := by
  have hall : ∀ {β : Type} (q : Parser σ ρ β),
      q.Everywhere (fun α q => Parser.RecordsNothing α q ∨ host.RecordsFreely I) →
      (rules.apply host budget q).Confined lo n I := by
    induction budget with
    | zero => exact fun _ _ _ _ => Maintains.throw
    | succ budget ih =>
        intro β q hq
        refine Parser.run_confined h ?_ budget q hq
        intro i
        cases hi : rules.body? i with
        | none => exact fun _ _ => Maintains.throw
        | some body => exact ih body (hp.body i body hi)
  exact hall p hp.start

theorem apply_confined (h : host.Confines lo n I) (hp : rules.Throughout Parser.RecordsNothing p)
    (budget : Nat) : (rules.apply host budget p).Confined lo n I :=
  apply_confined_of_or h (hp.mono fun _ _ => .inl) budget

/-- Where any failure can be recorded, any parser stays within the bounds. -/
theorem apply_confined_of_recordsFreely (h : host.Confines lo n I) (hfree : host.RecordsFreely I)
    (budget : Nat) (p : Parser σ ρ α) : (rules.apply host budget p).Confined lo n I :=
  apply_confined_of_or h (.of_forall fun _ _ => .inr hfree) budget

omit [BEq σ] in
theorem wholeInput_confined (h : host.Confines lo n I) (c : Cursor) {out : Outcome σ α}
    (hout : out.Within c.position n) :
    Maintains I (wholeInput host c out) (Outcome.Within c.position n) := by
  cases out with
  | failure e => exact Maintains.pure hout
  | success a next =>
      refine (h.atEnd next).bind ?_
      intro ended _
      cases ended with
      | true => exact Maintains.pure ⟨hout.ge, hout.le⟩
      | false => exact Maintains.pure ⟨hout.ge, hout.le, nofun⟩

omit [BEq σ] in
theorem orFurther_within {recovered : Option (Failure σ)} {out : Outcome σ α}
    (hrecovered : ∀ f, recovered = some f → f.Within lo n) (hout : out.Within lo n) :
    (orFurther recovered out).Within lo n := by
  cases out with
  | success a next => exact hout
  | failure e =>
      cases recovered with
      | none => exact hout
      | some f =>
          unfold orFurther
          dsimp only
          split
          · exact hrecovered f rfl
          · exact hout

end Rules

end PredictiveParsing
