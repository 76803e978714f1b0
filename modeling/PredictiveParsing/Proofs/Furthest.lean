import PredictiveParsing.Proofs.Combinators
import PredictiveParsing.Proofs.Noted

/-!
# No failure is lost

A combinator that goes on after a failure records it, and one that replaces failures by
another keeps the furthest position among them. `Settled` is the invariant of a run
behind this: every failure noted lies no further than the record, or no further than a
bound `k` that covers the failures which are still to be dealt with, and the record is
the position of a failure noted. A parser that succeeds leaves `k` as it was, and one that
fails raises it to the position of its failure at most.

The operand of `not` runs on an untracked cursor, from which nothing is recorded, and what
is noted in it is dropped.
-/

namespace PredictiveParsing

variable {σ : Type} {ρ : Nat → Type} {St α β ε : Type}

/-- The host keeps the record that it is given, and changes it on no other occasion. -/
structure Host.Records (host : Host σ ρ St) : Prop where
  symbolAt : ∀ i st, host.recovered (host.symbolAt i st).2 = host.recovered st
  acceptsEmpty : ∀ {α : Type} (p : Parser σ ρ α) r,
    Yields (fun st => host.recovered st = r) (fun _ => True) (host.acceptsEmpty p) fun _ => True
  firstSet : ∀ {α : Type} (p : Parser σ ρ α) r,
    Yields (fun st => host.recovered st = r) (fun _ => True) (host.firstSet p) fun _ => True
  setRecovered : ∀ r st, host.recovered (host.setRecovered r st) = r

/-- Failures noted lie within `k` or the record, those of `pending` are among them, and the record
is the position of one. -/
structure Settled (host : Host σ ρ St) (pending : List (Failure σ)) (k : Nat) (n : Noted σ St) :
    Prop where
  noted : ∀ f ∈ pending, f ∈ n.failures
  bounded : ∀ f ∈ n.failures, f.position ≤ k ∨
    ∃ g, host.recovered n.state = some g ∧ f.position ≤ g.position
  attained : ∀ g, host.recovered n.state = some g → ∃ f ∈ n.failures, f.position = g.position

namespace Settled

variable {host : Host σ ρ St} {pending : List (Failure σ)} {k k' : Nat} {n n' : Noted σ St}
  {f : Failure σ}

theorem mono (h : Settled host pending k n) (hk : k ≤ k') : Settled host pending k' n := by
  refine ⟨h.noted, ?_, h.attained⟩
  intro g hg
  rcases h.bounded g hg with hle | hrecord
  · exact .inl (Nat.le_trans hle hk)
  · exact .inr hrecord

theorem drop (h : Settled host (f :: pending) k n) : Settled host pending k n :=
  ⟨fun g hg => h.noted g (List.mem_cons_of_mem f hg), h.bounded, h.attained⟩

theorem congr (h : Settled host pending k n) (hfailures : n'.failures = n.failures)
    (hrecord : host.recovered n'.state = host.recovered n.state) : Settled host pending k n' := by
  refine ⟨?_, ?_, ?_⟩
  · rw [hfailures]
    exact h.noted
  · rw [hfailures, hrecord]
    exact h.bounded
  · rw [hfailures, hrecord]
    exact h.attained

/-- One more failure is noted, and the bound raised to it. -/
theorem add (h : Settled host pending k n) (hk : k ≤ k') (hf : f.position ≤ k') :
    Settled host (f :: pending) k' ⟨n.state, f :: n.failures⟩ := by
  refine ⟨?_, ?_, ?_⟩
  · intro g hg
    rcases List.mem_cons.mp hg with rfl | hg
    · exact List.mem_cons_self
    · exact List.mem_cons_of_mem _ (h.noted g hg)
  · intro g hg
    rcases List.mem_cons.mp hg with rfl | hg
    · exact .inl hf
    · exact (h.mono hk).bounded g hg
  · intro g hg
    obtain ⟨f', hf', heq⟩ := h.attained g hg
    exact ⟨f', List.mem_cons_of_mem _ hf', heq⟩

/-- When a pending failure is recorded, the bound need not cover it any longer. -/
theorem record {record : Failure σ} (h : Settled host (f :: pending) (max k f.position) n)
    (hfailures : n'.failures = n.failures) (hrecord : host.recovered n'.state = some record)
    (hf : f.position ≤ record.position)
    (hle : ∀ g, host.recovered n.state = some g → g.position ≤ record.position)
    (hattained : record.position = f.position ∨
      ∃ g, host.recovered n.state = some g ∧ record.position = g.position) :
    Settled host pending k n' := by
  refine ⟨?_, ?_, ?_⟩
  · rw [hfailures]
    exact h.drop.noted
  · intro g hg
    rw [hfailures] at hg
    rcases h.bounded g hg with hmax | ⟨g', hg', hpos⟩
    · by_cases hk : g.position ≤ k
      · exact .inl hk
      · exact .inr ⟨record, hrecord, by omega⟩
    · exact .inr ⟨record, hrecord, Nat.le_trans hpos (hle g' hg')⟩
  · intro g hg
    rw [hrecord] at hg
    cases hg
    rw [hfailures]
    rcases hattained with heq | ⟨g, hg, heq⟩
    · exact ⟨f, h.noted f List.mem_cons_self, heq.symm⟩
    · obtain ⟨f', hf', hpos⟩ := h.attained g hg
      exact ⟨f', hf', hpos.trans heq.symm⟩

end Settled

/-! ### Outcomes -/

/-- What is settled behind a parser: after a success what was before, after a failure with the
bound raised to it. -/
def Ended (host : Host σ ρ St) (pending : List (Failure σ)) (k : Nat) :
    Outcome σ α → Noted σ St → Prop
  | .success _ next, n => next.tracked = true ∧ Settled host pending k n
  | .failure f, n => Settled host pending (max k f.position) n

def Returned (host : Host σ ρ St) (pending : List (Failure σ)) (k : Nat) :
    Outcome σ α → Noted σ St → Prop
  | .success _ next, n => next.tracked = true ∧ Settled host pending k n
  | .failure f, n => Settled host (f :: pending) (max k f.position) n

def Action.Ends (host : Host σ ρ St) (act : Action (Noted σ St) σ α) : Prop :=
  ∀ pending k (c : Cursor), c.tracked = true →
    Ensures (Settled host pending k) (act c) (Ended host pending k) fun _ => True

def Action.Returns (host : Host σ ρ St) (act : Action (Noted σ St) σ α) : Prop :=
  ∀ pending k (c : Cursor), c.tracked = true →
    Ensures (Settled host pending k) (act c) (Returned host pending k) fun _ => True

structure Operand.Settles (host : Host σ ρ St) (o : Operand (Noted σ St) σ α) : Prop where
  acceptsEmpty : ∀ pending k,
    Yields (Settled host pending k) (fun _ => True) o.acceptsEmpty fun _ => True
  firstSet : ∀ pending k,
    Yields (Settled host pending k) (fun _ => True) o.firstSet fun _ => True
  apply : o.apply.Returns host

variable {host : Host σ ρ St} {pending : List (Failure σ)} {k : Nat}

theorem Returned.ended {out : Outcome σ α} {n : Noted σ St}
    (h : Returned host pending k out n) : Ended host pending k out n := by
  cases out with
  | success a next => exact h
  | failure f => exact Settled.drop h

theorem Action.Returns.ends {act : Action (Noted σ St) σ α} (h : act.Returns host) :
    act.Ends host := fun pending k c hc =>
  (h pending k c hc).mono (fun _ hn => hn) (fun _ _ hn => hn.ended) fun _ he => he

/-- A failure that is known to be covered. -/
theorem Ended.of_failure {P : Noted σ St → Prop} {f : Failure σ}
    (h : ∀ n, P n → Settled host pending (max k f.position) n) :
    Ensures P (pure (.failure f) : Act (Noted σ St) (Outcome σ α)) (Ended host pending k)
      fun _ => True :=
  Ensures.pure h

theorem Ended.of_success {P : Noted σ St → Prop} {a : α} {next : Cursor}
    (hnext : next.tracked = true) (h : ∀ n, P n → Settled host pending k n) :
    Ensures P (pure (.success a next) : Act (Noted σ St) (Outcome σ α)) (Ended host pending k)
      fun _ => True :=
  Ensures.pure fun n hn => ⟨hnext, h n hn⟩

/-- A new failure raises the bound. -/
theorem Ended.of_new_failure {f : Failure σ} :
    Ensures (Settled host pending k) (pure (.failure f) : Act (Noted σ St) (Outcome σ α))
      (Ended host pending k) fun _ => True :=
  Ended.of_failure fun _ hn => hn.mono (Nat.le_max_left _ _)

/-- A failure that has been noted is passed on. -/
theorem Ended.of_returned {f : Failure σ} :
    Ensures (Settled host (f :: pending) (max k f.position))
      (pure (.failure f) : Act (Noted σ St) (Outcome σ α)) (Ended host pending k) fun _ => True :=
  Ended.of_failure fun _ hn => hn.drop

theorem Ensures.of_and {q : Prop} {P : St → Prop} {m : EStateM ε St α} {Q : α → St → Prop}
    {E : ε → Prop} (h : q → Ensures P m Q E) : Ensures (fun st => q ∧ P st) m Q E :=
  fun st hst => h hst.1 st hst.2

theorem Yields.bind_ensures {I : St → Prop} {E : ε → Prop} {q : α → Prop} {m : EStateM ε St α}
    {f : α → EStateM ε St β} {Q : β → St → Prop} (h : Yields I E m q)
    (hf : ∀ a, q a → Ensures I (f a) Q E) : Ensures I (m >>= f) Q E :=
  Ensures.bind h fun a => Ensures.of_and (hf a)

/-- Behind a parser whose failures are passed on, only its successes have to be looked at. -/
theorem Action.Returns.forward {act : Action (Noted σ St) σ α} (h : act.Returns host) {c : Cursor}
    (hc : c.tracked = true) {rest : Outcome σ α → Act (Noted σ St) (Outcome σ β)}
    (hfailure : ∀ f, rest (.failure f) = pure (.failure f))
    (hsuccess : ∀ a next, next.tracked = true →
      Ensures (Settled host pending k) (rest (.success a next)) (Ended host pending k)
        fun _ => True) :
    Ensures (Settled host pending k) (act c >>= rest) (Ended host pending k) fun _ => True := by
  refine (h pending k c hc).bind ?_
  intro out
  cases out with
  | failure f =>
      rw [hfailure]
      exact Ended.of_returned
  | success a next => exact Ensures.of_and (hsuccess a next)

/-! ### What a combinator asks and records -/

namespace Host.Records

variable {c : Cursor}

theorem current (h : host.Records) (c : Cursor) :
    Yields (Settled host pending k) (fun _ => True) (host.noted.current c) fun _ => True := by
  intro n hn
  rcases n with ⟨st, failures⟩
  exact ⟨trivial, hn.congr rfl (h.symbolAt c.position st)⟩

theorem atEnd (h : host.Records) (c : Cursor) :
    Yields (Settled host pending k) (fun _ => True) (host.noted.atEnd c) fun _ => True :=
  (h.current c).bind fun _ _ => Yields.pure trivial

theorem predicts [BEq σ] (h : host.Records) (first : SymbolSet σ) (c : Cursor) :
    Yields (Settled host pending k) (fun _ => True) (host.noted.predicts first c)
      fun _ => True := by
  refine (h.current c).bind ?_
  intro symbol _
  cases symbol with
  | none => exact Yields.pure trivial
  | some s => exact Yields.pure trivial

theorem chainEnds [BEq σ] (h : host.Records) (opEmpty : Bool) (opFirst : SymbolSet σ)
    (c : Cursor) :
    Yields (Settled host pending k) (fun _ => True) (host.noted.chainEnds opEmpty opFirst c)
      fun _ => True := by
  cases opEmpty with
  | true => exact Yields.pure trivial
  | false => exact (h.predicts opFirst c).bind fun _ _ => Yields.pure trivial

theorem lift_yields {q : Inquiry St α}
    (h : ∀ r, Yields (fun st => host.recovered st = r) (fun _ => True) q fun _ => True) :
    Yields (Settled host pending k) (fun _ => True) (Noted.lift q : Inquiry (Noted σ St) α)
      fun _ => True := by
  intro n hn
  rcases n with ⟨st, failures⟩
  have hst := h (host.recovered st) st rfl
  unfold Noted.lift
  dsimp only
  cases hq : q st with
  | error e st' => exact trivial
  | ok a st' =>
      rw [hq] at hst
      exact ⟨trivial, hn.congr rfl hst.2⟩

theorem operand_settles (h : host.Records) (p : Parser σ ρ α) {act : Action (Noted σ St) σ α}
    (hact : act.Returns host) : (Parser.run.operand host.noted p act).Settles host :=
  ⟨fun _ _ => Inquiry.act_yields (fun _ => trivial) (lift_yields (h.acceptsEmpty p)),
    fun _ _ => Inquiry.act_yields (fun _ => trivial) (lift_yields (h.firstSet p)), hact⟩

/-- Recording a pending failure takes it off what the bound has to cover. -/
theorem recover (h : host.Records) {f : Failure σ} (hc : c.tracked = true) :
    Ensures (Settled host (f :: pending) (max k f.position)) (host.noted.recover c f)
      (fun _ n => Settled host pending k n) fun _ => True := by
  intro n hn
  unfold Host.recover
  rw [if_pos hc]
  change Settled host pending k ⟨host.setRecovered (some _) n.state, n.failures⟩
  cases hr : host.noted.recovered n with
  | none =>
      refine hn.record rfl (h.setRecovered _ _) (Nat.le_refl _) ?_ (.inl rfl)
      intro g hg
      change host.recovered n.state = none at hr
      rw [hr] at hg
      cases hg
  | some g =>
      change host.recovered n.state = some g at hr
      refine hn.record rfl (h.setRecovered _ _) ?_ ?_ ?_
      · rw [Failure.position_merge]
        exact Nat.le_max_right _ _
      · intro g' hg'
        rw [hr] at hg'
        cases hg'
        rw [Failure.position_merge]
        exact Nat.le_max_left _ _
      · rw [Failure.position_merge]
        rcases Nat.le_total g.position f.position with hle | hle
        · exact .inl (Nat.max_eq_right hle)
        · exact .inr ⟨g, hr, Nat.max_eq_left hle⟩

variable {o : Operand (Noted σ St) σ α} {o' : Operand (Noted σ St) σ β}

theorem endsBefore (h : host.Records) (ho : o.Settles host) (c : Cursor) :
    Yields (Settled host pending k) (fun _ => True) (host.noted.endsBefore o c)
      fun _ => True := by
  refine (h.atEnd c).bind ?_
  intro ended _
  cases ended with
  | false => exact Yields.pure trivial
  | true => exact (ho.acceptsEmpty _ _).bind fun _ _ => Yields.pure trivial

theorem needsSymbol (ho : o.Settles host) (repetition : Repetition) :
    Yields (Settled host pending k) (fun _ => True) (Host.needsSymbol repetition o)
      fun _ => True := by
  refine (ho.acceptsEmpty _ _).bind ?_
  intro accepts _
  cases accepts with
  | true => exact Yields.throw trivial
  | false => exact Yields.pure trivial

theorem needsOperand (ho : o.Settles host) (opEmpty : Bool) :
    Yields (Settled host pending k) (fun _ => True) (Host.needsOperand opEmpty o)
      fun _ => True := by
  cases opEmpty with
  | false => exact Yields.pure trivial
  | true =>
      refine (ho.acceptsEmpty _ _).bind ?_
      intro accepts _
      cases accepts with
      | true => exact Yields.throw trivial
      | false => exact Yields.pure trivial

/-- A failure at the end of the input is a new one. -/
theorem failAtEnd (ho : o.Settles host) (position : Nat) :
    Ensures (Settled host pending k)
      (do return (.failure ⟨position, .endOfInput (← o.firstSet)⟩ : Outcome σ β))
      (Ended host pending k) fun _ => True :=
  (ho.firstSet _ _).bind_ensures fun _ _ => Ended.of_new_failure

/-! ### Symbols -/

theorem eof (h : host.Records) : Action.Ends host host.noted.eof := by
  intro pending k c hc
  refine (h.atEnd c).bind_ensures ?_
  intro ended _
  cases ended with
  | true => exact Ended.of_success hc fun _ hn => hn
  | false => exact Ended.of_new_failure

theorem satisfy [BEq σ] (h : host.Records) (set : SymbolSet σ) :
    Action.Ends host (host.noted.satisfy set) := by
  intro pending k c hc
  refine (h.current c).bind_ensures ?_
  intro symbol _
  cases symbol with
  | none => exact Ended.of_new_failure
  | some s =>
      dsimp only
      cases set.contains s with
      | true => exact Ended.of_success hc fun _ hn => hn
      | false => exact Ended.of_new_failure

theorem expectEach [BEq σ] (h : host.Records) (want : List σ) (hc : c.tracked = true) :
    Yields (Settled host pending k) (fun _ => True) (host.noted.expectEach want c)
      fun next? => ∀ next, next? = some next → next.tracked = true := by
  induction want generalizing c with
  | nil =>
      refine Yields.pure ?_
      intro next hnext
      cases hnext
      exact hc
  | cons w want ih =>
      refine (h.current c).bind ?_
      intro symbol _
      cases symbol with
      | none => exact Yields.pure nofun
      | some s =>
          dsimp only
          cases s == w with
          | true => exact ih hc
          | false => exact Yields.pure nofun

theorem literal [BEq σ] (h : host.Records) (name : String) (first : σ) (rest : List σ) :
    Action.Ends host (host.noted.literal name first rest) := by
  intro pending k c hc
  refine (h.expectEach (first :: rest) hc).bind_ensures ?_
  intro next? hnext
  cases next? with
  | some next => exact Ended.of_success (hnext next rfl) fun _ hn => hn
  | none =>
      refine (h.atEnd c).bind_ensures ?_
      intro ended _
      cases ended with
      | true => exact Ended.of_new_failure
      | false => exact Ended.of_new_failure

/-! ### One after the other -/

theorem map {act : Action (Noted σ St) σ α} (f : α → β) (h : act.Ends host) :
    Action.Ends host fun c => do return (← act c).map f := by
  intro pending k c hc
  refine (h pending k c hc).bind ?_
  intro out
  cases out with
  | success a next => exact Ensures.pure fun _ hn => hn
  | failure e => exact Ensures.pure fun _ hn => hn

theorem tryMap (ho : o.Settles host) (f : α → Except String β) :
    Action.Ends host (Host.tryMap f o) := by
  intro pending k c hc
  refine ho.apply.forward hc (fun _ => rfl) ?_
  intro a next hnext
  dsimp only
  cases f a with
  | ok b => exact Ended.of_success hnext fun _ hn => hn
  | error message => exact Ended.of_new_failure

theorem and (h : host.Records) (hp : o.Settles host) (hq : o'.Settles host) :
    Action.Ends host (host.noted.and o o') := by
  intro pending k c hc
  refine hp.apply.forward hc (fun _ => rfl) ?_
  intro a next hnext
  refine (h.endsBefore hq next).bind_ensures ?_
  intro ends _
  cases ends with
  | true => exact failAtEnd hq next.position
  | false =>
      refine hq.apply.forward hnext (fun _ => rfl) ?_
      intro b next' hnext'
      exact Ended.of_success hnext' fun _ hn => hn

theorem flatMap {act : α → Action (Noted σ St) σ β} (hp : o.Settles host)
    (hact : ∀ a, (act a).Returns host) : Action.Ends host (Host.flatMap o act) := by
  intro pending k c hc
  refine hp.apply.forward hc (fun _ => rfl) ?_
  intro a next hnext
  exact (hact a).ends pending k next hnext

theorem sequenceFrom (h : host.Records) (os : List (Operand (Noted σ St) σ α))
    (ho : ∀ o ∈ os, o.Settles host) (values : List α) (hc : c.tracked = true) :
    Ensures (Settled host pending k) (host.noted.sequenceFrom values c os) (Ended host pending k)
      fun _ => True := by
  induction os generalizing values c with
  | nil => exact Ended.of_success hc fun _ hn => hn
  | cons o os ih =>
      rw [List.forall_mem_cons] at ho
      refine (h.endsBefore ho.1 c).bind_ensures ?_
      intro ends _
      cases ends with
      | true => exact failAtEnd ho.1 c.position
      | false =>
          refine ho.1.apply.forward hc (fun _ => rfl) ?_
          intro a next hnext
          exact ih ho.2 (a :: values) hnext

/-! ### Alternatives -/

/-- The further one of two pending failures. -/
theorem merge {f g : Failure σ} :
    Ensures (Settled host (g :: f :: pending) (max (max k f.position) g.position))
      (pure (.failure (f.merge g)) : Act (Noted σ St) (Outcome σ α)) (Ended host pending k)
      fun _ => True := by
  refine Ended.of_failure ?_
  intro n hn
  rw [Failure.position_merge, ← Nat.max_assoc]
  exact hn.drop.drop

theorem orElse (h : host.Records) (left : Failure σ) (hc : c.tracked = true)
    (hq : o.Settles host) :
    Ensures (Settled host (left :: pending) (max k left.position))
      (do host.noted.orElse c left (← o.apply c)) (Ended host pending k) fun _ => True := by
  refine (hq.apply (left :: pending) (max k left.position) c hc).bind ?_
  intro out
  cases out with
  | failure right => exact merge
  | success a next =>
      refine Ensures.of_and ?_
      intro hnext
      exact (h.recover hc).bind fun _ => Ended.of_success hnext fun _ hn => hn

theorem or {o o' : Operand (Noted σ St) σ α} (h : host.Records) (hp : o.Settles host)
    (hq : o'.Settles host) : Action.Ends host (host.noted.or o o') := by
  intro pending k c hc
  refine (h.atEnd c).bind_ensures ?_
  intro ended _
  cases ended with
  | false =>
      refine (hp.apply pending k c hc).bind ?_
      intro out
      cases out with
      | success a next => exact Ensures.pure fun _ hn => hn
      | failure left => exact h.orElse left hc hq
  | true =>
      refine (hq.acceptsEmpty _ _).bind_ensures ?_
      intro rightAccepts _
      refine (hp.acceptsEmpty _ _).bind_ensures ?_
      intro leftAccepts _
      cases leftAccepts with
      | true =>
          refine (hp.apply pending k c hc).bind ?_
          intro out
          cases out with
          | success a next => exact Ensures.pure fun _ hn => hn
          | failure left =>
              cases rightAccepts with
              | true => exact h.orElse left hc hq
              | false => exact Ended.of_returned
      | false =>
          cases rightAccepts with
          | true => exact hq.apply.ends pending k c hc
          | false =>
              refine (hp.firstSet _ _).bind_ensures ?_
              intro left _
              refine (hq.firstSet _ _).bind_ensures ?_
              intro right _
              exact Ended.of_new_failure

theorem optional (h : host.Records) (hp : o.Settles host) :
    Action.Ends host (host.noted.optional o) := by
  intro pending k c hc
  refine (h.endsBefore hp c).bind_ensures ?_
  intro ends _
  cases ends with
  | true => exact Ended.of_success hc fun _ hn => hn
  | false =>
      refine (hp.apply pending k c hc).bind ?_
      intro out
      cases out with
      | success a next => exact Ensures.pure fun _ hn => hn
      | failure e => exact (h.recover hc).bind fun _ => Ended.of_success hc fun _ hn => hn

theorem label [BEq σ] (hp : o.Settles host) (name : String) :
    Action.Ends host (Host.label name o) := by
  intro pending k c hc
  refine (hp.apply pending k c hc).bind ?_
  intro out
  cases out with
  | success a next => exact Ensures.pure fun _ hn => hn
  | failure e =>
      dsimp only
      split
      · exact Ended.of_returned
      · refine (hp.firstSet _ _).bind_ensures ?_
        intro set _
        split
        · exact Ended.of_failure fun _ hn => hn.drop
        · exact Ended.of_failure fun _ hn => hn.drop

theorem lookahead (hp : o.Settles host) : Action.Ends host (Host.lookahead o) := by
  intro pending k c hc
  refine (hp.apply pending k c hc).bind ?_
  intro out
  cases out with
  | success a next => exact Ensures.of_and fun _ => Ended.of_success hc fun _ hn => hn
  | failure e => exact Ended.of_returned

/-! ### Repetition -/

variable {rounds : Nat}

theorem roundsWhile [BEq σ] {act : Action (Noted σ St) σ α} (h : host.Records)
    (hact : act.Returns host) (first : SymbolSet σ) (step : β → α → β) (acc : β) :
    Action.Ends host (host.noted.roundsWhile first act step rounds acc) := by
  intro pending k c hc
  induction rounds generalizing acc c with
  | zero => exact Ensures.throw trivial
  | succ rounds ih =>
      refine (h.predicts first c).bind_ensures ?_
      intro predicted _
      cases predicted with
      | false => exact Ended.of_success hc fun _ hn => hn
      | true =>
          refine (hact pending k c hc).bind ?_
          intro out
          cases out with
          | success a next => exact Ensures.of_and fun hnext => ih (step acc a) next hnext
          | failure e =>
              dsimp only
              split
              · exact Ended.of_returned
              · exact (h.recover hc).bind fun _ => Ended.of_success hc fun _ hn => hn

theorem many [BEq σ] (h : host.Records) (hp : o.Settles host) :
    Action.Ends host (host.noted.many rounds o) := by
  intro pending k c hc
  refine (needsSymbol hp .many).bind_ensures ?_
  intro _ _
  refine (hp.firstSet _ _).bind_ensures ?_
  intro first _
  exact map List.reverse (h.roundsWhile hp.apply first _ []) pending k c hc

theorem many1 [BEq σ] (h : host.Records) (hp : o.Settles host) :
    Action.Ends host (host.noted.many1 rounds o) := by
  intro pending k c hc
  refine (needsSymbol hp .many1).bind_ensures ?_
  intro _ _
  refine hp.apply.forward hc (fun _ => rfl) ?_
  intro a next hnext
  refine (hp.firstSet _ _).bind_ensures ?_
  intro first _
  exact map List.reverse (h.roundsWhile hp.apply first _ [a]) pending k next hnext

theorem skipMany [BEq σ] (h : host.Records) (hp : o.Settles host) :
    Action.Ends host (host.noted.skipMany rounds o) := by
  intro pending k c hc
  refine (needsSymbol hp .skipMany).bind_ensures ?_
  intro _ _
  refine (hp.firstSet _ _).bind_ensures ?_
  intro first _
  exact h.roundsWhile hp.apply first _ () pending k c hc

theorem timesFrom (h : host.Records) (hp : o.Settles host) (required allowed : Nat)
    (values : List α) : Action.Ends host (host.noted.timesFrom o required allowed values) := by
  intro pending k c hc
  induction allowed generalizing required values c with
  | zero => exact Ended.of_success hc fun _ hn => hn
  | succ allowed ih =>
      refine (h.endsBefore hp c).bind_ensures ?_
      intro ends _
      cases ends with
      | true =>
          rw [if_pos rfl]
          by_cases hzero : required = 0
          · rw [if_pos hzero]
            exact Ended.of_success hc fun _ hn => hn
          · rw [if_neg hzero]
            exact failAtEnd hp c.position
      | false =>
          refine (hp.apply pending k c hc).bind ?_
          intro out
          cases out with
          | success a next => exact Ensures.of_and fun hnext => ih _ _ next hnext
          | failure e =>
              dsimp only
              by_cases hzero : required = 0
              · rw [if_pos hzero]
                exact (h.recover hc).bind fun _ => Ended.of_success hc fun _ hn => hn
              · rw [if_neg hzero]
                exact Ended.of_returned

theorem times (h : host.Records) (hp : o.Settles host) (min max : Nat) :
    Action.Ends host (host.noted.times min max o) := by
  intro pending k c hc
  have hloop := h.timesFrom hp min max [] pending k c hc
  unfold Host.times
  split
  · exact (needsSymbol hp .between).bind_ensures fun _ _ => hloop
  · exact hloop

theorem manyTillFrom (h : host.Records) (hp : o.Settles host) (hs : o'.Settles host)
    (values : List α) : Action.Ends host (host.noted.manyTillFrom o o' rounds values) := by
  intro pending k c hc
  induction rounds generalizing values c with
  | zero => exact Ensures.throw trivial
  | succ rounds ih =>
      refine (h.atEnd c).bind_ensures ?_
      intro ended _
      cases ended with
      | true =>
          refine (hs.acceptsEmpty _ _).bind_ensures ?_
          intro accepts _
          cases accepts with
          | true => exact map (fun _ => values.reverse) hs.apply.ends pending k c hc
          | false => exact failAtEnd hs c.position
      | false =>
          refine (hs.apply pending k c hc).bind ?_
          intro out
          cases out with
          | success b next => exact Ensures.pure fun _ hn => hn
          | failure stopFailure =>
              -- The failure of the stop is still pending while the round is made.
              refine (hp.apply (stopFailure :: pending) _ c hc).bind ?_
              intro out
              cases out with
              | failure e => exact merge
              | success a next =>
                  refine Ensures.of_and ?_
                  intro hnext
                  exact (h.recover hc).bind fun _ => ih (a :: values) next hnext

theorem manyTill (h : host.Records) (hp : o.Settles host) (hs : o'.Settles host) :
    Action.Ends host (host.noted.manyTill rounds o o') := by
  intro pending k c hc
  refine (needsSymbol hp .manyTill).bind_ensures ?_
  intro _ _
  exact h.manyTillFrom hp hs [] pending k c hc

/-! ### Chains of operators -/

theorem chainRound {act : Action (Noted σ St) σ α} {op : Action (Noted σ St) σ β}
    (hact : act.Returns host) (hop : op.Returns host) :
    Action.Returns host (Host.chainRound act op) := by
  intro pending k c hc
  refine (hop pending k c hc).bind ?_
  intro out
  cases out with
  | failure e => exact Ensures.pure fun _ hn => hn
  | success f next =>
      refine Ensures.of_and ?_
      intro hnext
      refine (hact pending k next hnext).bind ?_
      intro out
      cases out with
      | failure e => exact Ensures.pure fun _ hn => hn
      | success a next' => exact Ensures.pure fun _ hn => hn

theorem chainFrom [BEq σ] {act : Action (Noted σ St) σ α} {op : Action (Noted σ St) σ β}
    (h : host.Records) (hact : act.Returns host) (hop : op.Returns host) (opEmpty : Bool)
    (opFirst : SymbolSet σ) (pairs : List (β × α)) :
    Action.Ends host (host.noted.chainFrom opEmpty opFirst act op rounds pairs) := by
  intro pending k c hc
  induction rounds generalizing pairs c with
  | zero => exact Ensures.throw trivial
  | succ rounds ih =>
      refine (h.chainEnds opEmpty opFirst c).bind_ensures ?_
      intro ends _
      cases ends with
      | true => exact Ended.of_success hc fun _ hn => hn
      | false =>
          refine (chainRound hact hop pending k c hc).bind ?_
          intro out
          cases out with
          | success pair next => exact Ensures.of_and fun hnext => ih (pair :: pairs) next hnext
          | failure e =>
              dsimp only
              split
              · exact Ended.of_returned
              · exact (h.recover hc).bind fun _ => Ended.of_success hc fun _ hn => hn

theorem chain [BEq σ] {op : Operand (Noted σ St) σ (α → α → α)} (h : host.Records)
    (side : Side) (hp : o.Settles host) (hop : op.Settles host) :
    Action.Ends host (host.noted.chain rounds side o op) := by
  intro pending k c hc
  refine hp.apply.forward hc (fun _ => rfl) ?_
  intro first next hnext
  refine (hop.firstSet _ _).bind_ensures ?_
  intro opFirst _
  refine (hop.acceptsEmpty _ _).bind_ensures ?_
  intro opEmpty _
  refine (needsOperand hp opEmpty).bind_ensures ?_
  intro _ _
  exact map (Host.group side first) (h.chainFrom hp.apply hop.apply opEmpty opFirst [])
    pending k next hnext

end Host.Records

/-! ### Untracked runs -/

def Noted.Recorded (host : Host σ ρ St) (r : Option (Failure σ)) (n₁ n₂ : Noted σ St) : Prop :=
  n₁ = n₂ ∧ host.recovered n₁.state = r

def Cursor.Untracked (c₁ c₂ : Cursor) : Prop := c₁ = c₂ ∧ c₁.tracked = false

/-- From an untracked cursor the action does not touch the record: with its own run beside it, it
keeps the two states the same and the record what it was. -/
def Action.LeavesRecord (host : Host σ ρ St) (act : Action (Noted σ St) σ α) : Prop :=
  ∀ r, act.Alike (Noted.Recorded host r) (fun _ => True) Cursor.Untracked act

namespace Host.Records

theorem lift_simulates {q : Inquiry St α} {r : Option (Failure σ)}
    (h : ∀ r, Yields (fun st => host.recovered st = r) (fun _ => True) q fun _ => True) :
    Simulates (Noted.Recorded host r) (fun _ => True) (Noted.lift q) (Noted.lift q) Eq := by
  intro n₁ n₂ hn
  obtain ⟨heq, hr⟩ := hn
  subst heq
  rcases n₁ with ⟨st, failures⟩
  have hst := h r st hr
  unfold Noted.lift
  dsimp only
  cases hq : q st with
  | error e st' => exact .inl trivial
  | ok a st' =>
      rw [hq] at hst
      exact ⟨a, _, rfl, rfl, rfl, hst.2⟩

theorem noted_alike (h : host.Records) (r : Option (Failure σ)) :
    host.noted.Alike host.noted (Noted.Recorded host r) (fun _ => True) Cursor.Untracked where
  cursor :=
    ⟨fun _ _ hc => hc.1 ▸ rfl, fun _ _ hc => ⟨hc.1 ▸ rfl, hc.2⟩, fun _ _ hc => ⟨hc.1 ▸ rfl, rfl⟩⟩
  symbolAt i n _ hn := by
    obtain ⟨heq, hr⟩ := hn
    subst heq
    exact ⟨rfl, rfl, (h.symbolAt i n.state).trans hr⟩
  acceptsEmpty p := Inquiry.act_simulates (lift_simulates (h.acceptsEmpty p))
  firstSet p := Inquiry.act_simulates (lift_simulates (h.firstSet p))
  recover c _ f hc n _ hn := by
    obtain ⟨rfl, hc⟩ := hc
    obtain ⟨rfl, hr⟩ := hn
    unfold Host.recover
    rw [hc]
    exact ⟨(), n, rfl, trivial, rfl, hr⟩

theorem note_alike {r : Option (Failure σ)} :
    Around.Alike (ρ := ρ) (Noted.Recorded host r) (fun _ => True) Cursor.Untracked Noted.note
      Noted.note := by
  intro α p act₁ act₂ hact c₁ c₂ hc n _ hn
  obtain ⟨rfl, hr⟩ := hn
  have hend := hact c₁ c₂ hc n n ⟨rfl, hr⟩
  unfold Noted.note
  cases h₁ : act₁ c₁ n with
  | error e n' => exact .inl trivial
  | ok out n' =>
      rw [h₁] at hend
      obtain ⟨out', n'', h₂, hout, rfl, hr'⟩ := hend
      rw [h₂]
      refine ⟨out', _, rfl, hout, ?_, hr'⟩
      cases hout with
      | success _ => rfl
      | failure => rfl

end Host.Records

/-! ### Noting -/

theorem Action.Ends.note {p : Parser σ ρ α} {act : Action (Noted σ St) σ α} (h : act.Ends host)
    (hp : p.isNot = false) : (Noted.note α p act).Returns host := by
  intro pending k c hc n hn
  have hend := h pending k c hc n hn
  unfold Noted.note
  cases hact : act c n with
  | error e n' => exact trivial
  | ok out n' =>
      rw [hact] at hend
      dsimp only
      rw [hp]
      cases out with
      | success a next => exact ⟨hend.1, hend.2.congr rfl rfl⟩
      | failure f => exact hend.add (Nat.le_refl _) (Nat.le_max_right _ _)

theorem Action.LeavesRecord.yields {act : Action (Noted σ St) σ α} (h : act.LeavesRecord host)
    (c : Cursor) (r : Option (Failure σ)) :
    Yields (fun n => host.recovered n.state = r) (fun _ => True) (act c.untracked)
      fun _ => True := by
  intro n hn
  have hend := h r c.untracked c.untracked ⟨rfl, rfl⟩ n n ⟨rfl, hn⟩
  cases hact : act c.untracked n with
  | error e n' => exact trivial
  | ok out n' =>
      rw [hact] at hend
      obtain ⟨_, _, _, _, _, hr⟩ := hend
      exact ⟨trivial, hr⟩

/-- A `not` fails or stays where it began, and its operand does not touch the record. -/
theorem Action.LeavesRecord.not {o : Operand (Noted σ St) σ α} (h : o.apply.LeavesRecord host)
    (c : Cursor) (r : Option (Failure σ)) :
    Yields (fun n => host.recovered n.state = r) (fun _ => True) (Host.not o c) fun out =>
      out = .success () c ∨ ∃ f, out = .failure f := by
  refine (h.yields c r).bind ?_
  intro out _
  cases out with
  | success a next => exact Yields.pure (.inr ⟨_, rfl⟩)
  | failure f => exact Yields.pure (.inl rfl)

/-- What was noted in a `not` is dropped behind it, and what was settled before it is so again. -/
theorem Action.LeavesRecord.note {p : Parser σ ρ α} {o : Operand (Noted σ St) σ α}
    (h : o.apply.LeavesRecord host) : (Noted.note _ p.not (Host.not o)).Returns host := by
  intro pending k c hc n hn
  have hend := h.not c (host.recovered n.state) n rfl
  unfold Noted.note
  cases hact : Host.not o c n with
  | error e n' => exact trivial
  | ok out n' =>
      rw [hact] at hend
      obtain ⟨hout, hr⟩ := hend
      rcases hout with rfl | ⟨f, rfl⟩
      · exact ⟨hc, hn.congr rfl hr⟩
      · have hadd : Settled host (f :: pending) (max k f.position) ⟨n.state, f :: n.failures⟩ :=
          hn.add (Nat.le_max_left _ _) (Nat.le_max_right _ _)
        exact hadd.congr rfl hr

/-! ### Runs -/

variable [BEq σ]

/-- Every parser put together from premade ones leaves its failures and those on the way to it
settled, if the rules do. -/
theorem Parser.runAround_returns {rule : (i : Nat) → Action (Noted σ St) σ (ρ i)} {rounds : Nat}
    (h : host.Records) (hrule : ∀ i, (rule i).Returns host)
    (hleaves : ∀ i, (rule i).LeavesRecord host) {p : Parser σ ρ α}
    (hp : p.Everywhere Parser.IsPremade) :
    (p.runAround Noted.note host.noted rule rounds).Returns host := by
  induction p with
  | pure a => exact Action.Ends.note (fun _ _ _ hc => Ended.of_success hc fun _ hn => hn) rfl
  | fail message =>
      cases message with
      | none => exact Action.Ends.note (fun _ _ _ _ => Ended.of_new_failure) rfl
      | some message => exact Action.Ends.note (fun _ _ _ _ => Ended.of_new_failure) rfl
  | eof => exact h.eof.note rfl
  | satisfy set => exact (h.satisfy set).note rfl
  | literal name first rest => exact (h.literal name first rest).note rfl
  | longest | declared | recording => exact absurd hp.here id
  | map f p ih => exact (Host.Records.map f (ih hp.2).ends).note rfl
  | tryMap f p ih => exact (Host.Records.tryMap (h.operand_settles p (ih hp.2)) f).note rfl
  | and p q ihp ihq =>
      exact (h.and (h.operand_settles p (ihp hp.2.1)) (h.operand_settles q (ihq hp.2.2))).note rfl
  | or p q ihp ihq =>
      exact (h.or (h.operand_settles p (ihp hp.2.1)) (h.operand_settles q (ihq hp.2.2))).note rfl
  | flatMap p k ihp ihk =>
      exact (Host.Records.flatMap (h.operand_settles p (ihp hp.2.1))
        fun a => ihk a (hp.2.2 a)).note rfl
  | label name p ih => exact (Host.Records.label (h.operand_settles p (ih hp.2)) name).note rfl
  | lookahead p ih => exact (Host.Records.lookahead (h.operand_settles p (ih hp.2))).note rfl
  | not p ih =>
      exact Action.LeavesRecord.note fun r => Parser.runAround_alike (h.noted_alike r)
        (Outlasts.refl _) Host.Records.note_alike (fun i => hleaves i r) p
  | optional p ih => exact (h.optional (h.operand_settles p (ih hp.2))).note rfl
  | sequence ps ih =>
      rw [runAround_sequence]
      refine Action.Ends.note ?_ rfl
      intro pending k c hc
      refine h.sequenceFrom _ ?_ [] hc
      intro o ho
      obtain ⟨p, hmem, rfl⟩ := List.mem_map.mp ho
      obtain ⟨i, rfl⟩ := List.mem_ofFn.mp hmem
      exact h.operand_settles (ps i) (ih i (hp.2 i))
  | many p ih => exact (h.many (h.operand_settles p (ih hp.2))).note rfl
  | many1 p ih => exact (h.many1 (h.operand_settles p (ih hp.2))).note rfl
  | skipMany p ih => exact (h.skipMany (h.operand_settles p (ih hp.2))).note rfl
  | times min max p ih => exact (h.times (h.operand_settles p (ih hp.2)) min max).note rfl
  | manyTill p stop ihp ihs =>
      exact (h.manyTill (h.operand_settles p (ihp hp.2.1))
        (h.operand_settles stop (ihs hp.2.2))).note rfl
  | chain side operand op ihp iho =>
      exact (h.chain side (h.operand_settles operand (ihp hp.2.1))
        (h.operand_settles op (iho hp.2.2))).note rfl
  | rule i =>
      -- The rule's body has noted the failure already.
      exact (hrule i).ends.note rfl

namespace Rules

variable {rules : Rules σ ρ}

theorem applyNoted_leavesRecord (h : host.Records) (budget : Nat) (p : Parser σ ρ α) :
    (rules.applyNoted host budget p).LeavesRecord host := fun r =>
  rules.applyAround_alike (h.noted_alike r) Host.Records.note_alike (Outlasts.refl _) p

theorem applyNoted_returns (h : host.Records)
    (hrules : ∀ i body, rules.body? i = some body → body.Everywhere Parser.IsPremade)
    (budget : Nat) {p : Parser σ ρ α} (hp : p.Everywhere Parser.IsPremade) :
    (rules.applyNoted host budget p).Returns host := by
  induction budget generalizing α p with
  | zero => exact fun _ _ _ _ => Ensures.throw trivial
  | succ budget ih =>
      refine Parser.runAround_returns h ?_ ?_ hp
      · intro i
        cases hi : rules.body? i with
        | none => exact fun _ _ _ _ => Ensures.throw trivial
        | some body => exact ih (hrules i body hi)
      · intro i
        cases rules.body? i with
        | none => exact fun r c₁ c₂ hc => Simulates.throw _
        | some body => exact applyNoted_leavesRecord h budget body

end Rules

end PredictiveParsing
