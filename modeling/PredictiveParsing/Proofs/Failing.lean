import PredictiveParsing.Proofs.Host

/-!
# Properties of failures

Combinators pass failures on, merge them, record them, and make their own: at the end of the input,
and with a message. A property that these have anyway, and that merging keeps, is stable
(`Failure.Stable`), and then every combinator whose operands fail with the property does so too,
and records no other failures. What remains are the parsers that make a failure about a symbol, and
labels, which replace the set of one.

The host preserves the property if its state can keep `I` whenever a failure with it is recorded
(`Host.Preserves`).
-/

namespace PredictiveParsing

variable {σ : Type} {ρ : Nat → Type} {St α β ε : Type}

/-- The property holds of failures at the end of the input and of messages, and merging keeps it. -/
structure Failure.Stable (T : Failure σ → Prop) : Prop where
  ended : ∀ i s, T ⟨i, .endOfInput s⟩
  message : ∀ i m, T ⟨i, .message m⟩
  merge : ∀ f g, T f → T g → T (f.merge g)

def Outcome.FailsWith (T : Failure σ → Prop) : Outcome σ α → Prop
  | .success .. => True
  | .failure f => T f

theorem Outcome.FailsWith.map {T : Failure σ → Prop} {out : Outcome σ α} (f : α → β)
    (h : out.FailsWith T) : (out.map f).FailsWith T := by
  cases out with
  | success a next => exact trivial
  | failure e => exact h

/-- In a state with `I` the host answers with the symbols and what parsers say of themselves, and
`I` stays when a failure with the property is recorded. -/
structure Host.Preserves [BEq σ] (host : Host σ ρ St) (rules : Rules σ ρ) (symbols : List σ)
    (I : St → Prop) (T : Failure σ → Prop) : Prop where
  symbolAt : ∀ i st, I st → (host.symbolAt i st).1 = symbols[i]? ∧ I (host.symbolAt i st).2
  acceptsEmpty : ∀ {α : Type} (p : Parser σ ρ α),
    Yields I (fun _ => True) (host.acceptsEmpty p) fun _ => True
  firstSet : ∀ {α : Type} (p : Parser σ ρ α),
    Yields I (fun _ => True) (host.firstSet p) (rules.FirstSet p)
  recover : ∀ c f, T f → Yields I (fun _ => True) (host.recover c f) fun _ => True

abbrev Action.FailsWith (act : Action St σ α) (I : St → Prop) (T : Failure σ → Prop) : Prop :=
  ∀ c, Yields I (fun _ => True) (act c) (Outcome.FailsWith T)

/-- Asking the operand keeps `I`, and its action fails with the property. -/
structure Operand.FailsWith (o : Operand St σ α) (I : St → Prop) (T : Failure σ → Prop) : Prop where
  acceptsEmpty : Yields I (fun _ => True) o.acceptsEmpty fun _ => True
  firstSet : Yields I (fun _ => True) o.firstSet fun _ => True
  apply : o.apply.FailsWith I T

/-- Where failures are passed on, only the successes are left to look at. -/
theorem Action.FailsWith.forward {act : Action St σ α} {I : St → Prop} {T : Failure σ → Prop}
    (h : act.FailsWith I T) {c : Cursor} {rest : Outcome σ α → Act St (Outcome σ β)}
    (hfailure : ∀ f, rest (.failure f) = pure (.failure f))
    (hsuccess : ∀ a next, Yields I (fun _ => True) (rest (.success a next)) (Outcome.FailsWith T)) :
    Yields I (fun _ => True) (act c >>= rest) (Outcome.FailsWith T) := by
  refine (h c).bind ?_
  intro out hout
  cases out with
  | failure f =>
      rw [hfailure]
      exact Yields.pure hout
  | success a next => exact hsuccess a next

namespace Host.Preserves

variable [BEq σ] {host : Host σ ρ St} {rules : Rules σ ρ} {symbols : List σ} {I : St → Prop}
  {T : Failure σ → Prop} {o : Operand St σ α} {o' : Operand St σ β} {c : Cursor}

/-! ### Decisions -/

theorem current (h : host.Preserves rules symbols I T) (c : Cursor) :
    Yields I (fun _ => True) (host.current c) fun s => s = symbols[c.position]? :=
  fun st hI => h.symbolAt c.position st hI

theorem atEnd (h : host.Preserves rules symbols I T) (c : Cursor) :
    Yields I (fun _ => True) (host.atEnd c) fun b => b = (symbols[c.position]?).isNone := by
  refine (h.current c).bind ?_
  rintro _ rfl
  exact Yields.pure rfl

theorem predicts (h : host.Preserves rules symbols I T) (first : SymbolSet σ) (c : Cursor) :
    Yields I (fun _ => True) (host.predicts first c) fun _ => True := by
  refine (h.current c).bind ?_
  intro symbol _
  cases symbol with
  | none => exact Yields.pure trivial
  | some s => exact Yields.pure trivial

theorem chainEnds (h : host.Preserves rules symbols I T) (opEmpty : Bool) (opFirst : SymbolSet σ)
    (c : Cursor) : Yields I (fun _ => True) (host.chainEnds opEmpty opFirst c) fun _ => True := by
  unfold Host.chainEnds
  cases opEmpty with
  | true => exact Yields.pure trivial
  | false =>
      refine (h.predicts opFirst c).bind ?_
      intro b _
      exact Yields.pure trivial

theorem operand (h : host.Preserves rules symbols I T) (p : Parser σ ρ α) {act : Action St σ α}
    (hact : act.FailsWith I T) : (Parser.run.operand host p act).FailsWith I T where
  acceptsEmpty := Inquiry.act_yields (fun _ => trivial) (h.acceptsEmpty p)
  firstSet := (Inquiry.act_yields (fun _ => trivial) (h.firstSet p)).mono fun _ _ => trivial
  apply := hact

theorem endsBefore (h : host.Preserves rules symbols I T) (ho : o.FailsWith I T) (c : Cursor) :
    Yields I (fun _ => True) (host.endsBefore o c) fun _ => True := by
  refine (h.atEnd c).bind ?_
  intro ended _
  cases ended with
  | false => exact Yields.pure trivial
  | true =>
      refine ho.acceptsEmpty.bind ?_
      intro b _
      exact Yields.pure trivial

omit [BEq σ] in
theorem needsSymbol (ho : o.FailsWith I T) (repetition : Repetition) :
    Yields I (fun _ => True) (Host.needsSymbol repetition o) fun _ => True := by
  refine ho.acceptsEmpty.bind ?_
  intro b _
  cases b with
  | true => exact Yields.throw trivial
  | false => exact Yields.pure trivial

omit [BEq σ] in
theorem needsOperand (ho : o.FailsWith I T) (opEmpty : Bool) :
    Yields I (fun _ => True) (Host.needsOperand opEmpty o) fun _ => True := by
  cases opEmpty with
  | false => exact Yields.pure trivial
  | true =>
      refine ho.acceptsEmpty.bind ?_
      intro b _
      cases b with
      | true => exact Yields.throw trivial
      | false => exact Yields.pure trivial

variable (hT : Failure.Stable T)

include hT

omit [BEq σ] in
/-- A failure at the end of the input names what the parser begins on. -/
theorem failAtEnd (ho : o.FailsWith I T) (i : Nat) :
    Yields I (fun _ => True)
      (do return (.failure ⟨i, .endOfInput (← o.firstSet)⟩ : Outcome σ β))
      (Outcome.FailsWith T) := by
  refine ho.firstSet.bind ?_
  intro set _
  exact Yields.pure (hT.ended i set)

/-! ### Symbols -/

theorem eof (h : host.Preserves rules symbols I T) : host.eof.FailsWith I T := by
  intro c
  refine (h.atEnd c).bind ?_
  intro ended _
  cases ended with
  | true => exact Yields.pure trivial
  | false => exact Yields.pure (hT.message _ _)

theorem satisfy (h : host.Preserves rules symbols I T) {set : SymbolSet σ}
    (hset : ∀ i x, symbols[i]? = some x → set.contains x = false → T ⟨i, .expected set⟩) :
    (host.satisfy set).FailsWith I T := by
  intro c
  refine (h.current c).bind ?_
  intro symbol hsymbol
  cases symbol with
  | none => exact Yields.pure (hT.ended _ _)
  | some x =>
      dsimp only
      by_cases hx : set.contains x = true
      · rw [if_pos hx]
        exact Yields.pure trivial
      · rw [if_neg hx]
        exact Yields.pure (hset c.position x hsymbol.symm (Bool.eq_false_of_not_eq_true hx))

omit [BEq σ] in
theorem longestMatch (r : Recognizer σ) (start : Cursor) (read : List σ)
    (best : Option (Nat × Cursor)) : (r.outcome start read best).FailsWith T := by
  cases best with
  | some b => exact trivial
  | none => exact hT.message _ _

theorem longestFrom (h : host.Preserves rules symbols I T) (r : Recognizer σ) (start : Cursor)
    (rounds : Nat) (state : r.State) (read : List σ) (width : Nat) (best : Option (Nat × Cursor)) :
    (host.longestFrom r start rounds state read width best).FailsWith I T := by
  induction rounds generalizing state read width best with
  | zero => exact fun c => Yields.throw trivial
  | succ rounds ih =>
      intro c
      refine (h.current c).bind ?_
      intro symbol _
      cases symbol with
      | none => exact Yields.pure (longestMatch hT r start read _)
      | some s =>
          dsimp only
          cases r.step state s with
          | live state' => exact ih state' _ _ _ c.advance
          | dead => exact Yields.pure (longestMatch hT r start read _)
          | quit => exact Yields.pure (hT.message _ _)

theorem longest (h : host.Preserves rules symbols I T) (rounds : Nat) (r : Recognizer σ) :
    (host.longest rounds r).FailsWith I T :=
  fun c => longestFrom hT h r c rounds r.start [] 0 none c

/-! ### One parser after another -/

omit [BEq σ] hT in
theorem map {act : Action St σ α} (f : α → β) (hact : act.FailsWith I T) :
    Action.FailsWith (fun c => do return (← act c).map f) I T := by
  intro c
  refine (hact c).bind ?_
  intro out hout
  exact Yields.pure (hout.map f)

omit [BEq σ] in
theorem tryMap (ho : o.FailsWith I T) (f : α → Except String β) :
    (Host.tryMap f o).FailsWith I T := by
  intro c
  refine ho.apply.forward (fun _ => rfl) ?_
  intro a next
  dsimp only
  cases f a with
  | ok b => exact Yields.pure trivial
  | error message => exact Yields.pure (hT.message _ _)

theorem and (h : host.Preserves rules symbols I T) (hp : o.FailsWith I T)
    (hq : o'.FailsWith I T) : (host.and o o').FailsWith I T := by
  intro c
  refine hp.apply.forward (fun _ => rfl) ?_
  intro a next
  refine (h.endsBefore hq next).bind ?_
  intro ends _
  cases ends with
  | true => exact failAtEnd hT hq next.position
  | false => exact hq.apply.forward (fun _ => rfl) fun _ _ => Yields.pure trivial

omit [BEq σ] hT in
theorem flatMap {k : α → Action St σ β} (ho : o.FailsWith I T) (hk : ∀ a, (k a).FailsWith I T) :
    (Host.flatMap o k).FailsWith I T :=
  fun _ => ho.apply.forward (fun _ => rfl) fun a next => hk a next

theorem sequenceFrom (h : host.Preserves rules symbols I T) (os : List (Operand St σ α))
    (hos : ∀ o ∈ os, o.FailsWith I T) (values : List α) (c : Cursor) :
    Yields I (fun _ => True) (host.sequenceFrom values c os) (Outcome.FailsWith T) := by
  induction os generalizing values c with
  | nil => exact Yields.pure trivial
  | cons o os ih =>
      have ho := hos o List.mem_cons_self
      refine (h.endsBefore ho c).bind ?_
      intro ends _
      cases ends with
      | true => exact failAtEnd hT ho c.position
      | false =>
          refine ho.apply.forward (fun _ => rfl) ?_
          intro a next
          exact ih (fun o ho => hos o (List.mem_cons_of_mem _ ho)) _ next

/-! ### Alternatives -/

theorem orElse (h : host.Preserves rules symbols I T) {left : Failure σ} {out : Outcome σ α}
    (hleft : T left) (hout : out.FailsWith T) (c : Cursor) :
    Yields I (fun _ => True) (host.orElse c left out) (Outcome.FailsWith T) := by
  cases out with
  | success a next => exact (h.recover c left hleft).bind fun _ _ => Yields.pure trivial
  | failure right => exact Yields.pure (hT.merge left right hleft hout)

theorem or {o o' : Operand St σ α} (h : host.Preserves rules symbols I T) (hp : o.FailsWith I T)
    (hq : o'.FailsWith I T) : (host.or o o').FailsWith I T := by
  intro c
  have hsecond : ∀ left, T left → Yields I (fun _ => True)
      (do host.orElse c left (← o'.apply c)) (Outcome.FailsWith T) := by
    intro left hleft
    refine (hq.apply c).bind ?_
    intro out hout
    exact h.orElse hT hleft hout c
  refine (h.atEnd c).bind ?_
  intro ended _
  cases ended with
  | true =>
      refine hq.acceptsEmpty.bind ?_
      intro rightAccepts _
      refine hp.acceptsEmpty.bind ?_
      intro leftAccepts _
      cases leftAccepts with
      | true =>
          refine (hp.apply c).bind ?_
          intro out hout
          cases out with
          | success a next => exact Yields.pure trivial
          | failure left =>
              cases rightAccepts with
              | true => exact hsecond left hout
              | false => exact Yields.pure hout
      | false =>
          cases rightAccepts with
          | true => exact hq.apply c
          | false =>
              refine hp.firstSet.bind ?_
              intro left _
              refine hq.firstSet.bind ?_
              intro right _
              exact Yields.pure (hT.ended _ _)
  | false =>
      refine (hp.apply c).bind ?_
      intro out hout
      cases out with
      | success a next => exact Yields.pure trivial
      | failure left => exact hsecond left hout

omit hT in
theorem optional (h : host.Preserves rules symbols I T) (ho : o.FailsWith I T) :
    (host.optional o).FailsWith I T := by
  intro c
  refine (h.endsBefore ho c).bind ?_
  intro ends _
  cases ends with
  | true => exact Yields.pure trivial
  | false =>
      refine (ho.apply c).bind ?_
      intro out hout
      cases out with
      | success a next => exact Yields.pure trivial
      | failure e => exact (h.recover c e hout).bind fun _ _ => Yields.pure trivial

/-! ### Looking without reading -/

omit [BEq σ] hT in
theorem lookahead (ho : o.FailsWith I T) : (Host.lookahead o).FailsWith I T :=
  fun _ => ho.apply.forward (fun _ => rfl) fun _ _ => Yields.pure trivial

omit [BEq σ] in
theorem not (ho : o.FailsWith I T) : (Host.not o).FailsWith I T := by
  intro c
  refine (ho.apply c.untracked).bind ?_
  intro out _
  cases out with
  | success a next => exact Yields.pure (hT.message _ _)
  | failure e => exact Yields.pure trivial

/-! ### Repetition -/

section Rounds

variable {act : Action St σ α} {op : Action St σ β}

omit hT in
theorem roundsWhile (h : host.Preserves rules symbols I T) (first : SymbolSet σ)
    (hact : act.FailsWith I T) (step : β → α → β) (rounds : Nat) (acc : β) (c : Cursor) :
    Yields I (fun _ => True) (host.roundsWhile first act step rounds acc c)
      (Outcome.FailsWith T) := by
  induction rounds generalizing acc c with
  | zero => exact Yields.throw trivial
  | succ rounds ih =>
      refine (h.predicts first c).bind ?_
      intro goes _
      cases goes with
      | false => exact Yields.pure trivial
      | true =>
          refine (hact c).bind ?_
          intro out hout
          cases out with
          | success a next => exact ih _ next
          | failure e =>
              dsimp only
              split
              · exact Yields.pure hout
              · exact (h.recover c e hout).bind fun _ _ => Yields.pure trivial

omit hT in
theorem many (h : host.Preserves rules symbols I T) (ho : o.FailsWith I T) (rounds : Nat) :
    (host.many rounds o).FailsWith I T := by
  intro c
  refine (needsSymbol ho .many).bind ?_
  intro _ _
  refine ho.firstSet.bind ?_
  intro first _
  refine (h.roundsWhile first ho.apply _ rounds [] c).bind ?_
  intro out hout
  exact Yields.pure (hout.map _)

omit hT in
theorem many1 (h : host.Preserves rules symbols I T) (ho : o.FailsWith I T) (rounds : Nat) :
    (host.many1 rounds o).FailsWith I T := by
  intro c
  refine (needsSymbol ho .many1).bind ?_
  intro _ _
  refine ho.apply.forward (fun _ => rfl) ?_
  intro a next
  refine ho.firstSet.bind ?_
  intro first _
  refine (h.roundsWhile first ho.apply _ rounds [a] next).bind ?_
  intro out hout
  exact Yields.pure (hout.map _)

omit hT in
theorem skipMany (h : host.Preserves rules symbols I T) (ho : o.FailsWith I T) (rounds : Nat) :
    (host.skipMany rounds o).FailsWith I T := by
  intro c
  refine (needsSymbol ho .skipMany).bind ?_
  intro _ _
  refine ho.firstSet.bind ?_
  intro first _
  exact h.roundsWhile first ho.apply _ rounds () c

theorem timesFrom (h : host.Preserves rules symbols I T) (ho : o.FailsWith I T)
    (required allowed : Nat) (values : List α) (c : Cursor) :
    Yields I (fun _ => True) (host.timesFrom o required allowed values c)
      (Outcome.FailsWith T) := by
  induction allowed generalizing required values c with
  | zero =>
      unfold Host.timesFrom
      exact Yields.pure trivial
  | succ allowed ih =>
      unfold Host.timesFrom
      refine (h.endsBefore ho c).bind ?_
      intro ends _
      cases ends with
      | true =>
          rw [if_pos rfl]
          by_cases hrequired : required = 0
          · rw [if_pos hrequired]
            exact Yields.pure trivial
          · rw [if_neg hrequired]
            exact failAtEnd hT ho c.position
      | false =>
          rw [if_neg Bool.false_ne_true]
          refine (ho.apply c).bind ?_
          intro out hout
          cases out with
          | success a next => exact ih _ _ next
          | failure e =>
              dsimp only
              by_cases hrequired : required = 0
              · rw [if_pos hrequired]
                exact (h.recover c e hout).bind fun _ _ => Yields.pure trivial
              · rw [if_neg hrequired]
                exact Yields.pure hout

theorem times (h : host.Preserves rules symbols I T) (ho : o.FailsWith I T) (min max : Nat) :
    (host.times min max o).FailsWith I T := by
  intro c
  unfold Host.times
  split
  · refine (needsSymbol ho .between).bind ?_
    intro _ _
    exact h.timesFrom hT ho min max [] c
  · exact h.timesFrom hT ho min max [] c

theorem manyTillFrom (h : host.Preserves rules symbols I T) (hp : o.FailsWith I T)
    (hs : o'.FailsWith I T) (rounds : Nat) (values : List α) (c : Cursor) :
    Yields I (fun _ => True) (host.manyTillFrom o o' rounds values c) (Outcome.FailsWith T) := by
  induction rounds generalizing values c with
  | zero => exact Yields.throw trivial
  | succ rounds ih =>
      refine (h.atEnd c).bind ?_
      intro ended _
      cases ended with
      | true =>
          refine hs.acceptsEmpty.bind ?_
          intro accepts _
          cases accepts with
          | true => exact map _ hs.apply c
          | false => exact failAtEnd hT hs c.position
      | false =>
          refine (hs.apply c).bind ?_
          intro out hout
          cases out with
          | success b next => exact Yields.pure trivial
          | failure stopFailure =>
              refine (hp.apply c).bind ?_
              intro out' hout'
              cases out' with
              | success a next =>
                  refine (h.recover c stopFailure hout).bind ?_
                  intro _ _
                  exact ih _ next
              | failure e => exact Yields.pure (hT.merge stopFailure e hout hout')

theorem manyTill (h : host.Preserves rules symbols I T) (hp : o.FailsWith I T)
    (hs : o'.FailsWith I T) (rounds : Nat) : (host.manyTill rounds o o').FailsWith I T := by
  intro c
  refine (needsSymbol hp .manyTill).bind ?_
  intro _ _
  exact h.manyTillFrom hT hp hs rounds [] c

/-! ### Chains of operators -/

omit hT in
theorem chainFrom (h : host.Preserves rules symbols I T) (opEmpty : Bool) (opFirst : SymbolSet σ)
    (hact : act.FailsWith I T) (hop : op.FailsWith I T) (rounds : Nat)
    (pairs : List (β × α)) (c : Cursor) :
    Yields I (fun _ => True) (host.chainFrom opEmpty opFirst act op rounds pairs c)
      (Outcome.FailsWith T) := by
  induction rounds generalizing pairs c with
  | zero => exact Yields.throw trivial
  | succ rounds ih =>
      refine (h.chainEnds opEmpty opFirst c).bind ?_
      intro ends _
      cases ends with
      | true => exact Yields.pure trivial
      | false =>
          have hround : Action.FailsWith (Host.chainRound act op) I T := fun _ =>
            hop.forward (fun _ => rfl) fun f next => map (Prod.mk f) hact next
          refine (hround c).bind ?_
          intro out hout
          cases out with
          | success pair next => exact ih _ next
          | failure e =>
              dsimp only
              split
              · exact Yields.pure hout
              · exact (h.recover c e hout).bind fun _ _ => Yields.pure trivial

omit hT in
theorem chain {op : Operand St σ (α → α → α)} (h : host.Preserves rules symbols I T)
    (ho : o.FailsWith I T) (hop : op.FailsWith I T) (rounds : Nat) (side : Side) :
    (host.chain rounds side o op).FailsWith I T := by
  intro c
  refine ho.apply.forward (fun _ => rfl) ?_
  intro first next
  refine hop.firstSet.bind ?_
  intro opFirst _
  refine hop.acceptsEmpty.bind ?_
  intro opEmpty _
  refine (needsOperand ho opEmpty).bind ?_
  intro _ _
  refine (h.chainFrom opEmpty opFirst ho.apply hop.apply rounds [] next).bind ?_
  intro out hout
  exact Yields.pure (hout.map _)

end Rounds

end Host.Preserves

/-! ### Parses -/

namespace Rules

variable {host : Host σ ρ St} {I : St → Prop} {T : Failure σ → Prop} {out : Outcome σ α}

theorem wholeInput_failsWith [BEq σ] {rules : Rules σ ρ} {symbols : List σ}
    (h : host.Preserves rules symbols I T) (hT : Failure.Stable T) (hout : out.FailsWith T)
    (c : Cursor) : Yields I (fun _ => True) (wholeInput host c out) (Outcome.FailsWith T) := by
  cases out with
  | failure e => exact Yields.pure hout
  | success a next =>
      refine (h.atEnd next).bind ?_
      intro ended _
      cases ended with
      | true => exact Yields.pure trivial
      | false => exact Yields.pure (hT.message _ _)

theorem orFurther_failsWith {recovered : Option (Failure σ)}
    (hrecovered : ∀ f, recovered = some f → T f) (hout : out.FailsWith T) :
    (orFurther recovered out).FailsWith T := by
  cases out with
  | success a next => exact trivial
  | failure e =>
      cases recovered with
      | none => exact hout
      | some f =>
          unfold orFurther
          dsimp only
          split
          · exact hrecovered f rfl
          · exact hout

end Rules

end PredictiveParsing
