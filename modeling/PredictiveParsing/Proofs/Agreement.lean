import PredictiveParsing.Proofs.Trial

/-!
# Looking ahead changes nothing

A run asks its parsers what they accept and begin on, and leaves out what could not
succeed. A trial asks nothing and leaves nothing out. Where both come to an end they come
to the same: to the same value and place, or to failures at the same position
(`Rules.apply_eq_trial`).

An action follows a trial when it comes to what the trial finds, and each combinator
follows the trial of its kind if its operands follow theirs. The shortcuts are where the
action leaves out an operand that the trial has tried. What the operand says of itself
then decides what the trial must have found: a failure at the very place.
-/

namespace PredictiveParsing

variable {σ : Type} {ρ : Nat → Type} {S St α β γ : Type}

theorem Attempt.map_map (f : α → β) (g : β → γ) (att : Attempt α) :
    (att.map f).map g = att.map fun a => g (f a) := by
  cases att with
  | success _ _ => rfl
  | failure _ => rfl

theorem Trial.map_of_eq_some {t : Trial α} {c : Nat} {att : Attempt α} (f : α → β)
    (h : t c = some att) : t.map f c = some (att.map f) :=
  Option.bind_eq_some_iff.mpr ⟨att, h, rfl⟩

def Outcome.attempt : Outcome σ α → Attempt α
  | .success a next => .success a next.position
  | .failure f => .failure f.position

@[simp]
theorem Outcome.attempt_map (f : α → β) (out : Outcome σ α) :
    (out.map f).attempt = out.attempt.map f := by
  cases out with
  | success _ _ => rfl
  | failure _ => rfl

/-- Wherever the trial finds something, the action finds the same if it comes to an end. -/
def Action.Follows (I : St → Prop) (act : Action St σ α) (t : Trial α) : Prop :=
  ∀ (c : Cursor) att, t c.position = some att →
    Yields I (fun _ => True) (act c) fun out => out.attempt = att

theorem Action.Follows.bind {I : St → Prop} {act : Action St σ α} {t : Trial α}
    (h : act.Follows I t) {c : Cursor} {k : Outcome σ α → Act St β} {k' : Attempt α → Option γ}
    {result : γ} {q : β → Prop} (hfound : (t c.position).bind k' = some result)
    (hk : ∀ out, k' out.attempt = some result → Yields I (fun _ => True) (k out) q) :
    Yields I (fun _ => True) (act c >>= k) q := by
  obtain ⟨att, hatt, hrest⟩ := Option.bind_eq_some_iff.mp hfound
  refine (h c att hatt).bind ?_
  rintro out rfl
  exact hk out hrest

/-- Behind a parser whose failures are passed on, only its successes have to be looked at. -/
theorem Action.Follows.forward {I : St → Prop} {act : Action St σ α} {t : Trial α}
    (h : act.Follows I t) {c : Cursor} {rest : Outcome σ α → Act St (Outcome σ β)}
    {k : α → Trial β} {att : Attempt β} (hfound : t.flatMap k c.position = some att)
    (hfailure : ∀ f, rest (.failure f) = pure (.failure f))
    (hsuccess : ∀ a next, k a next.position = some att →
      Yields I (fun _ => True) (rest (.success a next)) fun out => out.attempt = att) :
    Yields I (fun _ => True) (act c >>= rest) fun out => out.attempt = att := by
  refine h.bind hfound ?_
  intro out hrest
  cases out with
  | failure f =>
      cases hrest
      rw [hfailure]
      exact Yields.pure rfl
  | success a next => exact hsuccess a next hrest

theorem Action.Follows.map {I : St → Prop} {act : Action St σ α} {t : Trial α} (f : α → β)
    (h : act.Follows I t) : Action.Follows I (fun c => do return (← act c).map f) (t.map f) := by
  intro c att hatt
  refine h.bind hatt ?_
  intro out hout
  cases hout
  exact Yields.pure (Outcome.attempt_map f out)

/-- An action that follows a trial with its values changed finds those values, in whatever steps
they are put together. -/
theorem Action.Follows.regroup {I : St → Prop} {act : Action St σ γ} {t : Trial α} {f : α → γ}
    {g : α → β} {k : β → γ} (h : act.Follows I (t.map f)) (hf : ∀ a, f a = k (g a)) {c : Cursor}
    {att : Attempt α} (hfound : t c.position = some att) :
    Yields I (fun _ => True) (act c) fun out => out.attempt = (att.map g).map k := by
  have hsame : f = fun a => k (g a) := funext hf
  refine (h c _ (Trial.map_of_eq_some f hfound)).mono ?_
  intro out hout
  rw [hout, Attempt.map_map, hsame]

/-- To follow a trial, the values of which are changed into themselves, is to follow the trial. -/
theorem Action.Follows.of_map {I : St → Prop} {act : Action St σ α} {t : Trial α} {f : α → α}
    (h : act.Follows I (t.map f)) (hf : ∀ a, f a = a) : act.Follows I t := by
  intro c att hatt
  refine (h c _ (Trial.map_of_eq_some f hatt)).mono ?_
  intro out hout
  rw [hout]
  cases att with
  | success a next => rw [Attempt.map, hf]
  | failure e => rfl

/-- The operand answers as the parser does and follows the trial, which is honest about the
parser. -/
structure Operand.Follows [BEq σ] (rules : Rules σ ρ) (symbols : List σ) (I : St → Prop)
    (o : Operand St σ α) (p : Parser σ ρ α) (t : Trial α) : Prop where
  speaks : o.Speaks rules I (fun _ => True) p
  honest : t.Honest rules symbols p
  apply : o.apply.Follows I t

namespace Host.Faithful

variable [BEq σ] {host : Host σ ρ St} {rules : Rules σ ρ} {symbols : List σ} {I : St → Prop}

/-! ### Symbols -/

theorem eof_follows (h : host.Faithful rules symbols I) :
    Action.Follows I host.eof (Trial.eof symbols) := by
  intro c att hatt
  refine (h.atEnd c).bind ?_
  intro ended hended
  have hnone : symbols[c.position]?.isNone = ended := by
    rw [Bool.eq_iff_iff, Option.isNone_iff_eq_none, List.getElem?_eq_none_iff, hended]
  rw [Trial.eof, hnone] at hatt
  cases ended with
  | true =>
      cases hatt
      exact Yields.pure rfl
  | false =>
      cases hatt
      exact Yields.pure rfl

theorem satisfy_follows (h : host.Faithful rules symbols I) (set : SymbolSet σ) :
    Action.Follows I (host.satisfy set) (Trial.satisfy symbols set) := by
  intro c att hatt
  refine (h.current c).bind ?_
  intro symbol hsymbol
  rw [Trial.satisfy, ← hsymbol] at hatt
  cases symbol with
  | none =>
      cases hatt
      exact Yields.pure rfl
  | some s =>
      dsimp only at hatt ⊢
      cases hs : set.contains s with
      | true =>
          rw [hs] at hatt
          cases hatt
          exact Yields.pure rfl
      | false =>
          rw [hs] at hatt
          cases hatt
          exact Yields.pure rfl

theorem expectEach_follows (h : host.Faithful rules symbols I) (want : List σ) (c : Cursor) :
    Yields I (fun _ => True) (host.expectEach want c) fun next? =>
      next?.map Cursor.position = Trial.expectEach symbols want c.position := by
  induction want generalizing c with
  | nil => exact Yields.pure rfl
  | cons w want ih =>
      refine (h.current c).bind ?_
      intro symbol hsymbol
      rw [Trial.expectEach, ← hsymbol]
      cases symbol with
      | none => exact Yields.pure rfl
      | some s =>
          dsimp only
          cases s == w with
          | true => exact ih c.advance
          | false => exact Yields.pure rfl

theorem literal_follows (h : host.Faithful rules symbols I) (name : String) (first : σ)
    (rest : List σ) :
    Action.Follows I (host.literal name first rest) (Trial.literal symbols first rest) := by
  intro c att hatt
  refine (h.expectEach_follows (first :: rest) c).bind ?_
  intro next? hnext
  rw [Trial.literal, ← hnext] at hatt
  cases next? with
  | some next =>
      cases hatt
      exact Yields.pure rfl
  | none =>
      cases hatt
      refine (h.atEnd c).bind ?_
      intro ended _
      cases ended with
      | true => exact Yields.pure rfl
      | false => exact Yields.pure rfl

/-! ### One after the other -/

variable {o : Operand St σ α} {o' : Operand St σ β} {p : Parser σ ρ α} {q : Parser σ ρ β}
  {t : Trial α} {t' : Trial β}

theorem tryMap_follows (f : α → Except String β) (ho : o.Follows rules symbols I p t) :
    Action.Follows I (Host.tryMap f o) (t.tryMap f) := by
  intro c att hatt
  refine ho.apply.bind hatt ?_
  intro out hatt
  cases out with
  | failure e =>
      cases hatt
      exact Yields.pure rfl
  | success a next =>
      dsimp only [Outcome.attempt] at hatt ⊢
      cases hf : f a with
      | ok b =>
          rw [hf] at hatt
          cases hatt
          exact Yields.pure rfl
      | error message =>
          rw [hf] at hatt
          cases hatt
          exact Yields.pure rfl

theorem flatMap_follows {act : α → Action St σ β} {k : α → Trial β}
    (ho : o.Follows rules symbols I p t) (hact : ∀ a, (act a).Follows I (k a)) :
    Action.Follows I (Host.flatMap o act) (t.flatMap k) := by
  intro c att hatt
  refine ho.apply.forward hatt (fun _ => rfl) ?_
  intro a next hatt
  exact hact a next att hatt

theorem failAtEnd_follows (ho : o.Follows rules symbols I p t) (c : Cursor) :
    Yields I (fun _ => True)
      (do return (.failure ⟨c.position, .endOfInput (← o.firstSet)⟩ : Outcome σ γ))
      fun out => out.attempt = .failure c.position := by
  refine ho.speaks.firstSet.bind ?_
  intro set _
  exact Yields.pure rfl

theorem and_follows (h : host.Faithful rules symbols I) (ho : o.Follows rules symbols I p t)
    (ho' : o'.Follows rules symbols I q t') :
    Action.Follows I (host.and o o') (t.and t') := by
  intro c att hatt
  refine ho.apply.forward hatt (fun _ => rfl) ?_
  intro a next hatt
  obtain ⟨att', hfound, rfl⟩ := Trial.map_eq_some hatt
  refine (h.endsBefore ho'.speaks next).bind ?_
  intro ends hends
  cases ends with
  | true =>
      obtain ⟨hend, hneeds⟩ := hends rfl
      rw [ho'.honest.eq_failure_of_end hfound hend hneeds]
      exact failAtEnd_follows ho' next
  | false =>
      refine (ho'.apply next att' hfound).bind ?_
      rintro out rfl
      cases out with
      | failure e => exact Yields.pure rfl
      | success b next' => exact Yields.pure rfl

theorem sequenceFrom_follows {n : Nat} {os : Fin n → Operand St σ α} {ps : Fin n → Parser σ ρ α}
    {ts : Fin n → Trial α} (h : host.Faithful rules symbols I)
    (ho : ∀ i, (os i).Follows rules symbols I (ps i) (ts i)) (values : List α) :
    Action.Follows I (fun c => host.sequenceFrom values c (List.ofFn os))
      ((Trial.sequence (List.ofFn ts)).map fun rest => values.reverse ++ rest) := by
  induction n generalizing values with
  | zero =>
      intro c att hatt
      obtain ⟨att', hfound, rfl⟩ := Trial.map_eq_some hatt
      rw [List.ofFn_zero] at hfound
      cases hfound
      rw [List.ofFn_zero, Attempt.map, List.append_nil]
      exact Yields.pure rfl
  | succ n ih =>
      intro c att hatt
      obtain ⟨att', hfound, rfl⟩ := Trial.map_eq_some hatt
      rw [List.ofFn_succ] at hfound
      obtain ⟨first, hfirst, hrest⟩ := Option.bind_eq_some_iff.mp hfound
      rw [List.ofFn_succ]
      refine (h.endsBefore (ho 0).speaks c).bind ?_
      intro ends hends
      cases ends with
      | true =>
          obtain ⟨hend, hneeds⟩ := hends rfl
          rw [(ho 0).honest.eq_failure_of_end hfirst hend hneeds] at hrest
          cases hrest
          exact failAtEnd_follows (ho 0) c
      | false =>
          refine ((ho 0).apply c first hfirst).bind ?_
          rintro out rfl
          cases out with
          | failure e =>
              cases hrest
              exact Yields.pure rfl
          | success a next =>
              obtain ⟨rest, hbehind, rfl⟩ := Trial.map_eq_some hrest
              exact (ih (fun i => ho i.succ) (a :: values)).regroup (by simp) hbehind

/-! ### Alternatives -/

theorem orElse_follows {o : Operand St σ α} {q : Parser σ ρ α} {t : Trial α} {c : Cursor}
    {right : Attempt α} (h : host.Faithful rules symbols I) (left : Failure σ)
    (ho : o.Follows rules symbols I q t) (hright : t c.position = some right) :
    Yields I (fun _ => True) (do host.orElse c left (← o.apply c)) fun out =>
      out.attempt = right.orFurther left.position := by
  refine (ho.apply c right hright).bind ?_
  rintro out rfl
  cases out with
  | success a next =>
      refine (h.recover c left).bind ?_
      intro _ _
      exact Yields.pure rfl
  | failure e =>
      refine Yields.pure ?_
      rw [Outcome.attempt, Outcome.attempt, Failure.position_merge, Attempt.orFurther]

/-- At the end of the input no failure is further on than another. -/
theorem orFurther_of_end {t : Trial β} {c e : Nat} {right : Attempt β}
    (ht : t.Honest rules symbols q) (hright : t c = some right) (hend : symbols.length ≤ c)
    (he : e = c) : right.orFurther e = right := by
  have hposition := ht.position_eq hright hend
  cases right with
  | success a next => rfl
  | failure e' =>
      rw [Attempt.position] at hposition
      rw [Attempt.orFurther, he, hposition, Nat.max_self]

theorem or_follows {o' : Operand St σ α} {q : Parser σ ρ α} {t' : Trial α}
    (h : host.Faithful rules symbols I) (ho : o.Follows rules symbols I p t)
    (ho' : o'.Follows rules symbols I q t') : Action.Follows I (host.or o o') (t.or t') := by
  intro c att hatt
  obtain ⟨left, hleft, hatt⟩ := Option.bind_eq_some_iff.mp hatt
  refine (h.atEnd c).bind ?_
  intro ended hended
  cases ended with
  | false =>
      refine (ho.apply c left hleft).bind ?_
      rintro out rfl
      cases out with
      | success a next =>
          cases hatt
          exact Yields.pure rfl
      | failure e =>
          obtain ⟨right, hright, heq⟩ := Option.bind_eq_some_iff.mp hatt
          cases heq
          exact h.orElse_follows e ho' hright
  | true =>
      have hend : symbols.length ≤ c.position := hended.mp rfl
      refine ho'.speaks.acceptsEmpty.bind ?_
      intro rightAccepts hrightAccepts
      refine ho.speaks.acceptsEmpty.bind ?_
      intro leftAccepts hleftAccepts
      cases leftAccepts with
      | true =>
          refine (ho.apply c left hleft).bind ?_
          rintro out rfl
          cases out with
          | success a next =>
              cases hatt
              exact Yields.pure rfl
          | failure e =>
              obtain ⟨right, hright, heq⟩ := Option.bind_eq_some_iff.mp hatt
              cases heq
              cases rightAccepts with
              | true => exact h.orElse_follows e ho' hright
              | false =>
                  -- The right side was tried in vain, and no further on than here.
                  have he : e.position = c.position := ho.honest.position_eq hleft hend
                  rw [orFurther_of_end ho'.honest hright hend he,
                    ho'.honest.eq_failure_of_end hright hend hrightAccepts, ← he]
                  exact Yields.pure rfl
      | false =>
          rw [ho.honest.eq_failure_of_end hleft hend hleftAccepts] at hatt
          obtain ⟨right, hright, heq⟩ := Option.bind_eq_some_iff.mp hatt
          cases heq
          rw [orFurther_of_end ho'.honest hright hend rfl]
          cases rightAccepts with
          | true => exact ho'.apply c right hright
          | false =>
              rw [ho'.honest.eq_failure_of_end hright hend hrightAccepts]
              refine ho.speaks.firstSet.bind ?_
              intro left _
              refine ho'.speaks.firstSet.bind ?_
              intro right _
              exact Yields.pure rfl

theorem optional_follows (h : host.Faithful rules symbols I) (ho : o.Follows rules symbols I p t) :
    Action.Follows I (host.optional o) t.optional := by
  intro c att hatt
  obtain ⟨att', hfound, hatt⟩ := Option.bind_eq_some_iff.mp hatt
  refine (h.endsBefore ho.speaks c).bind ?_
  intro ends hends
  cases ends with
  | true =>
      obtain ⟨hend, hneeds⟩ := hends rfl
      rw [ho.honest.eq_failure_of_end hfound hend hneeds] at hatt
      cases hatt
      exact Yields.pure rfl
  | false =>
      refine (ho.apply c att' hfound).bind ?_
      rintro out rfl
      cases out with
      | success a next =>
          cases hatt
          exact Yields.pure rfl
      | failure e =>
          cases hatt
          refine (h.recover c e).bind ?_
          intro _ _
          exact Yields.pure rfl

theorem label_follows (name : String) (ho : o.Follows rules symbols I p t) :
    Action.Follows I (Host.label name o) t := by
  intro c att hatt
  refine (ho.apply c att hatt).bind ?_
  rintro out rfl
  cases out with
  | success a next => exact Yields.pure rfl
  | failure e =>
      dsimp only
      split
      · exact Yields.pure rfl
      · refine ho.speaks.firstSet.bind ?_
        intro set _
        split
        · exact Yields.pure rfl
        · exact Yields.pure rfl

/-! ### Looking without reading -/

theorem lookahead_follows (ho : o.Follows rules symbols I p t) :
    Action.Follows I (Host.lookahead o) t.lookahead := by
  intro c att hatt
  refine ho.apply.bind hatt ?_
  intro out hatt
  cases out with
  | success a next =>
      cases hatt
      exact Yields.pure rfl
  | failure e =>
      cases hatt
      exact Yields.pure rfl

theorem not_follows (ho : o.Follows rules symbols I p t) :
    Action.Follows I (Host.not o) t.not := by
  intro c att hatt
  refine ho.apply.bind hatt ?_
  intro out hatt
  cases out with
  | success a next =>
      cases hatt
      exact Yields.pure rfl
  | failure e =>
      cases hatt
      exact Yields.pure rfl

/-! ### Repetition -/

variable {rounds n : Nat}

/-- A round that is not predicted fails where it would begin, and ends the rounds just as well. -/
theorem roundsWhile_follows (h : host.Faithful rules symbols I) (ho : o.Follows rules symbols I p t)
    (hneeds : rules.AcceptsEmpty p false) {first : SymbolSet σ} (hfirst : rules.FirstSet p first)
    (step : β → α → β) (acc : β) :
    Action.Follows I (host.roundsWhile first o.apply step rounds acc)
      ((t.many n).map fun values => values.foldl step acc) := by
  induction rounds generalizing n acc with
  | zero => exact fun _ _ _ => Yields.throw trivial
  | succ rounds ih =>
      intro c att hatt
      obtain ⟨att', hmany, rfl⟩ := Trial.map_eq_some hatt
      cases n with
      | zero => cases hmany
      | succ n =>
          obtain ⟨round, hround, hrest⟩ := Option.bind_eq_some_iff.mp hmany
          refine (h.predicts first c).bind ?_
          intro predicted hpredicted
          cases predicted with
          | false =>
              have hnone := mt hpredicted.mpr Bool.false_ne_true
              rw [ho.honest.eq_failure_of_firstSet hround hneeds hfirst hnone] at hrest
              dsimp only at hrest
              rw [if_neg (Nat.lt_irrefl _)] at hrest
              cases hrest
              exact Yields.pure rfl
          | true =>
              refine (ho.apply c round hround).bind ?_
              rintro out rfl
              cases out with
              | success a next =>
                  obtain ⟨rest, hfound, rfl⟩ := Trial.map_eq_some hrest
                  exact (ih (step acc a)).regroup (by simp) hfound
              | failure e =>
                  dsimp only [Outcome.attempt] at hrest ⊢
                  split at hrest
                  · rename_i hlt
                    rw [if_pos hlt]
                    cases hrest
                    exact Yields.pure rfl
                  · rename_i hlt
                    rw [if_neg hlt]
                    cases hrest
                    refine (h.recover c e).bind ?_
                    intro _ _
                    exact Yields.pure rfl

/-- The rounds of a repetition, with values before them and put in order at the end. -/
theorem collect_follows (h : host.Faithful rules symbols I) (ho : o.Follows rules symbols I p t)
    (hneeds : rules.AcceptsEmpty p false) {first : SymbolSet σ} (hfirst : rules.FirstSet p first)
    (before : List α) :
    Action.Follows I (fun c => do
        return (← host.roundsWhile first o.apply (fun values a => a :: values) rounds before c).map
          List.reverse)
      ((t.many n).map fun values => before.reverse ++ values) := by
  intro c att hatt
  obtain ⟨att', hmany, rfl⟩ := Trial.map_eq_some hatt
  have hrounds : Action.Follows I
      (host.roundsWhile first o.apply (fun values a => a :: values) rounds before)
      ((t.many n).map fun values => values.foldl (fun values a => a :: values) before) :=
    h.roundsWhile_follows ho hneeds hfirst _ before
  refine ((hrounds.map List.reverse) c _
    (Trial.map_of_eq_some _ (Trial.map_of_eq_some _ hmany))).mono ?_
  intro out hout
  rw [hout, Attempt.map_map]
  simp

theorem many_follows (h : host.Faithful rules symbols I) (ho : o.Follows rules symbols I p t) :
    Action.Follows I (host.many rounds o) (t.many n) := by
  intro c att hatt
  refine (needsSymbol_yields (fun _ => trivial) ho.speaks .many).bind ?_
  intro _ hneeds
  refine ho.speaks.firstSet.bind ?_
  intro first hfirst
  exact (h.collect_follows ho hneeds hfirst []).of_map (fun _ => rfl) c att hatt

theorem many1_follows (h : host.Faithful rules symbols I) (ho : o.Follows rules symbols I p t) :
    Action.Follows I (host.many1 rounds o) (t.many1 n) := by
  intro c att hatt
  refine (needsSymbol_yields (fun _ => trivial) ho.speaks .many1).bind ?_
  intro _ hneeds
  refine ho.apply.forward hatt (fun _ => rfl) ?_
  intro a next hatt
  refine ho.speaks.firstSet.bind ?_
  intro first hfirst
  exact h.collect_follows ho hneeds hfirst [a] next att hatt

theorem skipMany_follows (h : host.Faithful rules symbols I)
    (ho : o.Follows rules symbols I p t) :
    Action.Follows I (host.skipMany rounds o) ((t.many n).map fun _ => ()) := by
  intro c att hatt
  refine (needsSymbol_yields (fun _ => trivial) ho.speaks .skipMany).bind ?_
  intro _ hneeds
  refine ho.speaks.firstSet.bind ?_
  intro first hfirst
  exact h.roundsWhile_follows ho hneeds hfirst (fun _ _ => ()) () c att hatt

theorem timesFrom_follows (h : host.Faithful rules symbols I) (ho : o.Follows rules symbols I p t)
    (required allowed : Nat) (values : List α) :
    Action.Follows I (host.timesFrom o required allowed values)
      ((t.times required allowed).map fun rest => values.reverse ++ rest) := by
  induction allowed generalizing required values with
  | zero =>
      intro c att hatt
      obtain ⟨att', hfound, rfl⟩ := Trial.map_eq_some hatt
      cases hfound
      rw [Attempt.map, List.append_nil]
      exact Yields.pure rfl
  | succ allowed ih =>
      intro c att hatt
      obtain ⟨att', hfound, rfl⟩ := Trial.map_eq_some hatt
      obtain ⟨round, hround, hrest⟩ := Option.bind_eq_some_iff.mp hfound
      refine (h.endsBefore ho.speaks c).bind ?_
      intro ends hends
      cases ends with
      | true =>
          obtain ⟨hend, hneeds⟩ := hends rfl
          rw [ho.honest.eq_failure_of_end hround hend hneeds] at hrest
          rw [if_pos rfl]
          dsimp only at hrest
          by_cases hzero : required = 0
          · rw [if_pos hzero] at hrest ⊢
            cases hrest
            rw [Attempt.map, List.append_nil]
            exact Yields.pure rfl
          · rw [if_neg hzero] at hrest ⊢
            cases hrest
            exact failAtEnd_follows ho c
      | false =>
          refine (ho.apply c round hround).bind ?_
          rintro out rfl
          cases out with
          | success a next =>
              obtain ⟨rest, hbehind, rfl⟩ := Trial.map_eq_some hrest
              exact (ih (required - 1) (a :: values)).regroup (by simp) hbehind
          | failure e =>
              dsimp only [Outcome.attempt] at hrest ⊢
              by_cases hzero : required = 0
              · rw [if_pos hzero] at hrest ⊢
                cases hrest
                rw [Attempt.map, List.append_nil]
                refine (h.recover c e).bind ?_
                intro _ _
                exact Yields.pure rfl
              · rw [if_neg hzero] at hrest ⊢
                cases hrest
                exact Yields.pure rfl

theorem times_follows (h : host.Faithful rules symbols I) (ho : o.Follows rules symbols I p t)
    (min max : Nat) : Action.Follows I (host.times min max o) (t.times min max) := by
  intro c att hatt
  have hloop := (h.timesFrom_follows ho min max []).of_map (fun _ => rfl) c att hatt
  unfold Host.times
  split
  · exact (needsSymbol_yields (fun _ => trivial) ho.speaks .between).bind fun _ _ => hloop
  · exact hloop

/-- Behind a stop that has failed at the end of the input, a round fails there too. -/
theorem failure_behind_stop {c e : Nat} {n : Nat} {att : Attempt (List α)}
    (ho : o.Follows rules symbols I p t) (hend : symbols.length ≤ c)
    (hneeds : rules.AcceptsEmpty p false) (he : e = c)
    (h : (do
      match ← t c with
      | .success a next => return (← t.manyTill t' n next).map fun values => a :: values
      | .failure e' => return .failure (max e e')) = some att) : att = .failure e := by
  obtain ⟨round, hround, hrest⟩ := Option.bind_eq_some_iff.mp h
  rw [ho.honest.eq_failure_of_end hround hend hneeds] at hrest
  cases hrest
  rw [he, Nat.max_self]

theorem manyTillFrom_follows (h : host.Faithful rules symbols I)
    (ho : o.Follows rules symbols I p t) (hs : o'.Follows rules symbols I q t')
    (hneeds : rules.AcceptsEmpty p false) (values : List α) :
    Action.Follows I (host.manyTillFrom o o' rounds values)
      ((t.manyTill t' n).map fun rest => values.reverse ++ rest) := by
  induction rounds generalizing n values with
  | zero => exact fun _ _ _ => Yields.throw trivial
  | succ rounds ih =>
      intro c att hatt
      obtain ⟨att', htill, rfl⟩ := Trial.map_eq_some hatt
      cases n with
      | zero => cases htill
      | succ n =>
          obtain ⟨stop, hstop, hrest⟩ := Option.bind_eq_some_iff.mp htill
          refine (h.atEnd c).bind ?_
          intro ended hended
          cases ended with
          | true =>
              have hend : symbols.length ≤ c.position := hended.mp rfl
              have hposition := hs.honest.position_eq hstop hend
              refine hs.speaks.acceptsEmpty.bind ?_
              intro accepts haccepts
              cases accepts with
              | true =>
                  refine (hs.apply c stop hstop).bind ?_
                  rintro out rfl
                  cases out with
                  | success b next =>
                      cases hrest
                      rw [Attempt.map, List.append_nil]
                      exact Yields.pure rfl
                  | failure e =>
                      rw [failure_behind_stop ho hend hneeds hposition hrest]
                      exact Yields.pure rfl
              | false =>
                  rw [hs.honest.eq_failure_of_end hstop hend haccepts] at hrest
                  rw [failure_behind_stop ho hend hneeds rfl hrest]
                  exact failAtEnd_follows hs c
          | false =>
              refine (hs.apply c stop hstop).bind ?_
              rintro out rfl
              cases out with
              | success b next =>
                  cases hrest
                  rw [Attempt.map, List.append_nil]
                  exact Yields.pure rfl
              | failure stopFailure =>
                  obtain ⟨round, hround, hrest⟩ := Option.bind_eq_some_iff.mp hrest
                  refine (ho.apply c round hround).bind ?_
                  rintro out rfl
                  cases out with
                  | success a next =>
                      obtain ⟨rest, hbehind, rfl⟩ := Trial.map_eq_some hrest
                      refine (h.recover c stopFailure).bind ?_
                      intro _ _
                      exact (ih (a :: values)).regroup (by simp) hbehind
                  | failure e =>
                      cases hrest
                      refine Yields.pure ?_
                      rw [Outcome.attempt, Failure.position_merge]
                      rfl

theorem manyTill_follows (h : host.Faithful rules symbols I) (ho : o.Follows rules symbols I p t)
    (hs : o'.Follows rules symbols I q t') :
    Action.Follows I (host.manyTill rounds o o') (t.manyTill t' n) := by
  intro c att hatt
  refine (needsSymbol_yields (fun _ => trivial) ho.speaks .manyTill).bind ?_
  intro _ hneeds
  exact (h.manyTillFrom_follows ho hs hneeds []).of_map (fun _ => rfl) c att hatt

/-! ### Chains of operators -/

variable {op : Parser σ ρ β} {oop : Operand St σ β} {opTrial : Trial β}

theorem chainRound_follows (ho : o.Follows rules symbols I p t)
    (hop : oop.Follows rules symbols I op opTrial) :
    Action.Follows I (Host.chainRound o.apply oop.apply) (opTrial.and t) := by
  intro c att hatt
  refine hop.apply.forward hatt (fun _ => rfl) ?_
  intro f next hatt
  exact ho.apply.map (fun a => (f, a)) next att hatt

/-- A round whose operator is not predicted fails with it. -/
theorem chainFrom_follows (h : host.Faithful rules symbols I) (ho : o.Follows rules symbols I p t)
    (hop : oop.Follows rules symbols I op opTrial) {opEmpty : Bool} {opFirst : SymbolSet σ}
    (hempty : rules.AcceptsEmpty op opEmpty) (hfirst : rules.FirstSet op opFirst)
    (pairs : List (β × α)) :
    Action.Follows I (host.chainFrom opEmpty opFirst o.apply oop.apply rounds pairs)
      (((opTrial.and t).many n).map fun new => new.reverse ++ pairs) := by
  induction rounds generalizing n pairs with
  | zero => exact fun _ _ _ => Yields.throw trivial
  | succ rounds ih =>
      intro c att hatt
      obtain ⟨att', hmany, rfl⟩ := Trial.map_eq_some hatt
      cases n with
      | zero => cases hmany
      | succ n =>
          obtain ⟨round, hround, hrest⟩ := Option.bind_eq_some_iff.mp hmany
          refine (h.chainEnds opEmpty opFirst c).bind ?_
          intro ends hends
          cases ends with
          | true =>
              obtain ⟨rfl, hnone⟩ := hends.mp rfl
              obtain ⟨first, hopFound, hbehind⟩ := Option.bind_eq_some_iff.mp hround
              rw [hop.honest.eq_failure_of_firstSet hopFound hempty hfirst hnone] at hbehind
              cases hbehind
              dsimp only at hrest
              rw [if_neg (Nat.lt_irrefl _)] at hrest
              cases hrest
              exact Yields.pure rfl
          | false =>
              refine (chainRound_follows ho hop c round hround).bind ?_
              rintro out rfl
              cases out with
              | success pair next =>
                  obtain ⟨rest, hbehind, rfl⟩ := Trial.map_eq_some hrest
                  exact (ih (pair :: pairs)).regroup (by simp) hbehind
              | failure e =>
                  dsimp only [Outcome.attempt] at hrest ⊢
                  split at hrest
                  · rename_i hlt
                    rw [if_pos hlt]
                    cases hrest
                    exact Yields.pure rfl
                  · rename_i hlt
                    rw [if_neg hlt]
                    cases hrest
                    refine (h.recover c e).bind ?_
                    intro _ _
                    exact Yields.pure rfl

theorem chain_follows {op : Parser σ ρ (α → α → α)} {oop : Operand St σ (α → α → α)}
    {opTrial : Trial (α → α → α)} (h : host.Faithful rules symbols I) (side : Side)
    (ho : o.Follows rules symbols I p t) (hop : oop.Follows rules symbols I op opTrial) :
    Action.Follows I (host.chain rounds side o oop) (Trial.chain side t opTrial n) := by
  intro c att hatt
  refine ho.apply.forward hatt (fun _ => rfl) ?_
  intro first next hatt
  obtain ⟨pairs, hpairs, rfl⟩ := Trial.map_eq_some hatt
  refine hop.speaks.firstSet.bind ?_
  intro opFirst hfirst
  refine hop.speaks.acceptsEmpty.bind ?_
  intro opEmpty hempty
  refine (needsOperand_yields (fun _ => trivial) ho.speaks opEmpty).bind ?_
  intro _ _
  refine ((h.chainFrom_follows ho hop hempty hfirst []).map (Host.group side first) next _
    (Trial.map_of_eq_some _ (Trial.map_of_eq_some _ hpairs))).mono ?_
  intro out hout
  rw [hout, Attempt.map_map]
  simp only [List.append_nil]

end Host.Faithful

/-! ### Runs -/

section

variable [BEq σ] {host : Host σ ρ St} {rules : Rules σ ρ} {symbols : List σ} {I : St → Prop}

/-- If the rules follow honest trials, so does every premade parser over them. -/
theorem Parser.run_follows {rule : (i : Nat) → Action St σ (ρ i)} {trial : (i : Nat) → Trial (ρ i)}
    {rounds n : Nat} (h : host.Faithful rules symbols I)
    (hrules : ∀ i body, rules.body? i = some body → body.Everywhere (rules.Sure True))
    (hhonest : ∀ i, (trial i).Honest rules symbols (.rule i : Parser σ ρ (ρ i)))
    (hrule : ∀ i, (rule i).Follows I (trial i)) {p : Parser σ ρ α}
    (hp : p.Everywhere (rules.Sure True)) :
    (p.run host rule rounds).Follows I (p.trial symbols trial n) := by
  have follows : ∀ {α : Type} {p : Parser σ ρ α}, p.Everywhere (rules.Sure True) →
      (p.run host rule rounds).Follows I (p.trial symbols trial n) →
        (run.operand host p (p.run host rule rounds)).Follows rules symbols I p
          (p.trial symbols trial n) :=
    fun hp hfollows => ⟨h.operand_speaks (fun _ => trivial) _ _,
      Parser.trial_honest hrules hhonest hp, hfollows⟩
  induction p with
  | pure a =>
      intro c att hatt
      cases hatt
      exact Yields.pure rfl
  | fail message =>
      intro c att hatt
      cases hatt
      cases message with
      | none => exact Yields.pure rfl
      | some message => exact Yields.pure rfl
  | eof => exact h.eof_follows
  | satisfy set => exact h.satisfy_follows set
  | literal name first rest => exact h.literal_follows name first rest
  | longest | declared | recording => exact absurd hp.here.1 id
  | map f p ih => exact (ih hp.2).map f
  | tryMap f p ih => exact Host.Faithful.tryMap_follows f (follows hp.2 (ih hp.2))
  | and p q ihp ihq =>
      exact h.and_follows (follows hp.2.1 (ihp hp.2.1)) (follows hp.2.2 (ihq hp.2.2))
  | or p q ihp ihq =>
      exact h.or_follows (follows hp.2.1 (ihp hp.2.1)) (follows hp.2.2 (ihq hp.2.2))
  | flatMap p k ihp ihk =>
      exact Host.Faithful.flatMap_follows (follows hp.2.1 (ihp hp.2.1))
        fun a => ihk a (hp.2.2 a)
  | label name p ih => exact Host.Faithful.label_follows name (follows hp.2 (ih hp.2))
  | lookahead p ih => exact Host.Faithful.lookahead_follows (follows hp.2 (ih hp.2))
  | not p ih => exact Host.Faithful.not_follows (follows hp.2 (ih hp.2))
  | optional p ih => exact h.optional_follows (follows hp.2 (ih hp.2))
  | sequence ps ih =>
      exact (h.sequenceFrom_follows (fun i => follows (hp.2 i) (ih i (hp.2 i))) []).of_map
        fun _ => rfl
  | many p ih => exact h.many_follows (follows hp.2 (ih hp.2))
  | many1 p ih => exact h.many1_follows (follows hp.2 (ih hp.2))
  | skipMany p ih => exact h.skipMany_follows (follows hp.2 (ih hp.2))
  | times min max p ih => exact h.times_follows (follows hp.2 (ih hp.2)) min max
  | manyTill p stop ihp ihs =>
      exact h.manyTill_follows (follows hp.2.1 (ihp hp.2.1)) (follows hp.2.2 (ihs hp.2.2))
  | chain side operand op ihp iho =>
      exact h.chain_follows side (follows hp.2.1 (ihp hp.2.1)) (follows hp.2.2 (iho hp.2.2))
  | rule i => exact hrule i

end

namespace Rules

variable [BEq σ] {rules : Rules σ ρ} {symbols : List σ}

theorem apply_follows {host : Host σ ρ St} {I : St → Prop} (h : host.Faithful rules symbols I)
    (hrules : ∀ i body, rules.body? i = some body → body.Everywhere (rules.Sure True))
    (budget n : Nat) {p : Parser σ ρ α} (hp : p.Everywhere (rules.Sure True)) :
    (rules.apply host budget p).Follows I (rules.trial symbols n p) := by
  induction budget generalizing α p n with
  | zero => exact fun _ _ _ => Yields.throw trivial
  | succ budget ih =>
      cases n with
      | zero => exact fun _ _ => nofun
      | succ n =>
          refine Parser.run_follows h hrules ?_ ?_ hp
          · intro i
            exact trial_honest hrules (n + 1) (p := (.rule i : Parser σ ρ (ρ i)))
              ⟨trivial, fun _ => trivial⟩
          · intro i
            cases hi : rules.body? i with
            | none => exact fun _ _ _ => Yields.throw trivial
            | some body => exact ih n (hrules i body hi)

/-- Where a run and a trial of one parser come to an end, they come to the same: to the same value
and the same place behind it, or to failures at one position. -/
theorem apply_eq_trial [Source S σ] {p : Parser σ ρ α} (hp : rules.Throughout rules.Premade p)
    {s s' : Session σ S} (hs : s.Consistent rules symbols) {budget n : Nat} {c : Cursor}
    {out : Outcome σ α} {att : Attempt α}
    (hrun : rules.apply (Session.host rules) budget p c s = .ok out s')
    (htrial : rules.trial symbols n p c.position = some att) : out.attempt = att := by
  have hsure := hp.sure_of_premade
  exact ((apply_follows (Session.host_faithful rules symbols) hsure.body budget n hsure.start c att
    htrial).of_ok hs hrun).1

/-- The calculator fails behind an open parenthesis, whether it looks ahead or not. -/
theorem apply_eq_trial_calculator :
    ∃ out s', Calculator.rules.apply (Session.host Calculator.rules) 20 Calculator.calculator .start
        { source := "2*(3+4)^".toList.toArray : Session Char (Array Char) } = .ok out s' ∧
      Calculator.rules.trial "2*(3+4)^".toList 20 Calculator.calculator 0 = some (.failure 8) ∧
      out.attempt = .failure 8 :=
  ⟨_, _, rfl, rfl, apply_eq_trial Calculator.premade
    (Session.consistent_start (Source.holds_array "2*(3+4)^".toList.toArray))
    (rfl : Calculator.rules.apply (Session.host Calculator.rules) 20 _ .start _ = .ok _ _)
    (rfl : Calculator.rules.trial _ 20 Calculator.calculator 0 = some (.failure 8))⟩

end Rules

end PredictiveParsing
