import PredictiveParsing.Proofs.Failing
import PredictiveParsing.Proofs.Merge
import PredictiveParsing.Proofs.Mirrors
import PredictiveParsing.Text.Parsers

/-!
# What failures expect

A failure that expects a set names what would have been right where it is. The set is a union of
sets, each put there by one parser of the grammar (`Rules.Unmet`): by a set of symbols that the next
symbol is not in; by a text that does not stand there, though its first symbol may; by a label,
which stands for all that its parser can begin on where the parser failed; or by `fail`, which
expects nothing. Merging keeps this, and so do recording a failure and reporting it in the end
(`Rules.expected_unmet`).

So if there is no `fail` in the grammar, there is a symbol where the failure is. And if labels name
nothing but sets of symbols, and texts are of one symbol only, a symbol there is not in the set.
None of these conditions can be left out (`Rules.expected_met`).
-/

namespace PredictiveParsing

variable {σ : Type} {ρ : Nat → Type} {S St α : Type}

/-- Two reasons together expect a set if both do, or if one does and the other says less. -/
theorem Reason.merge_eq_expected {r r' : Reason σ} {set : SymbolSet σ}
    (h : r.merge r' = .expected set) :
    (∃ s t, r = .expected s ∧ r' = .expected t ∧ set = s.union t) ∨
      r = .expected set ∨ r' = .expected set := by
  rcases naming_or_message r with ⟨e, s, rfl⟩ | ⟨m, rfl⟩
  · rcases naming_or_message r' with ⟨e', t, rfl⟩ | ⟨m', rfl⟩
    · rw [naming_merge] at h
      cases e with
      | true => cases h
      | false =>
          cases e' with
          | true => cases h
          | false =>
              cases h
              exact .inl ⟨s, t, rfl, rfl, rfl⟩
    · rw [merge_message] at h
      split at h
      · cases h
      · exact .inr (.inl h)
  · rcases naming_or_message r' with ⟨e', t, rfl⟩ | ⟨m', rfl⟩
    · rw [message_merge] at h
      split at h
      · cases h
      · exact .inr (.inr h)
    · cases h

def Stands [BEq σ] (symbols : List σ) : List σ → Nat → Prop
  | [], _ => True
  | want :: rest, i =>
    (∃ x, symbols[i]? = some x ∧ (x == want) = true) ∧ Stands symbols rest (i + 1)

def Parser.IsSatisfy : (α : Type) → Parser σ ρ α → Prop
  | _, .satisfy _ => True
  | _, _ => False

namespace Rules

variable [BEq σ]

/-- The set is a union of sets that parsers with `P` expected in vain at the position. -/
inductive Unmet (rules : Rules σ ρ) (symbols : List σ) (P : (α : Type) → Parser σ ρ α → Prop)
    (i : Nat) : SymbolSet σ → Prop where
  /-- Nothing was expected. -/
  | nothing {α : Type} : P α (.fail none) → Unmet rules symbols P i .empty
  /-- The symbol is not in the set. -/
  | symbol {set : SymbolSet σ} {x : σ} : P σ (.satisfy set) → symbols[i]? = some x →
      set.contains x = false → Unmet rules symbols P i set
  /-- The text does not stand there. -/
  | text {name : String} {first x : σ} {rest : List σ} :
      P (List σ) (.literal name first rest) → symbols[i]? = some x →
      ¬Stands symbols (first :: rest) i → Unmet rules symbols P i (.predicate name (· == first))
  /-- The labelled parser began there and expected something else in vain. -/
  | label {α : Type} {name : String} {p : Parser σ ρ α} {c : Cursor} {first set : SymbolSet σ} :
      P α (.label name p) → rules.FirstSet p first → c.position = i →
      rules.ComesTo symbols p c (.failure ⟨i, .expected set⟩) → Unmet rules symbols P i set →
      Unmet rules symbols P i (.predicate name first.contains)
  | union {s t : SymbolSet σ} : Unmet rules symbols P i s → Unmet rules symbols P i t →
      Unmet rules symbols P i (s.union t)

namespace Unmet

variable {rules : Rules σ ρ} {symbols : List σ} {P : (α : Type) → Parser σ ρ α → Prop} {i : Nat}
  {set : SymbolSet σ}

/-- Without `fail` in the grammar, there is a symbol where something was expected. -/
theorem exists_symbol (h : rules.Unmet symbols P i set) (hfail : ∀ α, ¬P α (.fail none)) :
    ∃ x, symbols[i]? = some x := by
  induction h with
  | nothing hp => exact absurd hp (hfail _)
  | symbol _ hx _ => exact ⟨_, hx⟩
  | text _ hx _ => exact ⟨_, hx⟩
  | label _ _ _ _ _ ih => exact ih
  | union _ _ ih _ => exact ih

/-- A set of symbols fails only where it does not have the symbol. -/
theorem contains_eq_false_of_satisfy {α : Type} {p : Parser σ ρ α} {c : Cursor}
    {first : SymbolSet σ} {f : Failure σ} {x : σ} (hp : p.IsSatisfy)
    (hfirst : rules.FirstSet p first) (hx : symbols[c.position]? = some x)
    (hfails : rules.ComesTo symbols p c (.failure f)) : first.contains x = false := by
  cases p with
  | satisfy own =>
      cases hfirst.unique rfl
      rw [Bool.eq_false_iff]
      intro hcontains
      cases hfails.unique (comesTo_satisfy hx hcontains)
  | _ => exact hp.elim

/-- If labels name sets of symbols and texts are of one symbol only, the symbol is not in the
set. -/
theorem contains_eq_false (h : rules.Unmet symbols P i set)
    (hlabel : ∀ α name (p : Parser σ ρ α), P α (.label name p) → p.IsSatisfy)
    (htext : ∀ name first rest, P (List σ) (.literal name first rest) → rest = []) {x : σ}
    (hx : symbols[i]? = some x) : set.contains x = false := by
  induction h with
  | nothing => rfl
  | symbol _ hsymbol hset =>
      cases hsymbol.symm.trans hx
      exact hset
  | text hp _ hstands =>
      cases htext _ _ _ hp
      exact Bool.eq_false_of_not_eq_true fun hfirst => hstands ⟨⟨x, hx, hfirst⟩, trivial⟩
  | label hp hfirst hc hfails _ _ =>
      have hmissed := contains_eq_false_of_satisfy (hlabel _ _ _ hp) hfirst (hc ▸ hx) hfails
      exact hmissed
  | union _ _ ihs iht => rw [SymbolSet.contains_union, ihs, iht, Bool.or_false]

def OfFailure (rules : Rules σ ρ) (symbols : List σ) (P : (α : Type) → Parser σ ρ α → Prop)
    (f : Failure σ) : Prop :=
  ∀ set, f.reason = .expected set → rules.Unmet symbols P f.position set

theorem ofFailure_expected (h : rules.Unmet symbols P i set) :
    OfFailure rules symbols P ⟨i, .expected set⟩ := by
  rintro _ ⟨⟩
  exact h

theorem stable (rules : Rules σ ρ) (symbols : List σ)
    (P : (α : Type) → Parser σ ρ α → Prop) : Failure.Stable (OfFailure rules symbols P) where
  ended _ _ := nofun
  message _ _ := nofun
  merge f g hf hg := by
    rcases Nat.lt_trichotomy f.position g.position with hlt | heq | hgt
    · rw [Failure.merge_of_gt hlt]
      exact hg
    · rw [Failure.merge_of_eq heq]
      intro set hmerge
      rcases Reason.merge_eq_expected hmerge with ⟨s, t, hs, ht, rfl⟩ | hs | ht
      · exact (hf s hs).union (heq ▸ hg t ht)
      · exact hf set hs
      · exact heq ▸ hg set ht
    · rw [Failure.merge_of_lt hgt]
      exact hf

end Unmet

end Rules

/-! ### Sessions -/

namespace Session

variable [BEq σ] [Source S σ]

structure Recalls (rules : Rules σ ρ) (symbols : List σ) (T : Failure σ → Prop)
    (s : Session σ S) : Prop extends Consistent rules symbols s where
  recovered : ∀ f, s.recovered = some f → T f

variable {rules : Rules σ ρ} {symbols : List σ} {T : Failure σ → Prop}

/-- Questions about the grammar do not touch the record. -/
theorem inquire_recalls {q : Inquiry (Memory σ) α} {r : α → Prop}
    (h : Yields (Consistent (S := S) rules symbols) (fun _ => True) (inquire q) r) :
    Yields (Recalls (S := S) rules symbols T) (fun _ => True) (inquire q) r := by
  intro s hs
  have hst := h s hs.toConsistent
  cases hq : q s.memory with
  | error e m =>
      rw [inquire_of_error hq]
      exact trivial
  | ok a m =>
      rw [inquire_of_ok hq] at hst ⊢
      exact ⟨hst.1, hst.2, hs.recovered⟩

theorem host_preserves (rules : Rules σ ρ) (symbols : List σ) (hT : Failure.Stable T) :
    (host (S := S) rules).Preserves rules symbols (Recalls rules symbols T) T where
  symbolAt i s hs := by
    obtain ⟨hsymbol, hs'⟩ := (host_faithful rules symbols).symbolAt i s hs.toConsistent
    exact ⟨hsymbol, hs', hs.recovered⟩
  acceptsEmpty p :=
    (inquire_recalls ((host_faithful rules symbols).acceptsEmpty p)).mono fun _ _ => trivial
  firstSet p := inquire_recalls ((host_faithful rules symbols).firstSet p)
  recover c f hf := by
    intro s hs
    rw [recover_eq]
    cases c.tracked with
    | false => exact ⟨trivial, hs⟩
    | true =>
        refine ⟨trivial, ⟨hs.memory, hs.source⟩, ?_⟩
        intro g hg
        cases hrecovered : s.recovered with
        | none =>
            simp only [if_true, hrecovered, recordWith, Option.some.injEq] at hg
            exact hg ▸ hf
        | some r =>
            simp only [if_true, hrecovered, recordWith, Option.some.injEq] at hg
            exact hg ▸ hT.merge r f (hs.recovered r hrecovered) hf

end Session

/-! ### Texts and labels -/

namespace Host.Preserves

variable [BEq σ] {host : Host σ ρ St} {rules : Rules σ ρ} {symbols : List σ} {I : St → Prop}
  {T : Failure σ → Prop} {c : Cursor}

/-- The comparison finds no end of a text only where the text does not stand. -/
theorem expectEach (h : host.Preserves rules symbols I T) (want : List σ) (c : Cursor) :
    Yields I (fun _ => True) (host.expectEach want c) fun next? =>
      next? = none → ¬Stands symbols want c.position := by
  induction want generalizing c with
  | nil => exact Yields.pure nofun
  | cons w want ih =>
      refine (h.current c).bind ?_
      intro symbol hsymbol
      cases symbol with
      | none =>
          refine Yields.pure ?_
          rintro - ⟨⟨x, hx, _⟩, _⟩
          cases hsymbol.trans hx
      | some s =>
          dsimp only
          by_cases hs : (s == w) = true
          · rw [if_pos hs]
            refine (ih c.advance).mono ?_
            intro next? hnext hnone hstands
            exact hnext hnone hstands.2
          · rw [if_neg hs]
            refine Yields.pure ?_
            rintro - ⟨⟨x, hx, hequal⟩, _⟩
            cases hsymbol.trans hx
            exact hs hequal

theorem literal (h : host.Preserves rules symbols I T) (hT : Failure.Stable T) {name : String}
    {first : σ} {rest : List σ}
    (htext : ∀ i x, symbols[i]? = some x → ¬Stands symbols (first :: rest) i →
      T ⟨i, .expected (.predicate name (· == first))⟩) :
    (host.literal name first rest).FailsWith I T := by
  intro c
  refine (h.expectEach (first :: rest) c).bind ?_
  intro next? hstands
  cases next? with
  | some next => exact Yields.pure trivial
  | none =>
      refine (h.atEnd c).bind ?_
      intro ended hended
      cases ended with
      | true => exact Yields.pure (hT.ended _ _)
      | false =>
          obtain ⟨x, hx⟩ := Option.isSome_iff_exists.mp (Option.isNone_eq_false_iff.mp hended.symm)
          exact Yields.pure (htext c.position x hx (hstands rfl))

/-- A label speaks of what its parser failed to begin on. -/
theorem label (h : host.Preserves rules symbols I T) (hT : Failure.Stable T) {p : Parser σ ρ α}
    {act : Action St σ α} {name : String}
    (hact : ∀ c, Yields I (fun _ => True) (act c) fun out =>
      out.FailsWith T ∧ rules.ComesTo symbols p c out)
    (hlabel : ∀ c set first, rules.FirstSet p first →
      rules.ComesTo symbols p c (.failure ⟨c.position, .expected set⟩) →
      T ⟨c.position, .expected set⟩ →
      T ⟨c.position, .expected (.predicate name first.contains)⟩) :
    (Host.label name (Parser.run.operand host p act)).FailsWith I T := by
  intro c
  refine (hact c).bind ?_
  rintro out ⟨hout, hcomes⟩
  cases out with
  | success a next => exact Yields.pure trivial
  | failure e =>
      dsimp only
      split
      · exact Yields.pure hout
      · rename_i hbegan
        rw [Bool.or_eq_true, not_or, bne_iff_ne, not_not, Bool.not_eq_true] at hbegan
        refine (Inquiry.act_yields (fun _ => trivial) (h.firstSet p)).bind ?_
        intro first hfirst
        rcases e with ⟨i, reason⟩
        obtain ⟨rfl, hmessage⟩ := hbegan
        cases reason with
        | message m => cases hmessage
        | endOfInput set => exact Yields.pure (hT.ended _ _)
        | expected set => exact Yields.pure (hlabel c set first hfirst hcomes hout)

end Host.Preserves

/-! ### Runs -/

namespace Rules

variable [BEq σ] [Source S σ] {rules : Rules σ ρ} {symbols : List σ}
  {P : (α : Type) → Parser σ ρ α → Prop}

/-- If the rules fail only where something is unmet, so does every parser over them. -/
theorem run_unmet {rounds : Nat}
    (hrule : ∀ i, (rules.apply (Session.host (S := S) rules) (rounds + 1) (.rule i)).FailsWith
      (Session.Recalls rules symbols (Unmet.OfFailure rules symbols P))
      (Unmet.OfFailure rules symbols P))
    (p : Parser σ ρ α) (hp : p.Everywhere fun α q => Parser.RecordsNothing α q ∧ P α q) :
    (rules.apply (Session.host (S := S) rules) (rounds + 1) p).FailsWith
      (Session.Recalls rules symbols (Unmet.OfFailure rules symbols P))
      (Unmet.OfFailure rules symbols P) := by
  have hT := Unmet.stable rules symbols P
  have h := Session.host_preserves (S := S) rules symbols hT
  induction p with
  | pure a => exact fun c => Yields.pure trivial
  | fail message =>
      cases message with
      | none => exact fun c => Yields.pure (Unmet.ofFailure_expected (.nothing hp.2))
      | some message => exact fun c => Yields.pure (hT.message _ _)
  | eof => exact h.eof hT
  | satisfy set =>
      exact h.satisfy hT fun i x hx hset => Unmet.ofFailure_expected (.symbol hp.2 hx hset)
  | literal name first rest =>
      exact h.literal hT fun i x hx hstands => Unmet.ofFailure_expected (.text hp.2 hx hstands)
  | longest r => exact h.longest hT rounds r
  | map f p ih => exact Host.Preserves.map f (ih hp.2)
  | tryMap f p ih => exact Host.Preserves.tryMap hT (h.operand p (ih hp.2)) f
  | and p q ihp ihq => exact h.and hT (h.operand p (ihp hp.2.1)) (h.operand q (ihq hp.2.2))
  | or p q ihp ihq => exact h.or hT (h.operand p (ihp hp.2.1)) (h.operand q (ihq hp.2.2))
  | flatMap p k ihp ihk =>
      exact Host.Preserves.flatMap (h.operand p (ihp hp.2.1)) fun a => ihk a (hp.2.2 a)
  | label name p ih =>
      refine h.label hT (fun c => ?_) ?_
      · refine (ih hp.2 c).of_run.mono ?_
        rintro out ⟨s, s', hs, hrun⟩
        exact ⟨((ih hp.2 c).of_ok hs hrun).1, comesTo_of_run (rounds + 1) hs.toConsistent hrun⟩
      · intro c set first hfirst hcomes hunmet
        exact Unmet.ofFailure_expected (.label hp.1.2 hfirst rfl hcomes (hunmet set rfl))
  | lookahead p ih => exact Host.Preserves.lookahead (h.operand p (ih hp.2))
  | not p ih => exact Host.Preserves.not hT (h.operand p (ih hp.2))
  | optional p ih => exact h.optional (h.operand p (ih hp.2))
  | sequence ps ih =>
      refine h.sequenceFrom hT _ ?_ []
      intro o ho
      obtain ⟨i, rfl⟩ := List.mem_ofFn.mp ho
      exact h.operand (ps i) (ih i (hp.2 i))
  | many p ih => exact h.many (h.operand p (ih hp.2)) rounds
  | many1 p ih => exact h.many1 (h.operand p (ih hp.2)) rounds
  | skipMany p ih => exact h.skipMany (h.operand p (ih hp.2)) rounds
  | times min max p ih => exact h.times hT (h.operand p (ih hp.2)) min max
  | manyTill p stop ihp ihs =>
      exact h.manyTill hT (h.operand p (ihp hp.2.1)) (h.operand stop (ihs hp.2.2)) rounds
  | chain side operand op ihp iho =>
      exact h.chain (h.operand operand (ihp hp.2.1)) (h.operand op (iho hp.2.2)) rounds side
  | declared _ _ p ih => exact ih hp.2
  | recording f p ih => exact hp.1.1.elim
  | rule i => exact hrule i

variable {p : Parser σ ρ α}

theorem apply_unmet (hp : rules.Throughout Parser.RecordsNothing p) (hP : rules.Throughout P p)
    (budget : Nat) :
    (rules.apply (Session.host (S := S) rules) budget p).FailsWith
      (Session.Recalls rules symbols (Unmet.OfFailure rules symbols P))
      (Unmet.OfFailure rules symbols P) := by
  have hboth := hp.and hP
  have hall : ∀ {β : Type} (q : Parser σ ρ β),
      q.Everywhere (fun α q => Parser.RecordsNothing α q ∧ P α q) →
      (rules.apply (Session.host (S := S) rules) budget q).FailsWith
        (Session.Recalls rules symbols (Unmet.OfFailure rules symbols P))
        (Unmet.OfFailure rules symbols P) := by
    induction budget with
    | zero => exact fun _ _ _ => Yields.throw trivial
    | succ budget ih =>
        refine run_unmet ?_
        intro i
        unfold apply
        rw [Parser.run]
        cases hi : rules.body? i with
        | none => exact fun _ => Yields.throw trivial
        | some body => exact ih body (hboth.body i body hi)
  exact hall p hboth.start

theorem ComesTo.unmet (hp : rules.Throughout Parser.RecordsNothing p) (hP : rules.Throughout P p)
    {c : Cursor} {f : Failure σ} (h : rules.ComesTo symbols p c (.failure f)) :
    Unmet.OfFailure rules symbols P f := by
  obtain ⟨budget, s', hrun⟩ := h.exists_run
  exact ((apply_unmet hp hP budget c).of_ok
    ⟨Session.consistent_array rules symbols, fun _ => nofun⟩ hrun).1

/-- A parse that fails does so with a failure of its run, or of its own about the end of the
input. -/
theorem parse_unmet (hp : rules.Throughout Parser.RecordsNothing p) (hP : rules.Throughout P p)
    (budget : Nat) (c : Cursor) :
    Ensures (Session.Consistent (S := S) rules symbols)
      (rules.parse (Session.host rules) budget p c)
      (fun out _ => out.FailsWith (Unmet.OfFailure rules symbols P)) fun _ => True := by
  have hT := Unmet.stable rules symbols P
  have hhost := Session.host_faithful (S := S) rules symbols
  refine (Inquiry.act_yields (fun _ => trivial) (hhost.acceptsEmpty p)).bind_ensures ?_
  intro acceptsEmpty _
  refine (Inquiry.act_yields (fun _ => trivial) (hhost.firstSet p)).bind_ensures ?_
  intro first _
  refine (hhost.atEnd c).bind_ensures ?_
  intro ended _
  split
  · exact Ensures.pure fun _ _ => hT.ended _ _
  · have hclear : Ensures (Session.Consistent (S := S) rules symbols)
        (modify ((Session.host rules).setRecovered none) : Act (Session σ S) Unit)
        (fun _ => Session.Recalls rules symbols (Unmet.OfFailure rules symbols P))
        fun _ => True :=
      fun s hs => ⟨⟨hs.memory, hs.source⟩, fun _ => nofun⟩
    refine hclear.bind ?_
    intro _
    have h := Session.host_preserves (S := S) rules symbols hT
    refine (apply_unmet hp hP budget _).bind_ensures ?_
    intro out hout
    refine (wholeInput_failsWith h hT hout c).bind_ensures ?_
    intro out hout s hs
    exact orFurther_failsWith hs.recovered hout

/-- Where a run or a parse fails and expects a set, the set is a union of what parsers of the
grammar expected there in vain. If there is no `fail` in the grammar there is a symbol, and if
labels name sets of symbols and texts are of one symbol only, a symbol there is not in the set. -/
theorem expected_unmet (hp : rules.Throughout Parser.RecordsNothing p) (hP : rules.Throughout P p)
    {s s' : Session σ S} (hs : s.Consistent rules symbols) {budget i : Nat} {c : Cursor}
    {set : SymbolSet σ}
    (hrun : rules.apply (Session.host rules) budget p c s =
        .ok (.failure ⟨i, .expected set⟩) s' ∨
      rules.parse (Session.host rules) budget p c s = .ok (.failure ⟨i, .expected set⟩) s') :
    rules.Unmet symbols P i set ∧
      ((∀ α, ¬P α (.fail none)) → ∃ x, symbols[i]? = some x) ∧
      ((∀ α name (q : Parser σ ρ α), P α (.label name q) → q.IsSatisfy) →
        (∀ name first rest, P (List σ) (.literal name first rest) → rest = []) →
        ∀ x, symbols[i]? = some x → set.contains x = false) := by
  have hunmet : rules.Unmet symbols P i set := by
    rcases hrun with happly | hparse
    · exact (comesTo_of_run budget hs happly).unmet hp hP set rfl
    · exact (parse_unmet hp hP budget c).of_ok hs hparse set rfl
  exact ⟨hunmet, hunmet.exists_symbol, fun hlabel htext _ => hunmet.contains_eq_false hlabel htext⟩

/-- Neither `fail` nor a text, and a label only if it names a set of symbols. -/
def IsPlain : {α : Type} → Parser σ ρ α → Prop
  | _, .fail _ => False
  | _, .label _ q => q.IsSatisfy
  | _, .literal .. => False
  | _, _ => True

/-- Behind the `a` of `ad` a `b` or a `c` is expected, the latter under a name. There is a `d`, and
it is neither. -/
theorem expected_unmet_letters :
    let p : Parser Char (fun _ => Unit) Char :=
      (Parser.value 'a').andR ((Parser.value 'b').or ((Parser.value 'c').label "letter"))
    ∃ set s', Rules.empty.parse (Session.host Rules.empty) 1 p .start
        { source := "ad".toList.toArray : Session Char (Array Char) } =
          .ok (.failure ⟨1, .expected set⟩) s' ∧
      (∃ x, "ad".toList[1]? = some x) ∧ ∀ x, "ad".toList[1]? = some x → set.contains x = false := by
  intro p
  have hs := Session.consistent_array (Rules.empty : Rules Char fun _ => Unit) "ad".toList
  have hrecords : Rules.empty.Throughout Parser.RecordsNothing p :=
    throughout_empty (by repeat' constructor)
  have hplain : Rules.empty.Throughout (fun _ => IsPlain) p :=
    throughout_empty (by repeat' constructor)
  have hrun : ∃ set s', Rules.empty.parse (Session.host Rules.empty) 1 p .start
      { source := "ad".toList.toArray : Session Char (Array Char) } =
        .ok (.failure ⟨1, .expected set⟩) s' := ⟨_, _, rfl⟩
  obtain ⟨set, s', hrun⟩ := hrun
  obtain ⟨_, hsymbol, hset⟩ := expected_unmet hrecords hplain hs (.inr hrun)
  exact ⟨set, s', hrun, hsymbol fun _ => id, hset (fun _ _ _ => id) fun _ _ _ => False.elim⟩

/-- In each of these a set is expected and met, or there is no symbol to meet it. The text `ab` is
expected at an `a` that no `b` follows. A label stands for the `a` that its parser looks at, also
where this misses the `b` that should be there as well. And `fail` expects nothing at the end of the
input as anywhere else. -/
theorem expected_met :
    (∃ set s', Rules.empty.parse (Session.host Rules.empty) 1
        (Text.string "ab" : Parser Char (fun _ => Unit) String) .start
        { source := #['a', 'c'] : Session Char (Array Char) } =
          .ok (.failure ⟨0, .expected set⟩) s' ∧ set.contains 'a' = true) ∧
    (∃ set s', Rules.empty.parse (Session.host Rules.empty) 1
        (.label "x" ((Parser.value 'a').lookahead.andR (Parser.value 'b')) :
          Parser Char (fun _ => Unit) Char) .start
        { source := #['a'] : Session Char (Array Char) } =
          .ok (.failure ⟨0, .expected set⟩) s' ∧ set.contains 'a' = true) ∧
    ∃ set s', Rules.empty.apply (Session.host Rules.empty) 1
        (.fail none : Parser Char (fun _ => Unit) Unit) .start
        { source := #[] : Session Char (Array Char) } = .ok (.failure ⟨0, .expected set⟩) s' := by
  refine ⟨?_, ?_, ?_⟩
  · exact ⟨_, _, rfl, rfl⟩
  · exact ⟨_, _, rfl, rfl⟩
  · exact ⟨_, _, rfl⟩

end Rules

end PredictiveParsing
