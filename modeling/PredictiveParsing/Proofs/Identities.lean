import PredictiveParsing.Proofs.Interchange
import PredictiveParsing.Proofs.Journal
import PredictiveParsing.Proofs.Merge

/-!
# Parsers that add nothing

`fail` beside a parser in `or`, and `pure` before or behind it, change nothing about whole parses
(`Rules.parse_identities`). The answers are the same, since the empty set is neutral in unions. What
a run does besides applying the parser is to ask whether the input ends, to merge a failure with one
that expects nothing, and to record that one. A parse looks at recorded failures only if they are
further on than its own, which are not before the place where it began, so such a record goes
unnoticed (`Session.Unnoticed`).
-/

namespace PredictiveParsing

variable {σ : Type} {ρ : Nat → Type} {S α β γ : Type}

/-! ### Records -/

def Failure.beyond (n : Nat) : Option (Failure σ) → Option (Failure σ)
  | some f => if n < f.position then some f else none
  | none => none

namespace Failure

variable {n : Nat} {f : Failure σ}

theorem beyond_of_lt (h : n < f.position) : beyond n (some f) = some f := if_pos h

theorem beyond_of_le (h : f.position ≤ n) : beyond n (some f) = none := if_neg (Nat.not_lt.mpr h)

theorem beyond_recordWith (n : Nat) (f : Failure σ) (r : Option (Failure σ)) :
    beyond n (recordWith f r) =
      if n < f.position then recordWith f (beyond n r) else beyond n r := by
  cases r with
  | none => rfl
  | some g =>
      change beyond n (some (g.merge f)) = _
      rcases Nat.lt_or_ge n f.position with hf | hf
      · rw [if_pos hf]
        rcases Nat.lt_or_ge n g.position with hg | hg
        · rw [beyond_of_lt hg, beyond_of_lt]
          · rfl
          · rw [position_merge]
            exact Nat.lt_of_lt_of_le hg (Nat.le_max_left _ _)
        · rw [beyond_of_le hg, merge_of_gt (Nat.lt_of_le_of_lt hg hf), beyond_of_lt hf]
          rfl
      · rw [if_neg (Nat.not_lt.mpr hf)]
        rcases Nat.lt_or_ge n g.position with hg | hg
        · rw [merge_of_lt (Nat.lt_of_le_of_lt hf hg)]
        · rw [beyond_of_le hg, beyond_of_le]
          rw [position_merge]
          exact Nat.max_le.mpr ⟨hg, hf⟩

theorem shown_beyond (n : Nat) : Shown (beyond n : Option (Failure σ) → Option (Failure σ)) := by
  intro f r₁ r₂ h
  rw [beyond_recordWith, beyond_recordWith, h]

end Failure

/-- An outcome at or beyond a position gives way to the records that are beyond it only. -/
theorem Rules.orFurther_beyond {n m : Nat} {out : Outcome σ α} (hout : out.Within n m)
    (r : Option (Failure σ)) : orFurther (Failure.beyond n r) out = orFurther r out := by
  cases out with
  | success a next => rfl
  | failure e =>
      cases r with
      | none => rfl
      | some f =>
          rcases Nat.lt_or_ge n f.position with hf | hf
          · rw [Failure.beyond_of_lt hf]
          · have hle : ¬e.position < f.position := Nat.not_lt.mpr (Nat.le_trans hf hout.ge)
            rw [Failure.beyond_of_le hf, orFurther, orFurther, if_neg hle]

/-! ### What a parse does not notice -/

namespace Session

variable [BEq σ] [Source S σ] {rules : Rules σ ρ} {symbols : List σ} {c : Cursor}

/-- The computations come to the same outcome, which is not before the cursor, and what they record
beyond it is the same. -/
abbrev Unnoticed (rules : Rules σ ρ) (symbols : List σ) (c : Cursor)
    (m₁ m₂ : Act (Session σ S) (Outcome σ α)) : Prop :=
  Simulates (Parallel rules symbols (Failure.beyond c.position)) (fun _ => False) m₁ m₂
    fun out out' => out = out' ∧ out.Within c.position symbols.length

theorem Interchangeable.unnoticed {m : Act (Session σ S) (Outcome σ α)}
    (h : Interchangeable rules symbols (Failure.beyond c.position) m m)
    (hm : Maintains (Shows symbols fun _ => True) m (Outcome.Within c.position symbols.length)) :
    Unnoticed rules symbols c m m := by
  refine h.of_run.mono ?_
  rintro out _ ⟨rfl, s, _, s', hs, hrun⟩
  exact ⟨rfl, (hm.of_ok ⟨hs.first.source, trivial⟩ hrun).1⟩

theorem apply_unnoticed {p : Parser σ ρ α} (hp : rules.Throughout Parser.RecordsNothing p)
    (hc : c.position ≤ symbols.length) (budget : Nat) :
    Unnoticed (S := S) rules symbols c (rules.apply (host rules) budget p c)
      (rules.apply (host rules) budget p c) :=
  (apply_interchangeable rules symbols (Failure.shown_beyond _) budget p c).unnoticed
    (Rules.apply_confined (host_confines rules c.position) hp budget c (.refl hc))

theorem wholeInput_unnoticed {out : Outcome σ α}
    (hout : out.Within c.position symbols.length) :
    Unnoticed (S := S) rules symbols c (Rules.wholeInput (host rules) c out)
      (Rules.wholeInput (host rules) c out) :=
  Interchangeable.unnoticed
    (Rules.wholeInput_alike (host_parallel rules symbols (Failure.shown_beyond _)) c out)
    (Rules.wholeInput_confined (host_confines rules c.position) c hout)

/-- What follows the first computation goes unnoticed where it gives the outcome back. -/
theorem Unnoticed.bind_settled {m₁ m₂ : Act (Session σ S) (Outcome σ α)}
    {f : Outcome σ α → Act (Session σ S) (Outcome σ α)} (h : Unnoticed rules symbols c m₁ m₂)
    (hf : ∀ out, out.Within c.position symbols.length →
      Settled rules symbols (Failure.beyond c.position) (f out) out) :
    Unnoticed rules symbols c (m₁ >>= f) m₂ := by
  rw [← bind_pure m₂]
  refine h.bind ?_
  rintro out _ ⟨rfl, hout⟩
  exact (hf out hout).simulates (settled_pure out) ⟨rfl, hout⟩

theorem settled_endsBefore {view : Option (Failure σ) → β} {p : Parser σ ρ α} {b : Bool}
    (hp : rules.AcceptsEmpty p b) (act : Action (Session σ S) σ α) (c : Cursor) :
    Settled rules symbols view
      ((host rules).endsBefore (Parser.run.operand (host rules) p act) c)
      ((symbols[c.position]?).isNone && !b) := by
  refine (settled_atEnd rules symbols view c).bind ?_
  cases (symbols[c.position]?).isNone with
  | true => exact (settled_acceptsEmpty hp).bind (settled_pure _)
  | false => exact settled_pure _

end Session

namespace Rules

variable [BEq σ] [Source S σ] {rules : Rules σ ρ} {symbols : List σ} {c : Cursor}
  {p q : Parser σ ρ α} {b : Bool} {set : SymbolSet σ}

/-- Applied at the cursor, the first parser does nothing besides the second one that would be
noticed. -/
abbrev StandsIn (S : Type) [Source S σ] (rules : Rules σ ρ) (symbols : List σ) (budget : Nat)
    (p q : Parser σ ρ α) (c : Cursor) : Prop :=
  Session.Unnoticed (S := S) rules symbols c (rules.apply (Session.host rules) budget p c)
    (rules.apply (Session.host rules) budget q c)

/-- Parsers with the same answers can be parsed in place of one another if nothing is noticed of
what one does besides the other. A parser that needs a symbol is not applied at the end of the
input. -/
theorem parse_interchangeable (symbols : List σ) (hp : rules.Replies p b set)
    (hq : rules.Replies q b set) (budget : Nat) (c : Cursor)
    (hrun : ((symbols[c.position]?).isNone = true → b = true) →
      rules.StandsIn S symbols budget p q { c with tracked := true }) :
    Session.Interchangeable (S := S) rules symbols (fun _ => ())
      (rules.parse (Session.host rules) budget p c)
      (rules.parse (Session.host rules) budget q c) := by
  refine (Session.settled_acceptsEmpty hp.acceptsEmpty).bind_simulates ?_
  refine (Session.settled_firstSet hp.firstSet).bind_simulates ?_
  refine (Session.settled_atEnd rules symbols _ c).bind_simulates ?_
  refine (Session.settled_acceptsEmpty hq.acceptsEmpty).simulates_bind ?_
  refine (Session.settled_firstSet hq.firstSet).simulates_bind ?_
  refine (Session.settled_atEnd rules symbols _ c).simulates_bind ?_
  split
  · exact Simulates.pure rfl
  · rename_i hruns
    have happly := hrun fun hended => by
      rw [hended] at hruns
      simpa using hruns
    have hclear : ∀ s₁ s₂ : Session σ S, Session.Parallel rules symbols (fun _ => ()) s₁ s₂ →
        Session.Parallel rules symbols (Failure.beyond c.position)
          ((Session.host rules).setRecovered none s₁)
          ((Session.host rules).setRecovered none s₂) :=
      fun _ _ hs => ⟨⟨hs.first.memory, hs.first.source⟩,
        ⟨hs.second.memory, hs.second.source⟩, rfl⟩
    refine Simulates.modify_bind ?_ hclear fun _ _ hs => ⟨hs.first, hs.second, rfl⟩
    refine happly.bind ?_
    rintro out _ ⟨rfl, hout⟩
    refine (Session.wholeInput_unnoticed (c := c) hout).bind ?_
    rintro out _ ⟨rfl, hout⟩ s₁ s₂ hs
    refine ⟨_, s₂, rfl, ?_, hs⟩
    change orFurther s₁.recovered out = orFurther s₂.recovered out
    rw [← orFurther_beyond hout, hs.record, orFurther_beyond hout]

/-! ### Neutral parsers -/

theorem replies_fail (rules : Rules σ ρ) (message : Option String) :
    rules.Replies (.fail message : Parser σ ρ α) false .empty := ⟨rfl, rfl⟩

theorem Replies.or_fail (h : rules.Replies p b set) : rules.Replies (p.or (.fail none)) b set := by
  have hor := h.or (replies_fail rules none)
  rw [Bool.or_false, SymbolSet.union_empty] at hor
  exact hor

theorem Replies.fail_or (h : rules.Replies p b set) :
    rules.Replies ((Parser.fail none).or p) b set :=
  (replies_fail rules none).or h

theorem Replies.pure_andR (a : β) (h : rules.Replies p b set) :
    rules.Replies ((Parser.pure a).andR p) b set where
  acceptsEmpty := acceptsEmpty_and.mpr (.inl ⟨rfl, h.acceptsEmpty⟩)
  firstSet := firstWithin_and.mpr (.inr ⟨rfl, _, _, rfl, h.firstSet, rfl⟩)

theorem Replies.andL_pure (a : β) (h : rules.Replies p b set) :
    rules.Replies (p.andL (.pure a)) b set := by
  cases b with
  | true =>
      refine ⟨acceptsEmpty_and.mpr (.inl ⟨h.acceptsEmpty, rfl⟩), ?_⟩
      refine firstWithin_and.mpr (.inr ⟨h.acceptsEmpty, _, _, h.firstSet, rfl, ?_⟩)
      exact set.union_empty.symm
  | false =>
      exact ⟨acceptsEmpty_and.mpr (.inr ⟨h.acceptsEmpty, rfl⟩),
        firstWithin_and.mpr (.inl ⟨h.acceptsEmpty, h.firstSet⟩)⟩

/-- Nothing changes where values are mapped to themselves. -/
theorem apply_map_id {St : Type} (host : Host σ ρ St) (budget : Nat) (p : Parser σ ρ α) :
    rules.apply host budget (p.map id) = rules.apply host budget p := by
  cases budget with
  | zero => rfl
  | succ rounds =>
      funext c
      change (rules.apply host (rounds + 1) p c >>= fun out => pure (out.map id)) = _
      have hid : (fun out : Outcome σ α => (pure (out.map id) : Act St (Outcome σ α))) = pure := by
        funext out
        cases out with
        | success a next => rfl
        | failure f => rfl
      rw [hid, bind_pure]

section Apply

variable {u : β} {rounds : Nat} (h : rules.Replies p b set)
  (hended : (symbols[c.position]?).isNone = true → b = true)
  (hself : rules.StandsIn S symbols (rounds + 1) p p c)

include h hended hself

theorem standsIn_or_fail :
    rules.StandsIn S symbols (rounds + 1) (p.or (.fail none)) p c := by
  refine (Session.apply_or_interchangeable symbols (Failure.shown_beyond _) h
    (replies_fail rules none) rounds c).trans ?_
  cases hend : (symbols[c.position]?).isNone with
  | true =>
      obtain rfl := hended hend
      exact hself
  | false =>
      refine hself.bind_settled ?_
      intro out hout
      cases out with
      | success a next => exact Session.settled_pure _
      | failure f =>
          have hmerge : f.merge ⟨c.position, .expected .empty⟩ = f := Failure.merge_nothing hout.ge
          change Session.Settled _ _ _ (pure (Outcome.failure (f.merge _))) _
          rw [hmerge]
          exact Session.settled_pure _

theorem standsIn_fail_or :
    rules.StandsIn S symbols (rounds + 1) ((Parser.fail none).or p) p c := by
  refine (Session.apply_or_interchangeable symbols (Failure.shown_beyond _)
    (replies_fail rules none) h rounds c).trans ?_
  cases hend : (symbols[c.position]?).isNone with
  | true =>
      obtain rfl := hended hend
      exact hself
  | false =>
      change Session.Unnoticed _ _ _ (rules.apply (Session.host rules) (rounds + 1) p c >>=
        (Session.host rules).orElse c ⟨c.position, .expected .empty⟩) _
      refine hself.bind_settled ?_
      intro out hout
      cases out with
      | success a next =>
          refine (Session.settled_recover c fun r => ?_).bind (Session.settled_pure _)
          rw [Failure.beyond_recordWith, if_neg (Nat.lt_irrefl _)]
      | failure f =>
          rw [Host.orElse_failure, Failure.nothing_merge hout.ge]
          exact Session.settled_pure _

theorem standsIn_pure_and (g : β × α → γ) :
    rules.StandsIn S symbols (rounds + 1) (((Parser.pure u).and p).map g)
      (p.map fun a => g (u, a)) c := by
  have hruns : ((symbols[c.position]?).isNone && !b) = false := by
    cases hend : (symbols[c.position]?).isNone with
    | true =>
        rw [hended hend]
        rfl
    | false => rfl
  change Session.Unnoticed _ _ _ ((Session.host rules).and _ _ c >>= fun out => pure (out.map g))
    (rules.apply (Session.host rules) (rounds + 1) p c >>= fun out => pure (out.map _))
  unfold Host.and
  rw [bind_assoc]
  refine (Session.settled_pure (Outcome.success u c)).bind_simulates ?_
  dsimp only
  rw [bind_assoc]
  refine (Session.settled_endsBefore h.acceptsEmpty _ c).bind_simulates ?_
  rw [hruns, if_neg Bool.false_ne_true, bind_assoc]
  refine hself.bind ?_
  rintro out _ ⟨rfl, hout⟩
  cases out with
  | success a next => exact Simulates.pure ⟨rfl, hout⟩
  | failure f => exact Simulates.pure ⟨rfl, hout⟩

theorem standsIn_pure_andR :
    rules.StandsIn S symbols (rounds + 1) ((Parser.pure u).andR p) p c := by
  have hand := standsIn_pure_and (u := u) h hended hself Prod.snd
  change Session.Unnoticed _ _ _ _ (rules.apply (Session.host rules) (rounds + 1) (p.map id) c)
    at hand
  rwa [apply_map_id] at hand

omit h hended in
theorem standsIn_andL_pure :
    rules.StandsIn S symbols (rounds + 1) (p.andL (.pure u)) p c := by
  change Session.Unnoticed _ _ _
    ((Session.host rules).and _ _ c >>= fun out => pure (out.map Prod.fst)) _
  unfold Host.and
  rw [bind_assoc]
  refine hself.bind_settled ?_
  intro out hout
  cases out with
  | success a next =>
      dsimp only
      rw [bind_assoc]
      refine (Session.settled_endsBefore (rfl : rules.AcceptsEmpty (.pure u) true) _ next).bind ?_
      rw [Bool.not_true, Bool.and_false]
      exact Session.settled_pure _
  | failure f => exact Session.settled_pure _

end Apply

/-! ### Parses -/

/-- A parser that is parsed has answers. -/
theorem exists_replies_of_parse {budget : Nat} {out : Outcome σ α} {s s' : Session σ S}
    (hs : s.Consistent rules symbols)
    (hrun : rules.parse (Session.host rules) budget p c s = .ok out s') :
    ∃ b set, rules.Replies p b set := by
  have h := Session.host_faithful (S := S) rules symbols
  have hparse : Ensures (Session.Consistent (S := S) rules symbols)
      (rules.parse (Session.host rules) budget p c)
      (fun _ _ => ∃ b set, rules.Replies p b set) fun _ => True := by
    refine Ensures.bind (Inquiry.act_yields (fun _ => trivial) (h.acceptsEmpty p)) ?_
    rintro b st ⟨hempty, hst⟩
    refine Ensures.bind (Inquiry.act_yields (fun _ => trivial) (h.firstSet p)) ?_ st hst
    rintro set st ⟨hfirst, hst⟩
    refine (Ensures.trivial _).mono (fun _ h => h) ?_ (fun _ h => h) st hst
    exact fun _ _ _ => ⟨b, set, hempty, hfirst⟩
  exact hparse.of_ok hs hrun

section Standing

variable {budget : Nat} (hp : rules.Throughout Parser.RecordsNothing p)
  (hreplies : rules.Replies p b set) (hc : c.position ≤ symbols.length)

include hp hreplies hc

/-- Where a parser with the same answers stands in for another one, so do their parses. -/
theorem parse_standing {q : Parser σ ρ α} (hq : rules.Replies q b set)
    (hstands : ∀ rounds, ((symbols[c.position]?).isNone = true → b = true) →
      rules.StandsIn S symbols (rounds + 1) p p { c with tracked := true } →
      rules.StandsIn S symbols (rounds + 1) q p { c with tracked := true }) :
    Session.Interchangeable (S := S) rules symbols (fun _ => ())
      (rules.parse (Session.host rules) budget q c)
      (rules.parse (Session.host rules) budget p c) := by
  refine parse_interchangeable symbols hq hreplies budget c ?_
  intro hended
  cases budget with
  | zero => exact Simulates.throw _
  | succ rounds =>
      exact hstands rounds hended
        (Session.apply_unnoticed (c := { c with tracked := true }) hp hc (rounds + 1))

theorem parse_or_fail :
    Session.Interchangeable (S := S) rules symbols (fun _ => ())
      (rules.parse (Session.host rules) budget (p.or (.fail none)) c)
      (rules.parse (Session.host rules) budget p c) :=
  parse_standing hp hreplies hc hreplies.or_fail fun _ hended => standsIn_or_fail hreplies hended

theorem parse_fail_or :
    Session.Interchangeable (S := S) rules symbols (fun _ => ())
      (rules.parse (Session.host rules) budget ((Parser.fail none).or p) c)
      (rules.parse (Session.host rules) budget p c) :=
  parse_standing hp hreplies hc hreplies.fail_or fun _ hended => standsIn_fail_or hreplies hended

theorem parse_pure_andR (u : β) :
    Session.Interchangeable (S := S) rules symbols (fun _ => ())
      (rules.parse (Session.host rules) budget ((Parser.pure u).andR p) c)
      (rules.parse (Session.host rules) budget p c) :=
  parse_standing hp hreplies hc (hreplies.pure_andR u) fun _ hended =>
    standsIn_pure_andR hreplies hended

theorem parse_andL_pure (u : β) :
    Session.Interchangeable (S := S) rules symbols (fun _ => ())
      (rules.parse (Session.host rules) budget (p.andL (.pure u)) c)
      (rules.parse (Session.host rules) budget p c) :=
  parse_standing hp hreplies hc (hreplies.andL_pure u) fun _ _ => standsIn_andL_pure

theorem parse_pure_and (u : β) (g : β × α → γ) :
    Session.Interchangeable (S := S) rules symbols (fun _ => ())
      (rules.parse (Session.host rules) budget (((Parser.pure u).and p).map g) c)
      (rules.parse (Session.host rules) budget (p.map fun a => g (u, a)) c) := by
  have hand : rules.Replies (((Parser.pure u).and p).map g) b set :=
    ⟨(hreplies.pure_andR u).acceptsEmpty, (hreplies.pure_andR u).firstSet⟩
  have hmap : rules.Replies (p.map fun a => g (u, a)) b set :=
    ⟨hreplies.acceptsEmpty, hreplies.firstSet⟩
  refine parse_interchangeable symbols hand hmap budget c ?_
  intro hended
  cases budget with
  | zero => exact Simulates.throw _
  | succ rounds =>
      have hself : rules.StandsIn S symbols (rounds + 1) p p { c with tracked := true } :=
        Session.apply_unnoticed (c := { c with tracked := true }) hp hc (rounds + 1)
      exact standsIn_pure_and (c := { c with tracked := true }) hreplies hended hself g

end Standing

theorem parse_map_id (budget : Nat) (p : Parser σ ρ α) (c : Cursor) :
    rules.parse (Session.host (S := S) rules) budget (p.map id) c =
      rules.parse (Session.host rules) budget p c := by
  unfold parse
  rw [apply_map_id]
  rfl

/-- A parse comes to the same value and place or to the same failure with `fail` beside the parser
and with `pure` before or behind it, whatever the sessions have recorded and remembered before. -/
theorem parse_identities (hp : rules.Throughout Parser.RecordsNothing p) {s₁ s₁' s₂ : Session σ S}
    (hs₁ : s₁.Consistent rules symbols) (hs₂ : s₂.Consistent rules symbols)
    (hc : c.position ≤ symbols.length) {budget : Nat} {out : Outcome σ α}
    (hrun : rules.parse (Session.host rules) budget p c s₁ = .ok out s₁') :
    ∀ q ∈ [p.or (.fail none), (Parser.fail none).or p, (Parser.pure ()).andR p,
        p.andL (.pure ())],
      ∃ s₂', rules.parse (Session.host rules) budget q c s₂ = .ok out s₂' := by
  obtain ⟨b, set, hreplies⟩ := exists_replies_of_parse hs₁ hrun
  have hparse : ∀ {q : Parser σ ρ α}, Session.Interchangeable (S := S) rules symbols (fun _ => ())
      (rules.parse (Session.host rules) budget q c) (rules.parse (Session.host rules) budget p c) →
      ∃ s₂', rules.parse (Session.host rules) budget q c s₂ = .ok out s₂' := by
    intro q hq
    obtain ⟨_, s₂', hrun', rfl, _⟩ := hq.symm.of_ok s₂ ⟨hs₁, hs₂, rfl⟩ hrun
    exact ⟨s₂', hrun'⟩
  intro q hq
  simp only [List.mem_cons, List.not_mem_nil, or_false] at hq
  rcases hq with rfl | rfl | rfl | rfl
  · exact hparse (parse_or_fail hp hreplies hc)
  · exact hparse (parse_fail_or hp hreplies hc)
  · exact hparse (parse_pure_andR hp hreplies hc ())
  · exact hparse (parse_andL_pure hp hreplies hc ())

/-- Either `abc` or `a`, on `abx`: the failure of the first alternative comes out of all five
parses. -/
theorem parse_identities_recovered :
    let p : Parser Char (fun _ => Unit) Char :=
      (((Parser.value 'a').andL (Parser.value 'b')).andL (Parser.value 'c')).or (Parser.value 'a')
    let s : Session Char (Array Char) := { source := #['a', 'b', 'x'] }
    ∃ f s', Rules.empty.parse (Session.host Rules.empty) 1 p .start s = .ok (.failure f) s' ∧
      f.position = 2 ∧
      ∀ q ∈ [p.or (.fail none), (Parser.fail none).or p, (Parser.pure ()).andR p,
          p.andL (.pure ())],
        ∃ s'',
          Rules.empty.parse (Session.host Rules.empty) 1 q .start s = .ok (.failure f) s'' := by
  intro p s
  have hrecords : Rules.empty.Throughout Parser.RecordsNothing p := by
    constructor
    · repeat' constructor
    · exact nofun
  have hs : s.Consistent (Rules.empty : Rules Char fun _ => Unit) ['a', 'b', 'x'] :=
    Session.consistent_start (Source.holds_array #['a', 'b', 'x'])
  exact ⟨_, _, rfl, rfl, parse_identities hrecords hs hs (by decide : 0 ≤ 3) rfl⟩

end Rules

end PredictiveParsing
