import PredictiveParsing.Proofs.Mirrors
import PredictiveParsing.Proofs.Repetition

/-!
# Repetition up to an end

`manyTill` has two parsers to try at every cursor: the one that would end it, and where that fails,
the one that is repeated. While the first fails and the second succeeds the loop passes on
(`Rules.Passes`). So it succeeds exactly where the passes lead to a success of the first
(`Rules.manyTill_stops_first`), which is the first such cursor, because it failed at all before.

The passes come to an end because the repeated parser needs a symbol (`Rules.exists_last_pass`). At
the last cursor either the loop ends well or both parsers fail there, and then `manyTill` fails at
the further of the two positions. At the end of the input neither is applied if the first needs a
symbol, but both would have failed at the cursor itself, where `manyTill` fails then.
-/

namespace PredictiveParsing

variable {σ : Type} {ρ : Nat → Type} {St α ε : Type}

/-! ### The loop -/

/-- Before the end of the input, the operand that would stop the loop fails, and the repeated one
gives a value and leads on. -/
structure Operand.Passes (symbols : List σ) (I : St → Prop) (E : Halt → Prop)
    (o : Operand St σ α) (stop : Operand St σ ε) (c : Cursor) (a : α) (next : Cursor) : Prop where
  inside : c.position < symbols.length
  rejected : ∃ g, Yields I E (stop.apply c) (· = .failure g)
  run : Yields I E (o.apply c) (· = .success a next)

namespace Host.Faithful

variable [BEq σ] {host : Host σ ρ St} {rules : Rules σ ρ} {symbols : List σ} {I : St → Prop}
  {E : Halt → Prop} {o : Operand St σ α} {o' : Operand St σ ε} {p : Parser σ ρ α}
  {stop : Parser σ ρ ε} {c e next : Cursor} {values : List α} {v : ε} {f g : Failure σ}

/-- Where the loop passes, another round is made. -/
theorem manyTillFrom_of_steps (h : host.Faithful rules symbols I)
    (hvalues : Steps (Operand.Passes symbols I E o o') c values e) {rounds : Nat} {acc : List α}
    {q : Outcome σ (List α) → Prop}
    (hrest : Yields I E (host.manyTillFrom o o' rounds (values.reverse ++ acc) e) q) :
    Yields I E (host.manyTillFrom o o' (rounds + values.length) acc c) q := by
  induction hvalues generalizing acc with
  | nil c => exact hrest
  | @cons c next e a values hpass _ ih =>
      refine (h.atEnd c).bind ?_
      intro ended hended
      cases ended with
      | true => exact absurd (hended.mp rfl) (Nat.not_le_of_lt hpass.inside)
      | false =>
          obtain ⟨g, hrejected⟩ := hpass.rejected
          refine hrejected.bind ?_
          rintro _ rfl
          refine hpass.run.bind ?_
          rintro _ rfl
          refine (h.recover c g).bind ?_
          intro _ _
          refine ih ?_
          simpa using hrest

/-- Where the other parser succeeds, the rounds end. -/
theorem manyTillFrom_of_success (h : host.Faithful rules symbols I)
    (hs : o'.Speaks rules I E stop) (hrun : Yields I E (o'.apply c) (· = .success v next))
    (hallows : rules.Allows symbols False stop c (.success v next)) (rounds : Nat)
    (acc : List α) :
    Yields I E (host.manyTillFrom o o' (rounds + 1) acc c) (· = .success acc.reverse next) := by
  refine (h.atEnd c).bind ?_
  intro ended hended
  cases ended with
  | false =>
      refine hrun.bind ?_
      rintro _ rfl
      exact Yields.pure rfl
  | true =>
      refine hs.acceptsEmpty.bind ?_
      intro accepts haccepts
      cases accepts with
      | true =>
          refine hrun.bind ?_
          rintro _ rfl
          exact Yields.pure rfl
      | false => cases hallows.ok_eq_false (hended.mp rfl) haccepts

/-- Where both fail, the rounds fail at the further position. -/
theorem manyTillFrom_of_failure (h : host.Faithful rules symbols I)
    (hs : o'.Speaks rules I E stop) (hstop : Yields I E (o'.apply c) (· = .failure g))
    (hrun : Yields I E (o.apply c) (· = .failure f))
    (hg : symbols.length ≤ c.position → g.position = c.position)
    (hf : symbols.length ≤ c.position → f.position = c.position) (rounds : Nat) (acc : List α) :
    Yields I E (host.manyTillFrom o o' (rounds + 1) acc c) fun out =>
      ∃ f', out = .failure f' ∧ f'.position = max g.position f.position := by
  refine (h.atEnd c).bind ?_
  intro ended hended
  cases ended with
  | false =>
      refine hstop.bind ?_
      rintro _ rfl
      refine hrun.bind ?_
      rintro _ rfl
      exact Yields.pure ⟨_, rfl, Failure.position_merge g f⟩
  | true =>
      -- The repeated parser is not applied here. It would fail at the cursor, as the other does.
      have hg : g.position = c.position := hg (hended.mp rfl)
      have hmax : max g.position f.position = c.position := by
        rw [hg, hf (hended.mp rfl), Nat.max_self]
      refine hs.acceptsEmpty.bind ?_
      intro accepts _
      cases accepts with
      | true =>
          refine hstop.bind ?_
          rintro _ rfl
          exact Yields.pure ⟨g, rfl, hg.trans hmax.symm⟩
      | false =>
          refine hs.firstSet.bind ?_
          intro set _
          exact Yields.pure ⟨_, rfl, hmax.symm⟩

end Host.Faithful

/-! ### Parsers -/

namespace Rules

variable [BEq σ]

/-- From the cursor, the parser that would stop the loop comes to failures and the repeated one to
successes, again and again, with the values and up to the cursor `e`. -/
abbrev Passes (rules : Rules σ ρ) (symbols : List σ) (p : Parser σ ρ α) (stop : Parser σ ρ ε) :
    Cursor → List α → Cursor → Prop :=
  Steps fun c a next => (∃ g, rules.ComesTo symbols stop c (.failure g)) ∧
    rules.ComesTo symbols p c (.success a next)

variable {rules : Rules σ ρ} {symbols : List σ} {p : Parser σ ρ α} {stop : Parser σ ρ ε}
  {c e next : Cursor} {values : List α} {v : ε} {f g : Failure σ} {E : Halt → Prop}

/-- A parser that needs a symbol does not succeed at the end of the input, and where it succeeds it
gets closer to it. -/
theorem ComesTo.advances {a : α} (hp : rules.Throughout Parser.IsPremade p)
    (hneeds : rules.AcceptsEmpty p false) (h : rules.ComesTo symbols p c (.success a next)) :
    c.position < symbols.length ∧ c.position < next.position := by
  have hallows := h.allows hp.sure_of_isPremade
  refine ⟨?_, hallows.moves rfl hneeds⟩
  by_contra hended
  cases hallows.ok_eq_false (Nat.le_of_not_lt hended) hneeds

/-- A success of the loop stands behind passes, where the other parser succeeds. -/
theorem manyTillFrom_yields {St : Type} {host : Host σ ρ St} {I : St → Prop}
    (h : host.Faithful rules symbols I) {o : Operand St σ α} {o' : Operand St σ ε}
    (hs : o'.Speaks rules I (fun _ => True) stop)
    (hact : ∀ c, Yields I (fun _ => True) (o.apply c) (rules.ComesTo symbols p c))
    (hstop : ∀ c, Yields I (fun _ => True) (o'.apply c) (rules.ComesTo symbols stop c))
    (rounds : Nat) (acc : List α) (c : Cursor) :
    Yields I (fun _ => True) (host.manyTillFrom o o' rounds acc c) fun out =>
      ∀ values next, out = .success values next → ∃ new e v, rules.Passes symbols p stop c new e ∧
        rules.ComesTo symbols stop e (.success v next) ∧ values = acc.reverse ++ new := by
  induction rounds generalizing acc c with
  | zero => exact Yields.throw trivial
  | succ rounds ih =>
      refine (h.atEnd c).bind ?_
      intro ended _
      cases ended with
      | true =>
          refine hs.acceptsEmpty.bind ?_
          intro accepts _
          cases accepts with
          | false => exact hs.firstSet.bind fun _ _ => Yields.pure nofun
          | true =>
              refine (hstop c).bind ?_
              intro out hout
              cases out with
              | failure g => exact Yields.pure nofun
              | success v next =>
                  refine Yields.pure ?_
                  rintro _ _ ⟨rfl, rfl⟩
                  exact ⟨[], c, v, .nil c, hout, (List.append_nil _).symm⟩
      | false =>
          refine (hstop c).bind ?_
          intro out hout
          cases out with
          | success v next =>
              refine Yields.pure ?_
              rintro _ _ ⟨rfl, rfl⟩
              exact ⟨[], c, v, .nil c, hout, (List.append_nil _).symm⟩
          | failure g =>
              refine (hact c).bind ?_
              intro out' hout'
              cases out' with
              | failure f => exact Yields.pure nofun
              | success a next =>
                  refine (h.recover c g).bind ?_
                  intro _ _
                  refine (ih (a :: acc) next).mono ?_
                  rintro out hrest values last rfl
                  obtain ⟨new, e, v, hpasses, hend, rfl⟩ := hrest values last rfl
                  exact ⟨a :: new, e, v, .cons ⟨⟨g, hout⟩, hout'⟩ hpasses, hend, by simp⟩

/-- What `manyTill` gives was read in passes, and behind them stands an end. -/
theorem ComesTo.of_manyTill (h : rules.ComesTo symbols (p.manyTill stop) c (.success values next)) :
    ∃ e v, rules.Passes symbols p stop c values e ∧
      rules.ComesTo symbols stop e (.success v next) := by
  refine h.of_yields (q := fun out => ∀ values next, out = .success values next → ∃ e v,
    rules.Passes symbols p stop c values e ∧ rules.ComesTo symbols stop e (.success v next)) ?_
    values next rfl
  intro budget
  cases budget with
  | zero => exact Yields.throw trivial
  | succ rounds =>
      have hhost := Session.host_faithful (S := Array σ) rules symbols
      refine (Host.needsSymbol_yields (fun _ => trivial)
        (hhost.operand_speaks (fun _ => trivial) p _) .manyTill).bind ?_
      intro _ _
      refine (manyTillFrom_yields hhost (hhost.operand_speaks (fun _ => trivial) stop _)
        (apply_yields_comesTo rules symbols (rounds + 1) p)
        (apply_yields_comesTo rules symbols (rounds + 1) stop) rounds [] c).mono ?_
      intro out hout values next heq
      obtain ⟨new, e, v, hpasses, hend, rfl⟩ := hout values next heq
      exact ⟨e, v, hpasses, hend⟩

/-! ### Runs -/

/-- `manyTill` does what its last round does, behind the passes before it. -/
theorem manyTill_of_passes (hneeds : rules.AcceptsEmpty p false) {rounds : Nat}
    (hpasses : Steps (Operand.Passes symbols (Session.Consistent rules symbols) E
      (rules.operand (Session.host (S := Array σ) rules) (rounds + values.length + 1) p)
      (rules.operand (Session.host (S := Array σ) rules) (rounds + values.length + 1) stop))
      c values e)
    {q : Outcome σ (List α) → Prop}
    (hrest : Yields (Session.Consistent rules symbols) E
      ((Session.host (S := Array σ) rules).manyTillFrom
        (rules.operand (Session.host (S := Array σ) rules) (rounds + values.length + 1) p)
        (rules.operand (Session.host (S := Array σ) rules) (rounds + values.length + 1) stop)
        rounds values.reverse e) q) :
    Yields (Session.Consistent rules symbols) E
      (rules.apply (Session.host (S := Array σ) rules) (rounds + values.length + 1)
        (p.manyTill stop) c) q := by
  have hsymbol : Yields (Session.Consistent rules symbols) E (Host.needsSymbol .manyTill
      (rules.operand (Session.host (S := Array σ) rules) (rounds + values.length + 1) p))
      fun _ => True := by
    refine (Session.acceptsEmpty_yields hneeds).bind ?_
    rintro _ rfl
    exact Yields.pure trivial
  refine hsymbol.bind ?_
  intro _ _
  refine (Session.host_faithful (S := Array σ) rules symbols).manyTillFrom_of_steps hpasses ?_
  rw [List.append_nil]
  exact hrest

section Premade

variable (hp : rules.Throughout Parser.IsPremade p) (hneeds : rules.AcceptsEmpty p false)

include hp hneeds

/-- With a budget that is large enough, the operands pass as their parsers do. -/
theorem Passes.give (h : rules.Passes symbols p stop c values e) :
    ∀ᶠ budget in Filter.atTop,
      Steps (Operand.Passes symbols (Session.Consistent rules symbols) E
        (rules.operand (Session.host (S := Array σ) rules) budget p)
        (rules.operand (Session.host (S := Array σ) rules) budget stop)) c values e := by
  refine Steps.eventually (h.mono ?_)
  rintro c a next ⟨⟨g, hstop⟩, hstep⟩
  filter_upwards [hstop, hstep] with budget hrejected hrun
  exact ⟨(hstep.advances hp hneeds).1, ⟨g, (hrejected (Array σ)).yields⟩, (hrun (Array σ)).yields⟩

/-- The loop passes a last time, if at all: either it can stop there, or both parsers fail. -/
theorem exists_last_pass
    (hcome : ∀ values e, rules.Passes symbols p stop c values e →
      ∃ out, rules.ComesTo symbols stop e out ∧
        ((∃ g, out = .failure g) → ∃ out', rules.ComesTo symbols p e out')) :
    ∃ values e, rules.Passes symbols p stop c values e ∧
      ((∃ v next, rules.ComesTo symbols stop e (.success v next)) ∨
        ∃ g f, rules.ComesTo symbols stop e (.failure g) ∧
          rules.ComesTo symbols p e (.failure f)) := by
  -- On what is left of the input: each pass reads some of it.
  induction hleft : symbols.length - c.position using Nat.strong_induction_on generalizing c with
  | h left ih =>
      obtain ⟨out, hout, hstep⟩ := hcome [] c (.nil c)
      cases out with
      | success v next => exact ⟨[], c, .nil c, .inl ⟨v, next, hout⟩⟩
      | failure g =>
          obtain ⟨out', hout'⟩ := hstep ⟨g, rfl⟩
          cases out' with
          | failure f => exact ⟨[], c, .nil c, .inr ⟨g, f, hout, hout'⟩⟩
          | success a next =>
              have hadvances := hout'.advances hp hneeds
              obtain ⟨values, e, hpasses, hend⟩ := ih (symbols.length - next.position) (by omega)
                (fun values e h => hcome (a :: values) e (.cons ⟨⟨g, hout⟩, hout'⟩ h)) rfl
              exact ⟨a :: values, e, .cons ⟨⟨g, hout⟩, hout'⟩ hpasses, hend⟩

variable (hstop : rules.Throughout Parser.IsPremade stop)
  (h : rules.Repeatable stop False ∨ ¬rules.Misused symbols (p.manyTill stop) c)
  (hpasses : rules.Passes symbols p stop c values e)

include hstop h hpasses

theorem comesTo_manyTill (hend : rules.ComesTo symbols stop e (.success v next)) :
    rules.ComesTo symbols (p.manyTill stop) c (.success values next) := by
  obtain ⟨budget, hgive, hbudget, hlt⟩ := ((hpasses.give hp hneeds).and
    (hend.and (Filter.eventually_gt_atTop (values.length + 1)))).exists
  obtain ⟨rounds, rfl⟩ : ∃ rounds, budget = rounds + 1 + values.length + 1 :=
    ⟨budget - values.length - 2, by omega⟩
  refine comesTo_of_yields (E := rules.Unrepeatable stop False) _
    (fun _ hunable => hunable.imp_right h.resolve_left) (manyTill_of_passes hneeds hgive ?_)
  have hlast := (Session.host_faithful (S := Array σ) rules symbols).manyTillFrom_of_success
    (o := rules.operand (Session.host rules) (rounds + 1 + values.length + 1) p)
    (operand_speaks_repeated rules symbols stop False _) (hbudget (Array σ)).yields
    (hend.allows hstop.sure_of_isPremade) rounds values.reverse
  rw [List.reverse_reverse] at hlast
  exact hlast

theorem comesTo_manyTill_of_failure (hend : rules.ComesTo symbols stop e (.failure g))
    (hfails : rules.ComesTo symbols p e (.failure f)) :
    ∃ f', rules.ComesTo symbols (p.manyTill stop) c (.failure f') ∧
      f'.position = max g.position f.position := by
  obtain ⟨budget, hgive, hbudget, hrun, hlt⟩ := ((hpasses.give hp hneeds).and
    (hend.and (hfails.and (Filter.eventually_gt_atTop (values.length + 1))))).exists
  obtain ⟨rounds, rfl⟩ : ∃ rounds, budget = rounds + 1 + values.length + 1 :=
    ⟨budget - values.length - 2, by omega⟩
  have hlast := (Session.host_faithful (S := Array σ) rules symbols).manyTillFrom_of_failure
    (o := rules.operand (Session.host rules) (rounds + 1 + values.length + 1) p)
    (operand_speaks_repeated rules symbols stop False _) (hbudget (Array σ)).yields
    (hrun (Array σ)).yields (hend.allows hstop.sure_of_isPremade).eq_of_length_le
    (hfails.allows hp.sure_of_isPremade).eq_of_length_le rounds values.reverse
  obtain ⟨out, ⟨f', rfl, hposition⟩, hout⟩ := exists_comesTo _
    (fun _ hunable => hunable.imp_right h.resolve_left) (manyTill_of_passes hneeds hgive hlast)
  exact ⟨f', hout, hposition⟩

end Premade

/-- `manyTill` of a parser that needs a symbol succeeds exactly if the passes lead to a cursor where
the parser that stops it succeeds, with the values of the passes and behind what was read there.
Where there is no such cursor, the passes lead to one where both parsers fail, and `manyTill` fails
at the further of the two positions, if the parsers come to outcomes wherever they are applied. -/
theorem manyTill_stops_first (hp : rules.Throughout Parser.IsPremade p)
    (hstop : rules.Throughout Parser.IsPremade stop) (hneeds : rules.AcceptsEmpty p false)
    (h : rules.Computes stop ∨ ¬rules.Misused symbols (p.manyTill stop) c) :
    (∀ values next, rules.ComesTo symbols (p.manyTill stop) c (.success values next) ↔
      ∃ e v, rules.Passes symbols p stop c values e ∧
        rules.ComesTo symbols stop e (.success v next)) ∧
    ((∀ values e, rules.Passes symbols p stop c values e →
        ∃ out, rules.ComesTo symbols stop e out ∧
          ((∃ g, out = .failure g) → ∃ out', rules.ComesTo symbols p e out')) →
      (¬∃ values e v next, rules.Passes symbols p stop c values e ∧
        rules.ComesTo symbols stop e (.success v next)) →
      ∃ values e g f f', rules.Passes symbols p stop c values e ∧
        rules.ComesTo symbols stop e (.failure g) ∧ rules.ComesTo symbols p e (.failure f) ∧
        rules.ComesTo symbols (p.manyTill stop) c (.failure f') ∧
        f'.position = max g.position f.position) := by
  have hunfit : rules.Repeatable stop False ∨ ¬rules.Misused symbols (p.manyTill stop) c :=
    h.imp_left fun ⟨b, set, hreplies⟩ => ⟨b, set, hreplies, False.elim⟩
  refine ⟨fun values next => ⟨ComesTo.of_manyTill, ?_⟩, ?_⟩
  · rintro ⟨e, v, hpasses, hend⟩
    exact comesTo_manyTill hp hneeds hstop hunfit hpasses hend
  · intro hcome hnone
    obtain ⟨values, e, hpasses, hlast⟩ := exists_last_pass hp hneeds hcome
    rcases hlast with ⟨v, next, hend⟩ | ⟨g, f, hend, hfails⟩
    · exact absurd ⟨values, e, v, next, hpasses, hend⟩ hnone
    · obtain ⟨f', hout, hposition⟩ :=
        comesTo_manyTill_of_failure hp hneeds hstop hunfit hpasses hend hfails
      exact ⟨values, e, g, f, f', hpasses, hend, hfails, hout, hposition⟩

/-- Letters up to an `x`. In `abxx` it stands behind the second letter. In `ab` there is none, and
the input ends where it would be next. -/
theorem manyTill_stops_first_letters :
    let letter : Parser Char (fun _ => Unit) Char := Parser.any
    let x : Parser Char (fun _ => Unit) Char := Parser.value 'x'
    Rules.empty.ComesTo "abxx".toList (letter.manyTill x) .start (.success ['a', 'b'] ⟨3, false⟩) ∧
      ∃ f, Rules.empty.ComesTo "ab".toList (letter.manyTill x) .start (.failure f) ∧
        f.position = 2 := by
  intro letter x
  have hpremade : ∀ set, Rules.empty.Throughout Parser.IsPremade
      (Parser.satisfy (ρ := fun _ => Unit) (σ := Char) set) :=
    fun _ => throughout_empty trivial
  have hcomputes : Rules.empty.Computes x := ⟨_, _, rfl, rfl⟩
  constructor
  · have hs := Session.consistent_array (Rules.empty : Rules Char fun _ => Unit) "abxx".toList
    refine ((manyTill_stops_first (hpremade .all) (hpremade (.value 'x')) rfl (.inl hcomputes)).1
      _ _).mpr ⟨⟨2, false⟩, 'x', ?_, comesTo_of_run 1 hs rfl⟩
    exact .cons ⟨⟨_, comesTo_of_run 1 hs rfl⟩, comesTo_of_run 1 hs rfl⟩
      (.cons ⟨⟨_, comesTo_of_run 1 hs rfl⟩, comesTo_of_run 1 hs rfl⟩ (.nil _))
  · have houtcome := fun set => endsIn_satisfy (Rules.empty : Rules Char fun _ => Unit) "ab".toList
      (fun _ => ()) set
    have hnone : ¬∃ values e v next, Rules.empty.Passes "ab".toList letter x .start values e ∧
        Rules.empty.ComesTo "ab".toList x e (.success v next) := by
      rintro ⟨_, e, v, next, _, hend⟩
      have hx := hend.unique (houtcome (.value 'x') e)
      split at hx
      · cases hx
      · rename_i s hsymbol
        split at hx
        · rename_i hcontains
          have hmem : s ∈ ['a', 'b'] := List.mem_of_getElem? hsymbol
          cases eq_of_beq hcontains
          exact absurd hmem (by decide)
        · cases hx
    obtain ⟨_, e, _, f, f', _, _, hfails, hout, hposition⟩ :=
      (manyTill_stops_first (hpremade .all) (hpremade (.value 'x')) rfl (.inl hcomputes)).2
        (fun _ e _ => ⟨_, houtcome _ e, fun _ => ⟨_, houtcome _ e⟩⟩) hnone
    have hwithin := hout.within (Nat.zero_le 2)
    refine ⟨f', hout, Nat.le_antisymm hwithin.2 ?_⟩
    -- Only at the end is there no letter.
    have hf := hfails.unique (houtcome .all e)
    split at hf
    · rename_i hsymbol
      cases hf
      rw [hposition]
      exact le_max_of_le_right (List.getElem?_eq_none_iff.mp hsymbol)
    · cases hf

end Rules

end PredictiveParsing
