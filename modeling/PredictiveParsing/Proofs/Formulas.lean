import PredictiveParsing.Proofs.Answers
import PredictiveParsing.Proofs.Everywhere

/-!
# Formulas of the combinators

What a combinator says about itself, read off what its operands say. Parsers without a
lemma here answer at once or as their only operand does, which the definitions show by
themselves. For the parsers of a `sequence`, `AllAcceptEmpty` and `FirstOfAll` are the
answers of a list of parsers in turn.

A parser that can say on which symbols it begins can also say whether it accepts empty
input (`exists_acceptsEmpty`), if no repetition in the grammar has its bounds crossed.
-/

namespace PredictiveParsing

variable {σ : Type} {ρ : Nat → Type} {α β : Type}

namespace Inquiry

theorem bind_ok_iff {q : Inquiry Unit α} {f : α → Inquiry Unit β} {b : β} :
    (q >>= f) () = .ok b () ↔ ∃ a, q () = .ok a () ∧ f a () = .ok b () := by
  change EStateM.bind q f () = .ok b () ↔ _
  unfold EStateM.bind
  cases q () with
  | ok a st => simp
  | error e st => simp

theorem pure_ok_iff {a b : α} : (pure a : Inquiry Unit α) () = .ok b () ↔ b = a := by
  constructor
  · intro h
    cases h
    rfl
  · rintro rfl
    rfl

end Inquiry

namespace Rules

variable {rules : Rules σ ρ}

/-! ### Empty input -/

theorem acceptsEmpty_and {p : Parser σ ρ α} {q : Parser σ ρ β} {b : Bool} :
    rules.AcceptsEmpty (p.and q) b ↔
      rules.AcceptsEmpty p true ∧ rules.AcceptsEmpty q b ∨
        rules.AcceptsEmpty p false ∧ b = false := by
  refine Inquiry.bind_ok_iff.trans ?_
  constructor
  · rintro ⟨a, ha, hb⟩
    cases a with
    | true => exact .inl ⟨ha, hb⟩
    | false => exact .inr ⟨ha, Inquiry.pure_ok_iff.mp hb⟩
  · rintro (⟨hp, hq⟩ | ⟨hp, rfl⟩)
    · exact ⟨true, hp, hq⟩
    · exact ⟨false, hp, rfl⟩

theorem acceptsEmpty_or {p q : Parser σ ρ α} {b : Bool} :
    rules.AcceptsEmpty (p.or q) b ↔
      rules.AcceptsEmpty p true ∧ b = true ∨
        rules.AcceptsEmpty p false ∧ rules.AcceptsEmpty q b := by
  refine Inquiry.bind_ok_iff.trans ?_
  constructor
  · rintro ⟨a, ha, hb⟩
    cases a with
    | true => exact .inl ⟨ha, Inquiry.pure_ok_iff.mp hb⟩
    | false => exact .inr ⟨ha, hb⟩
  · rintro (⟨hp, rfl⟩ | ⟨hp, hq⟩)
    · exact ⟨true, hp, rfl⟩
    · exact ⟨false, hp, hq⟩

theorem acceptsEmpty_times {min max : Nat} {p : Parser σ ρ α} {b : Bool} :
    rules.AcceptsEmpty (.times min max p) b ↔
      if min = 0 then b = true else rules.AcceptsEmpty p b := by
  rw [AcceptsEmpty, Parser.acceptsEmpty_times]
  split
  · exact Inquiry.pure_ok_iff
  · exact Iff.rfl

def AllAcceptEmpty (rules : Rules σ ρ) (ps : List (Parser σ ρ α)) (b : Bool) : Prop :=
  Inquiry.all (ps.map fun p => p.acceptsEmpty (rules.emptyWithin rules.size)) () = .ok b ()

theorem acceptsEmpty_sequence {n : Nat} {ps : Fin n → Parser σ ρ α} {b : Bool} :
    rules.AcceptsEmpty (.sequence ps) b ↔ rules.AllAcceptEmpty (List.ofFn ps) b := by
  rw [AcceptsEmpty, Parser.acceptsEmpty_sequence, AllAcceptEmpty]

theorem allAcceptEmpty_nil {b : Bool} :
    rules.AllAcceptEmpty ([] : List (Parser σ ρ α)) b ↔ b = true :=
  Inquiry.pure_ok_iff

theorem allAcceptEmpty_cons {p : Parser σ ρ α} {ps : List (Parser σ ρ α)} {b : Bool} :
    rules.AllAcceptEmpty (p :: ps) b ↔
      rules.AcceptsEmpty p true ∧ rules.AllAcceptEmpty ps b ∨
        rules.AcceptsEmpty p false ∧ b = false := by
  simp only [AllAcceptEmpty, AcceptsEmpty, List.map_cons, Inquiry.all, Inquiry.bind_ok_iff]
  constructor
  · rintro ⟨a, ha, hb⟩
    cases a with
    | true => exact .inl ⟨ha, hb⟩
    | false => exact .inr ⟨ha, Inquiry.pure_ok_iff.mp hb⟩
  · rintro (⟨hp, hq⟩ | ⟨hp, rfl⟩)
    · exact ⟨true, hp, hq⟩
    · exact ⟨false, hp, rfl⟩

/-! ### First sets -/

section First

variable [BEq σ] {d : Nat} {set : SymbolSet σ}

theorem firstWithin_and {p : Parser σ ρ α} {q : Parser σ ρ β} :
    rules.FirstWithin d (p.and q) set ↔
      rules.AcceptsEmpty p false ∧ rules.FirstWithin d p set ∨
        rules.AcceptsEmpty p true ∧ ∃ l r, rules.FirstWithin d p l ∧ rules.FirstWithin d q r ∧
          set = l.union r := by
  refine Inquiry.bind_ok_iff.trans ?_
  constructor
  · rintro ⟨b, hb, h⟩
    cases b with
    | false => exact .inl ⟨hb, h⟩
    | true =>
        rw [if_pos rfl] at h
        obtain ⟨l, hl, h⟩ := Inquiry.bind_ok_iff.mp h
        obtain ⟨r, hr, hset⟩ := Inquiry.bind_ok_iff.mp h
        exact .inr ⟨hb, l, r, hl, hr, Inquiry.pure_ok_iff.mp hset⟩
  · rintro (⟨hb, h⟩ | ⟨hb, l, r, hl, hr, rfl⟩)
    · exact ⟨false, hb, h⟩
    · refine ⟨true, hb, ?_⟩
      exact Inquiry.bind_ok_iff.mpr ⟨l, hl, Inquiry.bind_ok_iff.mpr ⟨r, hr, rfl⟩⟩

theorem firstWithin_or {p q : Parser σ ρ α} :
    rules.FirstWithin d (p.or q) set ↔
      ∃ l r, rules.FirstWithin d p l ∧ rules.FirstWithin d q r ∧ set = l.union r := by
  refine Inquiry.bind_ok_iff.trans ?_
  constructor
  · rintro ⟨l, hl, h⟩
    obtain ⟨r, hr, hset⟩ := Inquiry.bind_ok_iff.mp h
    exact ⟨l, r, hl, hr, Inquiry.pure_ok_iff.mp hset⟩
  · rintro ⟨l, r, hl, hr, rfl⟩
    exact ⟨l, hl, Inquiry.bind_ok_iff.mpr ⟨r, hr, rfl⟩⟩

theorem firstWithin_flatMap {p : Parser σ ρ α} {k : α → Parser σ ρ β} :
    rules.FirstWithin d (p.flatMap k) set ↔
      rules.AcceptsEmpty p true ∧ set = .all ∨
        rules.AcceptsEmpty p false ∧ rules.FirstWithin d p set := by
  refine Inquiry.bind_ok_iff.trans ?_
  constructor
  · rintro ⟨b, hb, h⟩
    cases b with
    | true => exact .inl ⟨hb, Inquiry.pure_ok_iff.mp h⟩
    | false => exact .inr ⟨hb, h⟩
  · rintro (⟨hb, rfl⟩ | ⟨hb, h⟩)
    · exact ⟨true, hb, rfl⟩
    · exact ⟨false, hb, h⟩

theorem firstWithin_label {name : String} {p : Parser σ ρ α} :
    rules.FirstWithin d (.label name p) set ↔
      ∃ first, rules.FirstWithin d p first ∧ set = .predicate name first.contains := by
  refine Inquiry.bind_ok_iff.trans (exists_congr ?_)
  intro first
  exact and_congr Iff.rfl Inquiry.pure_ok_iff

theorem firstWithin_times {min max : Nat} {p : Parser σ ρ α} :
    rules.FirstWithin d (.times min max p) set ↔
      if max = 0 then set = .empty else rules.FirstWithin d p set := by
  rw [FirstWithin, Parser.firstSet_times]
  split
  · exact Inquiry.pure_ok_iff
  · exact Iff.rfl

theorem firstWithin_manyTill {p : Parser σ ρ α} {stop : Parser σ ρ β} :
    rules.FirstWithin d (.manyTill p stop) set ↔
      ∃ l r, rules.FirstWithin d stop l ∧ rules.FirstWithin d p r ∧ set = l.union r := by
  refine Inquiry.bind_ok_iff.trans ?_
  constructor
  · rintro ⟨l, hl, h⟩
    obtain ⟨r, hr, hset⟩ := Inquiry.bind_ok_iff.mp h
    exact ⟨l, r, hl, hr, Inquiry.pure_ok_iff.mp hset⟩
  · rintro ⟨l, r, hl, hr, rfl⟩
    exact ⟨l, hl, Inquiry.bind_ok_iff.mpr ⟨r, hr, rfl⟩⟩

/-- The symbols on which the parsers of a list can begin in turn, together with a set. -/
def FirstOfAll (rules : Rules σ ρ) (d : Nat) (acc : SymbolSet σ) (ps : List (Parser σ ρ α))
    (set : SymbolSet σ) : Prop :=
  Inquiry.unionUpToNonempty acc (ps.map fun p =>
    (p.firstSet (rules.emptyWithin rules.size) (rules.firstWithin d),
      p.acceptsEmpty (rules.emptyWithin rules.size))) () = .ok set ()

theorem firstWithin_sequence {n : Nat} {ps : Fin n → Parser σ ρ α} :
    rules.FirstWithin d (.sequence ps) set ↔ rules.FirstOfAll d .empty (List.ofFn ps) set := by
  rw [FirstWithin, Parser.firstSet_sequence, FirstOfAll]

theorem firstOfAll_nil {acc : SymbolSet σ} :
    rules.FirstOfAll d acc ([] : List (Parser σ ρ α)) set ↔ set = acc :=
  Inquiry.pure_ok_iff

theorem firstOfAll_cons {acc : SymbolSet σ} {p : Parser σ ρ α} {ps : List (Parser σ ρ α)} :
    rules.FirstOfAll d acc (p :: ps) set ↔
      ∃ first, rules.FirstWithin d p first ∧
        (rules.AcceptsEmpty p true ∧ rules.FirstOfAll d (acc.union first) ps set ∨
          rules.AcceptsEmpty p false ∧ set = acc.union first) := by
  simp only [FirstOfAll, AcceptsEmpty, FirstWithin, List.map_cons, Inquiry.unionUpToNonempty,
    Inquiry.bind_ok_iff]
  constructor
  · rintro ⟨first, hfirst, b, hb, h⟩
    cases b with
    | true => exact ⟨first, hfirst, .inl ⟨hb, h⟩⟩
    | false => exact ⟨first, hfirst, .inr ⟨hb, Inquiry.pure_ok_iff.mp h⟩⟩
  · rintro ⟨first, hfirst, ⟨hb, h⟩ | ⟨hb, rfl⟩⟩
    · exact ⟨first, hfirst, true, hb, h⟩
    · exact ⟨first, hfirst, false, hb, rfl⟩

theorem allAcceptEmpty_of_firstOfAll {acc : SymbolSet σ} {ps : List (Parser σ ρ α)}
    (h : rules.FirstOfAll d acc ps set) : ∃ b, rules.AllAcceptEmpty ps b := by
  induction ps generalizing acc with
  | nil => exact ⟨true, allAcceptEmpty_nil.mpr rfl⟩
  | cons p ps ih =>
      obtain ⟨first, _, ⟨hp, hps⟩ | ⟨hp, _⟩⟩ := firstOfAll_cons.mp h
      · obtain ⟨b, hb⟩ := ih hps
        exact ⟨b, allAcceptEmpty_cons.mpr (.inl ⟨hp, hb⟩)⟩
      · exact ⟨false, allAcceptEmpty_cons.mpr (.inr ⟨hp, rfl⟩)⟩

/-! ### First sets need the answer about empty input -/

/-- A parser that can say on which symbols it begins can say whether it accepts empty input, if
rules whose first sets it needs can. -/
theorem exists_acceptsEmpty_of_rules {p : Parser σ ρ α} (hp : p.Everywhere Parser.BoundsInOrder)
    (hrule : ∀ i s, rules.firstWithin d i () = .ok s () →
      ∃ b, rules.AcceptsEmpty (.rule i) b)
    (h : rules.FirstWithin d p set) : ∃ b, rules.AcceptsEmpty p b := by
  induction p generalizing set with
  | pure | eof | lookahead | not | optional | many | skipMany => exact ⟨true, rfl⟩
  | fail | satisfy | literal => exact ⟨false, rfl⟩
  | longest r => exact ⟨_, rfl⟩
  | declared acceptsEmpty => exact ⟨acceptsEmpty, rfl⟩
  | map _ _ ih | tryMap _ _ ih | many1 _ ih | recording _ _ ih => exact ih hp.2 h
  | chain _ _ _ ih => exact ih hp.2.1 h
  | and p q ihp ihq =>
      rcases firstWithin_and.mp h with ⟨hb, _⟩ | ⟨hb, l, r, _, hr, _⟩
      · exact ⟨false, acceptsEmpty_and.mpr (.inr ⟨hb, rfl⟩)⟩
      · obtain ⟨b, hq⟩ := ihq hp.2.2 hr
        exact ⟨b, acceptsEmpty_and.mpr (.inl ⟨hb, hq⟩)⟩
  | or p q ihp ihq =>
      obtain ⟨l, r, hl, hr, _⟩ := firstWithin_or.mp h
      obtain ⟨b, hb⟩ := ihp hp.2.1 hl
      obtain ⟨b', hb'⟩ := ihq hp.2.2 hr
      cases b with
      | true => exact ⟨true, acceptsEmpty_or.mpr (.inl ⟨hb, rfl⟩)⟩
      | false => exact ⟨b', acceptsEmpty_or.mpr (.inr ⟨hb, hb'⟩)⟩
  | flatMap p k ih _ =>
      rcases firstWithin_flatMap.mp h with ⟨hb, _⟩ | ⟨hb, _⟩
      · exact ⟨true, hb⟩
      · exact ⟨false, hb⟩
  | label name p ih =>
      obtain ⟨first, hfirst, _⟩ := firstWithin_label.mp h
      exact ih hp.2 hfirst
  | sequence ps _ =>
      obtain ⟨b, hb⟩ := allAcceptEmpty_of_firstOfAll (firstWithin_sequence.mp h)
      exact ⟨b, acceptsEmpty_sequence.mpr hb⟩
  | times min max p ih =>
      have hle : min ≤ max := hp.here
      by_cases hmin : min = 0
      · exact ⟨true, acceptsEmpty_times.mpr (by rw [if_pos hmin])⟩
      · rw [firstWithin_times, if_neg (by omega)] at h
        obtain ⟨b, hb⟩ := ih hp.2 h
        exact ⟨b, acceptsEmpty_times.mpr (by rw [if_neg hmin]; exact hb)⟩
  | manyTill p stop _ ih =>
      obtain ⟨l, r, hl, _, _⟩ := firstWithin_manyTill.mp h
      exact ih hp.2.2 hl
  | rule i => exact hrule i set h

theorem exists_acceptsEmpty_of_firstWithin
    (hrules : ∀ i body, rules.body? i = some body → body.Everywhere Parser.BoundsInOrder)
    (d i : Nat) (s : SymbolSet σ) (h : rules.firstWithin d i () = .ok s ()) :
    ∃ b, rules.AcceptsEmpty (.rule i) b := by
  induction d generalizing i s with
  | zero => exact absurd h (firstWithin_zero i s)
  | succ d ih =>
      obtain ⟨body, hbody, hfirst⟩ := firstWithin_succ_ok_iff.mp h
      obtain ⟨b, hb⟩ := exists_acceptsEmpty_of_rules (hrules i body hbody) ih hfirst
      exact ⟨b, acceptsEmpty_rule.mpr ⟨body, hbody, hb⟩⟩

/-- A parser that can say on which symbols it begins can say whether it accepts empty input. -/
theorem exists_acceptsEmpty {p : Parser σ ρ α} (hp : p.Everywhere Parser.BoundsInOrder)
    (hrules : ∀ i body, rules.body? i = some body → body.Everywhere Parser.BoundsInOrder)
    (h : rules.FirstWithin d p set) : ∃ b, rules.AcceptsEmpty p b :=
  exists_acceptsEmpty_of_rules hp (exists_acceptsEmpty_of_firstWithin hrules d) h

end First

end Rules

end PredictiveParsing
