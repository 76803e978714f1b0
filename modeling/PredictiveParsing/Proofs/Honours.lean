import PredictiveParsing.Proofs.Formulas

/-!
# Attempts that honour the answers

A parser that is tried at a position succeeds or fails and gets to some position. The
attempt honours what the parser says of itself when it does not go back or past the end
of the input, when a success gets past the beginning if the parser accepts no empty
input, and when whatever gets past the beginning starts on a symbol of the first set.
`Honours` says so for any need of a symbol and any set to begin on, and `Rules.Keeps` for
those of a parser; the part about first sets is only asked for where `sure` holds.

Each way in which a combinator puts attempts of its operands together has a lemma here:
the result honours the formula of the combinator. Nothing in this module runs a parser.
-/

namespace PredictiveParsing

variable {σ : Type} {ρ : Nat → Type} {α β : Type}

@[simp]
theorem SymbolSet.contains_union [BEq σ] (s t : SymbolSet σ) (x : σ) :
    (s.union t).contains x = (s.contains x || t.contains x) := by
  unfold SymbolSet.union
  split <;> simp [SymbolSet.contains]

/-! ### Stretches of the input -/

/-- From `c` to `e`, not past the end, and on a symbol that `begins` if anything is read. -/
structure Spans (symbols : List σ) (begins : σ → Prop) (c e : Nat) : Prop where
  le : c ≤ e
  within : e ≤ max c symbols.length
  first : c < e → ∃ s, symbols[c]? = some s ∧ begins s

namespace Spans

variable {symbols : List σ} {begins begins' : σ → Prop} {c d e : Nat}

protected theorem refl : Spans symbols begins c c :=
  ⟨Nat.le_refl c, Nat.le_max_left _ _, fun h => absurd h (Nat.lt_irrefl c)⟩

theorem mono (h : Spans symbols begins c e) (hb : ∀ s, begins s → begins' s) :
    Spans symbols begins' c e := by
  refine ⟨h.le, h.within, ?_⟩
  intro hlt
  obtain ⟨s, hs, hbegins⟩ := h.first hlt
  exact ⟨s, hs, hb s hbegins⟩

/-- What comes second matters for the beginning only if the first one read nothing. -/
theorem trans (h : Spans symbols begins c d) (h' : Spans symbols begins' d e)
    (hb : c = d → ∀ s, begins' s → begins s) : Spans symbols begins c e := by
  have hle := h.le
  have hle' := h'.le
  have hwithin := h.within
  have hwithin' := h'.within
  refine ⟨by omega, by omega, ?_⟩
  intro hlt
  by_cases hcd : c < d
  · exact h.first hcd
  · have heq : c = d := by omega
    subst heq
    obtain ⟨s, hs, hbegins⟩ := h'.first hlt
    exact ⟨s, hs, hb rfl s hbegins⟩

theorem one {s : σ} (hs : symbols[c]? = some s) (hb : begins s) :
    Spans symbols begins c (c + 1) := by
  have hlt : c < symbols.length := (List.getElem?_eq_some_iff.mp hs).1
  exact ⟨by omega, by omega, fun _ => ⟨s, hs, hb⟩⟩

/-- Two stretches from the same place, the longer one. -/
theorem furthest (h : Spans symbols begins c d) (h' : Spans symbols begins c e) :
    Spans symbols begins c (max d e) := by
  rcases Nat.le_total d e with hle | hle
  · rw [Nat.max_eq_right hle]
    exact h'
  · rw [Nat.max_eq_left hle]
    exact h

/-- At the end of the input nothing is read. -/
theorem eq_of_length_le (h : Spans symbols begins c e) (hc : symbols.length ≤ c) : e = c := by
  have hle := h.le
  have hwithin := h.within
  omega

end Spans

/-! ### Attempts -/

/-- From `c`, an attempt got to `e` and succeeded there if `ok`. A success gets past `c` if it
`needs` a symbol, and what gets past `c` starts on a symbol that `begins`. -/
structure Honours (symbols : List σ) (needs : Prop) (begins : σ → Prop) (c : Nat) (ok : Bool)
    (e : Nat) : Prop where
  spans : Spans symbols begins c e
  moves : ok = true → needs → c < e

namespace Honours

variable {symbols : List σ} {needs needs' needs'' : Prop} {begins begins' begins'' : σ → Prop}
  {c d e : Nat} {ok : Bool}

/-- A failure at the beginning breaks no word. -/
theorem fail : Honours symbols needs begins c false c := ⟨Spans.refl, nofun⟩

/-- Nor does a success that needs no symbol. -/
theorem rest (h : ¬needs) : Honours symbols needs begins c true c :=
  ⟨Spans.refl, fun _ hneeds => absurd hneeds h⟩

theorem weaken (h : Honours symbols needs begins c ok e) (hn : ok = true → needs' → needs)
    (hb : ∀ s, begins s → begins' s) : Honours symbols needs' begins' c ok e :=
  ⟨h.spans.mono hb, fun hok hneeds => h.moves hok (hn hok hneeds)⟩

/-- An attempt behind a success: it decides on the beginning only if the success read nothing. -/
theorem trans (h : Honours symbols needs begins c true d)
    (h' : Honours symbols needs' begins' d ok e) (hn : needs'' → needs ∨ needs')
    (hb : ∀ s, begins s → begins'' s) (hb' : ¬needs → ∀ s, begins' s → begins'' s) :
    Honours symbols needs'' begins'' c ok e := by
  have hle := h.spans.le
  have hle' := h'.spans.le
  constructor
  · refine (h.spans.mono hb).trans h'.spans ?_
    intro heq
    refine hb' ?_
    intro hneeds
    have hlt := h.moves rfl hneeds
    omega
  · intro hok hneeds
    rcases hn hneeds with hneeds | hneeds
    · have hlt := h.moves rfl hneeds
      omega
    · have hlt := h'.moves hok hneeds
      omega

/-- Two failures from the same place, the further one. -/
theorem furthest (h : Honours symbols needs begins c false d)
    (h' : Honours symbols needs' begins c false e) :
    Honours symbols needs'' begins c false (max d e) :=
  ⟨h.spans.furthest h'.spans, nofun⟩

theorem eq_of_length_le (h : Honours symbols needs begins c ok e) (hc : symbols.length ≤ c) :
    e = c := h.spans.eq_of_length_le hc

/-- At the end of the input nothing that needs a symbol succeeds. -/
theorem ok_eq_false (h : Honours symbols needs begins c ok e) (hc : symbols.length ≤ c)
    (hneeds : needs) : ok = false := by
  cases ok with
  | false => rfl
  | true =>
      have heq := h.eq_of_length_le hc
      have hlt := h.moves rfl hneeds
      omega

/-- Where no symbol begins it, what needs a symbol fails at the beginning. -/
theorem eq_fail (h : Honours symbols needs begins c ok e) (hneeds : needs)
    (hbegins : ¬∃ s, symbols[c]? = some s ∧ begins s) : ok = false ∧ e = c := by
  have hle := h.spans.le
  have hstay : ¬c < e := fun hlt => hbegins (h.spans.first hlt)
  refine ⟨?_, by omega⟩
  cases ok with
  | false => rfl
  | true => exact absurd (h.moves rfl hneeds) hstay

end Honours

/-! ### What parsers say -/

namespace Rules

theorem not_acceptsEmpty_false {rules : Rules σ ρ} {p : Parser σ ρ α}
    (h : rules.AcceptsEmpty p true) : ¬rules.AcceptsEmpty p false := by
  intro hfalse
  cases h.unique hfalse

variable [BEq σ]

/-- The symbol is in the first set of the parser, should it have one. -/
def Begins (rules : Rules σ ρ) (sure : Prop) (p : Parser σ ρ α) (s : σ) : Prop :=
  sure → ∀ set, rules.FirstSet p set → set.contains s = true

abbrev Keeps (rules : Rules σ ρ) (symbols : List σ) (sure : Prop) (p : Parser σ ρ α) (c : Nat)
    (ok : Bool) (e : Nat) : Prop :=
  Honours symbols (rules.AcceptsEmpty p false) (rules.Begins sure p) c ok e

variable {rules : Rules σ ρ} {symbols : List σ} {sure : Prop} {c d e : Nat} {ok : Bool}

/-- A parser keeps its word where another one does that accepts no more and begins on no more. -/
theorem Keeps.weaken {p : Parser σ ρ α} {q : Parser σ ρ β} (h : rules.Keeps symbols sure p c ok e)
    (hempty : rules.AcceptsEmpty q false → rules.AcceptsEmpty p false)
    (hfirst : ∀ set, rules.FirstSet q set →
      ∃ first, rules.FirstSet p first ∧ ∀ s, first.contains s = true → set.contains s = true) :
    rules.Keeps symbols sure q c ok e := by
  refine Honours.weaken h (fun _ hq => hempty hq) ?_
  intro s hs hsure set hset
  obtain ⟨first, hp, hsub⟩ := hfirst set hset
  exact hsub s (hs hsure first hp)

/-! ### One after the other -/

theorem keeps_and_left {p : Parser σ ρ α} {q : Parser σ ρ β}
    (h : rules.Keeps symbols sure p c false e) : rules.Keeps symbols sure (p.and q) c false e := by
  refine ⟨h.spans.mono ?_, nofun⟩
  intro s hs hsure set hset
  rcases firstWithin_and.mp hset with ⟨_, hp⟩ | ⟨_, l, r, hl, _, rfl⟩
  · exact hs hsure set hp
  · simp [hs hsure l hl]

theorem keeps_and_right {p : Parser σ ρ α} {q : Parser σ ρ β}
    (h : rules.Keeps symbols sure p c true d) (h' : rules.Keeps symbols sure q d ok e) :
    rules.Keeps symbols sure (p.and q) c ok e := by
  refine h.trans h' ?_ ?_ ?_
  · intro hfalse
    rcases acceptsEmpty_and.mp hfalse with ⟨_, hq⟩ | ⟨hp, _⟩
    · exact .inr hq
    · exact .inl hp
  · intro s hs hsure set hset
    rcases firstWithin_and.mp hset with ⟨_, hp⟩ | ⟨_, l, r, hl, _, rfl⟩
    · exact hs hsure set hp
    · simp [hs hsure l hl]
  · intro hneeds s hs hsure set hset
    rcases firstWithin_and.mp hset with ⟨hp, _⟩ | ⟨_, l, r, _, hr, rfl⟩
    · exact absurd hp hneeds
    · simp [hs hsure r hr]

theorem keeps_flatMap_left {p : Parser σ ρ α} {k : α → Parser σ ρ β}
    (h : rules.Keeps symbols sure p c false e) :
    rules.Keeps symbols sure (p.flatMap k) c false e := by
  refine ⟨h.spans.mono ?_, nofun⟩
  intro s hs hsure set hset
  rcases firstWithin_flatMap.mp hset with ⟨_, rfl⟩ | ⟨_, hp⟩
  · rfl
  · exact hs hsure set hp

theorem keeps_flatMap_right {p : Parser σ ρ α} {k : α → Parser σ ρ β} {a : α}
    (h : rules.Keeps symbols sure p c true d) (h' : rules.Keeps symbols sure (k a) d ok e) :
    rules.Keeps symbols sure (p.flatMap k) c ok e := by
  refine h.trans h' (fun hfalse => .inl hfalse) ?_ ?_
  · intro s hs hsure set hset
    rcases firstWithin_flatMap.mp hset with ⟨_, rfl⟩ | ⟨_, hp⟩
    · rfl
    · exact hs hsure set hp
  · intro hneeds s _ _ set hset
    rcases firstWithin_flatMap.mp hset with ⟨_, rfl⟩ | ⟨hp, _⟩
    · rfl
    · exact absurd hp hneeds

def BeginsAll (rules : Rules σ ρ) (sure : Prop) (ps : List (Parser σ ρ α)) (s : σ) : Prop :=
  sure → ∀ acc set, rules.FirstOfAll rules.size acc ps set → set.contains s = true

abbrev KeepsAll (rules : Rules σ ρ) (symbols : List σ) (sure : Prop) (ps : List (Parser σ ρ α))
    (c : Nat) (ok : Bool) (e : Nat) : Prop :=
  Honours symbols (rules.AllAcceptEmpty ps false) (rules.BeginsAll sure ps) c ok e

theorem contains_of_firstOfAll {ps : List (Parser σ ρ α)} {acc set : SymbolSet σ} {s : σ}
    (h : rules.FirstOfAll rules.size acc ps set) (hs : acc.contains s = true) :
    set.contains s = true := by
  induction ps generalizing acc with
  | nil =>
      rw [firstOfAll_nil.mp h]
      exact hs
  | cons p ps ih =>
      obtain ⟨first, _, ⟨_, hps⟩ | ⟨_, rfl⟩⟩ := firstOfAll_cons.mp h
      · refine ih hps ?_
        simp [hs]
      · simp [hs]

theorem beginsAll_cons_left {p : Parser σ ρ α} {ps : List (Parser σ ρ α)} {s : σ}
    (hs : rules.Begins sure p s) : rules.BeginsAll sure (p :: ps) s := by
  intro hsure acc set hset
  obtain ⟨first, hfirst, ⟨_, hps⟩ | ⟨_, rfl⟩⟩ := firstOfAll_cons.mp hset
  · refine contains_of_firstOfAll hps ?_
    simp [hs hsure first hfirst]
  · simp [hs hsure first hfirst]

theorem keepsAll_nil : rules.KeepsAll symbols sure ([] : List (Parser σ ρ α)) c true c := by
  refine Honours.rest ?_
  intro h
  cases allAcceptEmpty_nil.mp h

theorem keepsAll_cons_left {p : Parser σ ρ α} {ps : List (Parser σ ρ α)}
    (h : rules.Keeps symbols sure p c false e) :
    rules.KeepsAll symbols sure (p :: ps) c false e :=
  ⟨h.spans.mono fun _ hs => beginsAll_cons_left hs, nofun⟩

theorem keepsAll_cons_right {p : Parser σ ρ α} {ps : List (Parser σ ρ α)}
    (h : rules.Keeps symbols sure p c true d) (h' : rules.KeepsAll symbols sure ps d ok e) :
    rules.KeepsAll symbols sure (p :: ps) c ok e := by
  refine h.trans h' ?_ (fun _ hs => beginsAll_cons_left hs) ?_
  · intro hfalse
    rcases allAcceptEmpty_cons.mp hfalse with ⟨_, hps⟩ | ⟨hp, _⟩
    · exact .inr hps
    · exact .inl hp
  · intro hneeds s hs hsure acc set hset
    obtain ⟨first, _, ⟨_, hps⟩ | ⟨hp, _⟩⟩ := firstOfAll_cons.mp hset
    · exact hs hsure _ set hps
    · exact absurd hp hneeds

theorem keeps_sequence {n : Nat} {ps : Fin n → Parser σ ρ α}
    (h : rules.KeepsAll symbols sure (List.ofFn ps) c ok e) :
    rules.Keeps symbols sure (.sequence ps) c ok e := by
  refine Honours.weaken h (fun _ hfalse => acceptsEmpty_sequence.mp hfalse) ?_
  intro s hs hsure set hset
  exact hs hsure _ set (firstWithin_sequence.mp hset)

/-! ### Alternatives -/

theorem keeps_or_left {p q : Parser σ ρ α} (h : rules.Keeps symbols sure p c ok e) :
    rules.Keeps symbols sure (p.or q) c ok e := by
  refine Keeps.weaken h ?_ ?_
  · intro hfalse
    rcases acceptsEmpty_or.mp hfalse with ⟨_, hb⟩ | ⟨hp, _⟩
    · cases hb
    · exact hp
  · intro set hset
    obtain ⟨l, r, hl, _, rfl⟩ := firstWithin_or.mp hset
    refine ⟨l, hl, ?_⟩
    intro s hs
    simp [hs]

theorem keeps_or_right {p q : Parser σ ρ α} (h : rules.Keeps symbols sure q c ok e) :
    rules.Keeps symbols sure (p.or q) c ok e := by
  refine Keeps.weaken h ?_ ?_
  · intro hfalse
    rcases acceptsEmpty_or.mp hfalse with ⟨_, hb⟩ | ⟨_, hq⟩
    · cases hb
    · exact hq
  · intro set hset
    obtain ⟨l, r, _, hr, rfl⟩ := firstWithin_or.mp hset
    refine ⟨r, hr, ?_⟩
    intro s hs
    simp [hs]

theorem keeps_optional {p : Parser σ ρ α} (h : rules.Keeps symbols sure p c ok e) :
    rules.Keeps symbols sure p.optional c ok e :=
  Keeps.weaken h (fun hfalse => absurd hfalse (not_acceptsEmpty_false rfl))
    fun set hset => ⟨set, hset, fun _ hs => hs⟩

theorem keeps_label (name : String) {p : Parser σ ρ α} (h : rules.Keeps symbols sure p c ok e) :
    rules.Keeps symbols sure (.label name p) c ok e := by
  refine Keeps.weaken h (fun hfalse => hfalse) ?_
  intro set hset
  obtain ⟨first, hfirst, rfl⟩ := firstWithin_label.mp hset
  exact ⟨first, hfirst, fun _ hs => hs⟩

/-! ### Repetition -/

/-- A round and the rounds behind it. -/
theorem keeps_many {p : Parser σ ρ α} (h : rules.Keeps symbols sure p c true d)
    (h' : rules.Keeps symbols sure p.many d ok e) : rules.Keeps symbols sure p.many c ok e :=
  Honours.trans h h' (fun hfalse => absurd hfalse (not_acceptsEmpty_false rfl))
    (fun _ hs => hs) (fun _ _ hs => hs)

theorem keeps_many1 {p : Parser σ ρ α} (h : rules.Keeps symbols sure p c true d)
    (h' : rules.Keeps symbols sure p.many d ok e) : rules.Keeps symbols sure p.many1 c ok e :=
  Honours.trans h h' (fun hfalse => .inl hfalse) (fun _ hs => hs) (fun _ _ hs => hs)

theorem keeps_times_left {min max : Nat} {p : Parser σ ρ α}
    (h : rules.Keeps symbols sure p c false e) :
    rules.Keeps symbols sure (.times min (max + 1) p) c false e := by
  refine ⟨h.spans.mono ?_, nofun⟩
  intro s hs hsure set hset
  exact hs hsure set (firstWithin_times.mp hset)

theorem keeps_times_zero {max : Nat} {p : Parser σ ρ α} :
    rules.Keeps symbols sure (.times 0 max p) c true c :=
  Honours.rest (not_acceptsEmpty_false (acceptsEmpty_times.mpr rfl))

/-- A round, and the rounds behind it that are still asked for. -/
theorem keeps_times_right {min max : Nat} {p : Parser σ ρ α}
    (h : rules.Keeps symbols sure p c true d)
    (h' : rules.Keeps symbols sure (.times (min - 1) max p) d ok e) :
    rules.Keeps symbols sure (.times min (max + 1) p) c ok e := by
  refine Honours.trans h h' ?_ ?_ ?_
  · intro hfalse
    have hfalse := acceptsEmpty_times.mp hfalse
    split at hfalse
    · cases hfalse
    · exact .inl hfalse
  · intro s hs hsure set hset
    exact hs hsure set (firstWithin_times.mp hset)
  · intro _ s hs hsure set hset
    have hset := firstWithin_times.mp hset
    rw [if_neg (Nat.succ_ne_zero max)] at hset
    by_cases hmax : max = 0
    · have hempty : SymbolSet.empty.contains s = true :=
        hs hsure _ (firstWithin_times.mpr (by rw [if_pos hmax]))
      cases hempty
    · exact hs hsure set (firstWithin_times.mpr (by rw [if_neg hmax]; exact hset))

theorem keeps_manyTill_stop {p : Parser σ ρ α} {stop : Parser σ ρ β}
    (h : rules.Keeps symbols sure stop c ok e) :
    rules.Keeps symbols sure (.manyTill p stop) c ok e := by
  refine Keeps.weaken h (fun hfalse => hfalse) ?_
  intro set hset
  obtain ⟨l, r, hl, _, rfl⟩ := firstWithin_manyTill.mp hset
  refine ⟨l, hl, ?_⟩
  intro s hs
  simp [hs]

theorem begins_manyTill {p : Parser σ ρ α} {stop : Parser σ ρ β} {s : σ}
    (hs : rules.Begins sure p s) : rules.Begins sure (.manyTill p stop) s := by
  intro hsure set hset
  obtain ⟨l, r, _, hr, rfl⟩ := firstWithin_manyTill.mp hset
  simp [hs hsure r hr]

theorem keeps_manyTill_round {p : Parser σ ρ α} {stop : Parser σ ρ β}
    (h : rules.Keeps symbols sure p c true d)
    (h' : rules.Keeps symbols sure (.manyTill p stop) d ok e) :
    rules.Keeps symbols sure (.manyTill p stop) c ok e :=
  Honours.trans h h' .inr (fun _ hs => begins_manyTill hs) (fun _ _ hs => hs)

/-- Neither the stop nor a round succeeds. -/
theorem keeps_manyTill_fail {p : Parser σ ρ α} {stop : Parser σ ρ β}
    (h : rules.Keeps symbols sure stop c false d) (h' : rules.Keeps symbols sure p c false e) :
    rules.Keeps symbols sure (.manyTill p stop) c false (max d e) := by
  have hround : Honours symbols True (rules.Begins sure (.manyTill p stop)) c false e :=
    ⟨h'.spans.mono fun _ hs => begins_manyTill hs, nofun⟩
  exact (keeps_manyTill_stop h).furthest hround

theorem keeps_chain_left {side : Side} {operand : Parser σ ρ α} {op : Parser σ ρ (α → α → α)}
    (h : rules.Keeps symbols sure operand c ok e) :
    rules.Keeps symbols sure (.chain side operand op) c ok e := h

/-- Behind the first operand of a chain anything can come, since the operand reads a symbol. -/
theorem keeps_chain_right {side : Side} {operand : Parser σ ρ α} {op : Parser σ ρ (α → α → α)}
    (h : rules.Keeps symbols sure operand c true d)
    (hneeds : ∀ set, sure → rules.FirstSet operand set → rules.AcceptsEmpty operand false)
    (h' : Spans symbols (fun _ => True) d e) :
    rules.Keeps symbols sure (.chain side operand op) c ok e := by
  have hrest : Honours symbols False (fun _ => True) d ok e := ⟨h', fun _ hf => hf.elim⟩
  refine Honours.trans h hrest .inl (fun _ hs => hs) ?_
  intro hnot s _ hsure set hset
  exact absurd (hneeds set hsure hset) hnot

end Rules

end PredictiveParsing
