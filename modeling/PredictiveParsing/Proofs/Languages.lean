import PredictiveParsing.Proofs.Phrases
import PredictiveParsing.Proofs.Verdict

/-!
# What can have been read

The other half of what parsers read: `rules.ReadsOnly symbols k p L` says that whatever `p` reads in
the input from the position `k` on is in the language `L`, a relation of texts and values. A
combinator reads only what its parts do, since a success of it comes from successes of theirs. Where
a parser stands behind one that reads something, it is enough to know this from the next position
on: grammars are recursive there, and what is left of the input gets shorter.

A parse that gives a value has read the whole input (`Rules.ReadsOnly.of_parseSymbols`).
-/

namespace PredictiveParsing

variable {σ : Type} {ρ : Nat → Type} {α β γ : Type}

/-! ### Texts in an input -/

/-- The text stands in the input from one cursor to the other. -/
structure Spells (symbols : List σ) (c : Cursor) (t : List σ) (next : Cursor) : Prop where
  position : next.position = c.position + t.length
  stands : t <+: symbols.drop c.position

namespace Spells

variable {symbols t u : List σ} {c next e : Cursor}

theorem nil (c : Cursor) : Spells symbols c [] c := ⟨rfl, List.nil_prefix⟩

theorem append (h : Spells symbols c t next) (h' : Spells symbols next u e) :
    Spells symbols c (t ++ u) e := by
  obtain ⟨rest, hrest⟩ := h.stands
  obtain ⟨rest', hrest'⟩ := h'.stands
  refine ⟨by rw [h'.position, h.position, List.length_append, Nat.add_assoc], rest', ?_⟩
  rw [h.position, ← List.drop_drop, ← hrest, List.drop_left] at hrest'
  rw [List.append_assoc, hrest', hrest]

theorem le (h : Spells symbols c t next) : c.position ≤ next.position := by
  rw [h.position]
  exact Nat.le_add_right ..

theorem lt_length (h : Spells symbols c t next) (hne : t ≠ []) :
    c.position < symbols.length := by
  obtain ⟨rest, hrest⟩ := h.stands
  exact lt_length_of_drop hrest.symm hne

theorem lt (h : Spells symbols c t next) (hne : t ≠ []) : c.position < next.position := by
  rw [h.position]
  exact Nat.lt_add_of_pos_right (List.length_pos_of_ne_nil hne)

/-- A text from the beginning to the end is all of the input. -/
theorem eq (h : Spells symbols c t next) (hc : c.position = 0)
    (hend : symbols.length ≤ next.position) : t = symbols := by
  have hstands := h.stands
  rw [hc, List.drop_zero] at hstands
  refine hstands.eq_of_length_le ?_
  rwa [h.position, hc, Nat.zero_add] at hend

end Spells

namespace Rules

variable [BEq σ] {rules : Rules σ ρ} {symbols : List σ} {c next e : Cursor}

/-! ### Successes of combinators -/

section Successes

variable {p p' : Parser σ ρ α} {q : Parser σ ρ β} {a : α} {b : β} {set : SymbolSet σ} {x : σ}

theorem ComesTo.of_satisfy (h : rules.ComesTo symbols (.satisfy set) c (.success x next)) :
    symbols[c.position]? = some x ∧ set.contains x = true ∧ next = c.advance := by
  have heq := h.unique (endsIn_satisfy rules symbols (fun _ => ()) set c)
  split at heq
  · cases heq
  · rename_i y hy
    split at heq
    · rename_i hcontains
      cases heq
      exact ⟨hy, hcontains, rfl⟩
    · cases heq

theorem ComesTo.of_map {g : α → γ} {v : γ}
    (h : rules.ComesTo symbols (p.map g) c (.success v next)) :
    ∃ a, rules.ComesTo symbols p c (.success a next) ∧ v = g a := by
  refine h.of_yields (q := fun out => ∀ v next, out = .success v next →
    ∃ a, rules.ComesTo symbols p c (.success a next) ∧ v = g a) ?_ v next rfl
  intro budget
  cases budget with
  | zero => exact Yields.throw trivial
  | succ rounds =>
      refine (apply_yields_comesTo rules symbols (rounds + 1) p c).bind ?_
      intro out hout
      refine Yields.pure ?_
      intro v next heq
      cases out with
      | failure f => cases heq
      | success a next =>
          cases heq
          exact ⟨a, hout, rfl⟩

theorem ComesTo.of_and (h : rules.ComesTo symbols (p.and q) c (.success (a, b) e)) :
    ∃ next, rules.ComesTo symbols p c (.success a next) ∧
      rules.ComesTo symbols q next (.success b e) := by
  refine h.of_yields (q := fun out => ∀ v e, out = .success v e →
    ∃ next, rules.ComesTo symbols p c (.success v.1 next) ∧
      rules.ComesTo symbols q next (.success v.2 e)) ?_ (a, b) e rfl
  intro budget
  cases budget with
  | zero => exact Yields.throw trivial
  | succ rounds =>
      have hhost := Session.host_faithful (S := Array σ) rules symbols
      have hspeaks := hhost.operand_speaks (E := fun _ => True) (fun _ => trivial) q
        (rules.apply (Session.host rules) (rounds + 1) q)
      refine (apply_yields_comesTo rules symbols (rounds + 1) p c).bind ?_
      intro out hout
      cases out with
      | failure f => exact Yields.pure nofun
      | success a next =>
          refine (hhost.endsBefore hspeaks next).bind ?_
          intro ends _
          cases ends with
          | true => exact hspeaks.firstSet.bind fun _ _ => Yields.pure nofun
          | false =>
              refine (apply_yields_comesTo rules symbols (rounds + 1) q next).bind ?_
              intro out' hout'
              cases out' with
              | failure f => exact Yields.pure nofun
              | success b e =>
                  refine Yields.pure ?_
                  rintro _ _ ⟨rfl, rfl⟩
                  exact ⟨next, hout, hout'⟩

def EitherComesTo (rules : Rules σ ρ) (symbols : List σ) (p p' : Parser σ ρ α) (c : Cursor) :
    Outcome σ α → Prop
  | .success a next => rules.ComesTo symbols p c (.success a next) ∨
    rules.ComesTo symbols p' c (.success a next)
  | .failure _ => True

theorem ComesTo.of_or_success (h : rules.ComesTo symbols (p.or p') c (.success a next)) :
    rules.ComesTo symbols p c (.success a next) ∨ rules.ComesTo symbols p' c (.success a next) := by
  refine h.of_yields (q := rules.EitherComesTo symbols p p' c) ?_
  intro budget
  cases budget with
  | zero => exact Yields.throw trivial
  | succ rounds =>
      have hhost := Session.host_faithful (S := Array σ) rules symbols
      have hspeaks := fun p : Parser σ ρ α => hhost.operand_speaks (E := fun _ => True)
        (fun _ => trivial) p (rules.apply (Session.host rules) (rounds + 1) p)
      have hsecond : ∀ left, Yields (Session.Consistent rules symbols) (fun _ => True)
          (rules.apply (Session.host (S := Array σ) rules) (rounds + 1) p' c >>=
            (Session.host rules).orElse c left) (rules.EitherComesTo symbols p p' c) := by
        intro left
        refine (apply_yields_comesTo rules symbols (rounds + 1) p' c).bind ?_
        intro out hout
        cases out with
        | success a next => exact (hhost.recover c left).bind fun _ _ => Yields.pure (.inr hout)
        | failure f => exact Yields.pure trivial
      refine (hhost.atEnd c).bind ?_
      intro ended _
      cases ended with
      | false =>
          refine (apply_yields_comesTo rules symbols (rounds + 1) p c).bind ?_
          intro out hout
          cases out with
          | success a next => exact Yields.pure (.inl hout)
          | failure left => exact hsecond left
      | true =>
          refine (hspeaks p').acceptsEmpty.bind ?_
          intro rightAccepts _
          refine (hspeaks p).acceptsEmpty.bind ?_
          intro leftAccepts _
          cases leftAccepts with
          | true =>
              refine (apply_yields_comesTo rules symbols (rounds + 1) p c).bind ?_
              intro out hout
              cases out with
              | success a next => exact Yields.pure (.inl hout)
              | failure left =>
                  cases rightAccepts with
                  | true => exact hsecond left
                  | false => exact Yields.pure trivial
          | false =>
              cases rightAccepts with
              | true =>
                  refine (apply_yields_comesTo rules symbols (rounds + 1) p' c).mono ?_
                  intro out hout
                  cases out with
                  | success a next => exact .inr hout
                  | failure f => exact trivial
              | false =>
                  refine (hspeaks p).firstSet.bind fun _ _ => ?_
                  exact (hspeaks p').firstSet.bind fun _ _ => Yields.pure trivial

theorem ComesTo.of_rule {i : Nat} {out : Outcome σ (ρ i)}
    (h : rules.ComesTo symbols (.rule i) c out) :
    ∃ body, rules.body? i = some body ∧ rules.ComesTo symbols body c out := by
  obtain ⟨budget, s', hrun⟩ := h.exists_run
  cases budget with
  | zero => cases hrun
  | succ rounds =>
      unfold apply Parser.run at hrun
      cases hbody : rules.body? i with
      | none =>
          rw [hbody] at hrun
          cases hrun
      | some body =>
          rw [hbody] at hrun
          exact ⟨body, rfl, comesTo_of_run rounds (Session.consistent_array rules symbols) hrun⟩

end Successes

/-! ### Languages of parsers -/

/-- From the position on, whatever the parser reads in the input is in the language. -/
def ReadsOnly (rules : Rules σ ρ) (symbols : List σ) (k : Nat) (p : Parser σ ρ α)
    (L : List σ → α → Prop) : Prop :=
  ∀ (c : Cursor) a next, k ≤ c.position → rules.ComesTo symbols p c (.success a next) →
    ∃ t, L t a ∧ Spells symbols c t next

section Languages

variable {p p' : Parser σ ρ α} {q : Parser σ ρ β} {k : Nat} {L L' : List σ → α → Prop}
  {M : List σ → β → Prop} {set : SymbolSet σ}

theorem ReadsOnly.mono (h : rules.ReadsOnly symbols k p L) (hL : ∀ t a, L t a → L' t a) :
    rules.ReadsOnly symbols k p L' := by
  intro c a next hc hout
  obtain ⟨t, ht, hspells⟩ := h c a next hc hout
  exact ⟨t, hL t a ht, hspells⟩

theorem readsOnly_satisfy :
    rules.ReadsOnly symbols k (.satisfy set) fun t x => t = [x] ∧ set.contains x = true := by
  intro c x next _ hout
  obtain ⟨hx, hcontains, rfl⟩ := hout.of_satisfy
  obtain ⟨hc, rfl⟩ := List.getElem?_eq_some_iff.mp hx
  refine ⟨_, ⟨rfl, hcontains⟩, rfl, symbols.drop (c.position + 1), ?_⟩
  exact (List.drop_eq_getElem_cons hc).symm

theorem ReadsOnly.map {g : α → γ} {N : List σ → γ → Prop} (h : rules.ReadsOnly symbols k p L)
    (hN : ∀ t a, L t a → N t (g a)) : rules.ReadsOnly symbols k (p.map g) N := by
  intro c v next hc hout
  obtain ⟨a, hvalue, rfl⟩ := hout.of_map
  obtain ⟨t, ht, hspells⟩ := h c a next hc hvalue
  exact ⟨t, hN t a ht, hspells⟩

/-- Behind a parser that reads something it is enough to know of the next position on what the
second parser reads. -/
theorem ReadsOnly.and (hp : rules.ReadsOnly symbols k p L) (hne : ∀ t a, L t a → t ≠ [])
    (hq : k < symbols.length → rules.ReadsOnly symbols (k + 1) q M) :
    rules.ReadsOnly symbols k (p.and q)
      fun t v => ∃ u w, t = u ++ w ∧ L u v.1 ∧ M w v.2 := by
  rintro c ⟨a, b⟩ e hc hout
  obtain ⟨next, hfirst, hsecond⟩ := hout.of_and
  obtain ⟨u, hu, hspells⟩ := hp c a next hc hfirst
  have hk : k < symbols.length := Nat.lt_of_le_of_lt hc (hspells.lt_length (hne u a hu))
  have hnext : k + 1 ≤ next.position := Nat.lt_of_le_of_lt hc (hspells.lt (hne u a hu))
  obtain ⟨w, hw, hspells'⟩ := hq hk next b e hnext hsecond
  exact ⟨u ++ w, ⟨u, w, rfl, hu, hw⟩, hspells.append hspells'⟩

theorem ReadsOnly.or (hp : rules.ReadsOnly symbols k p L) (hp' : rules.ReadsOnly symbols k p' L) :
    rules.ReadsOnly symbols k (p.or p') L := by
  intro c a next hc hout
  rcases hout.of_or_success with hout | hout
  · exact hp c a next hc hout
  · exact hp' c a next hc hout

theorem ReadsOnly.rule {i : Nat} {body : Parser σ ρ (ρ i)} {L : List σ → ρ i → Prop}
    (hbody : rules.body? i = some body) (h : rules.ReadsOnly symbols k body L) :
    rules.ReadsOnly symbols k (.rule i) L := by
  intro c a next hc hout
  obtain ⟨body', hbody', hout⟩ := hout.of_rule
  rw [hbody] at hbody'
  cases hbody'
  exact h c a next hc hout

/-! ### Chains -/

variable {op : Parser σ ρ (α → α → α)} {Op : List σ → (α → α → α) → Prop}
  {pairs : List ((α → α → α) × α)} {side : Side}

theorem exists_links (hp : rules.ReadsOnly symbols k p L) (hop : rules.ReadsOnly symbols k op Op)
    (hc : k ≤ c.position) (h : Steps (rules.Link symbols p op) c pairs e) :
    ∃ t, Links L Op t pairs ∧ Spells symbols c t e := by
  induction h with
  | nil c => exact ⟨[], .nil, .nil c⟩
  | cons hlink _ ih =>
      obtain ⟨mid, hop', hoperand⟩ := hlink
      obtain ⟨u, hu, hspells⟩ := hop _ _ mid hc hop'
      obtain ⟨t, ht, hspells'⟩ := hp mid _ _ (Nat.le_trans hc hspells.le) hoperand
      obtain ⟨rest, hrest, hspells''⟩ :=
        ih (Nat.le_trans hc (Nat.le_trans hspells.le hspells'.le))
      exact ⟨u ++ (t ++ rest), .cons hu ht hrest, hspells.append (hspells'.append hspells'')⟩

/-- A text of an operand and links behind it, with the value that a chain makes of them. -/
def Chained (side : Side) (L : List σ → α → Prop) (Op : List σ → (α → α → α) → Prop)
    (t : List σ) (v : α) : Prop :=
  ∃ x pairs s u, t = s ++ u ∧ L s x ∧ Links L Op u pairs ∧ v = side.nest x pairs

theorem ReadsOnly.chain (hp : rules.ReadsOnly symbols k p L)
    (hop : rules.ReadsOnly symbols k op Op) :
    rules.ReadsOnly symbols k (.chain side p op) (Chained side L Op) := by
  intro c v e hc hout
  obtain ⟨x, pairs, ⟨next, hx, hpairs, _⟩, hall⟩ := hout.chain_success
  cases hout.unique (hall side)
  obtain ⟨s, hs, hspells⟩ := hp c x next hc hx
  obtain ⟨u, hu, hspells'⟩ := exists_links hp hop (Nat.le_trans hc hspells.le) hpairs
  exact ⟨s ++ u, ⟨x, pairs, s, u, rfl, hs, hu, rfl⟩, hspells.append hspells'⟩

end Languages

end Rules

/-! ### Whole inputs -/

section Parse

variable [Symbol σ] {rules : Rules σ ρ} {p : Parser σ ρ α} {symbols : List σ} {v : α}

/-- A parse that gives a value has come to it at the end of the input. -/
theorem comesTo_of_parseSymbols (hp : rules.Throughout Parser.IsPremade p)
    (h : parseSymbols rules p symbols.toArray = .ok (.ok v)) :
    ∃ next, rules.ComesTo symbols p ⟨0, true⟩ (.success v next) ∧
      symbols.length ≤ next.position := by
  unfold parseSymbols parseSource Session.parse at h
  cases hrun : rules.parse (Session.host rules)
      (Session.budget rules ({ source := symbols.toArray } : Session σ (Array σ))) p .start
      { source := symbols.toArray } with
  | error e s =>
      rw [hrun] at h
      cases h
  | ok out s =>
      rw [hrun] at h
      cases out with
      | failure f => cases h
      | success a c =>
          cases h
          rcases ((Rules.parse_yields (Session.host_faithful rules symbols) hp .start).of_ok
              (Session.consistent_array rules symbols) hrun).1 with
            ⟨⟨f, heq⟩, _⟩ | ⟨s₁, s₂, out', hs₁, happly, hout⟩
          · cases heq
          · obtain ⟨next, rfl, hend⟩ := (hout v).mp ⟨c, rfl⟩
            exact ⟨next, Rules.comesTo_of_run _ hs₁ happly, hend⟩

/-- What is parsed is in the language of the parser, as a whole. -/
theorem Rules.ReadsOnly.of_parseSymbols {L : List σ → α → Prop}
    (hp : rules.Throughout Parser.IsPremade p) (hL : rules.ReadsOnly symbols 0 p L)
    (h : parseSymbols rules p symbols.toArray = .ok (.ok v)) : L symbols v := by
  obtain ⟨next, hout, hend⟩ := comesTo_of_parseSymbols hp h
  obtain ⟨t, ht, hspells⟩ := hL ⟨0, true⟩ v next (Nat.zero_le _) hout
  rwa [hspells.eq rfl hend] at ht

end Parse

end PredictiveParsing
