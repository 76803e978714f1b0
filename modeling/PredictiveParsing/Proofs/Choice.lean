import PredictiveParsing.Proofs.Merge
import PredictiveParsing.Proofs.Outcomes

/-!
# Choices

Before the end of the input an alternative asks nothing of its parsers: it applies the first, and
where that fails, the second (`Rules.ComesTo.of_or`). A choice of many is an alternative of an
alternative, so it gives the result of the first parser in its list that succeeds, and if all fail,
their failures merged from the front (`Rules.choice_gathers`).

What is left of a list of failures when they are merged is said by `Failure.Gathers`: the furthest
of them, and of those everything they expect. A message is left only if nothing else is.
-/

namespace PredictiveParsing

variable {σ : Type} {ρ : Nat → Type} {α : Type}

/-! ### What reasons expect -/

namespace Reason

def IsMessage (r : Reason σ) : Prop := ∃ m, r = .message m

/-- The reason names no symbol: it is a message, or names the empty set. -/
def IsBare (r : Reason σ) : Prop := r.IsMessage ∨ r.set? = some .empty

def Expects [BEq σ] (r : Reason σ) (x : σ) : Prop := ∃ s, r.set? = some s ∧ s.contains x = true

variable {r r' : Reason σ} {e : Bool} {s : SymbolSet σ} {m : String} {x : σ}

theorem set?_naming : (naming e s).set? = some s := by
  cases e with
  | true => rfl
  | false => rfl

theorem not_isMessage_naming : ¬(naming e s).IsMessage := by
  rintro ⟨m, h⟩
  cases e with
  | true => cases h
  | false => cases h

theorem isMessage_message : (message m : Reason σ).IsMessage := ⟨m, rfl⟩

theorem isBare_naming : (naming e s).IsBare ↔ s.isEmpty = true := by
  rw [IsBare, set?_naming, or_iff_right not_isMessage_naming, Option.some.injEq]
  exact ⟨fun h => h ▸ rfl, SymbolSet.eq_empty_of_isEmpty⟩

theorem isBare_message : (message m : Reason σ).IsBare := .inl isMessage_message

theorem expects_naming [BEq σ] : (naming e s).Expects x ↔ s.contains x = true := by
  rw [Expects, set?_naming]
  simp

theorem not_expects_message [BEq σ] : ¬(message m : Reason σ).Expects x := nofun

theorem IsBare.not_expects [BEq σ] (h : r.IsBare) : ¬r.Expects x := by
  rintro ⟨s, hs, hx⟩
  rcases h with ⟨m, rfl⟩ | hempty
  · cases hs
  · rw [hempty] at hs
    cases hs
    cases hx

theorem expects_merge [BEq σ] : (r.merge r').Expects x ↔ r.Expects x ∨ r'.Expects x := by
  rcases naming_or_message r with ⟨e, s, rfl⟩ | ⟨m, rfl⟩
  · rcases naming_or_message r' with ⟨e', t, rfl⟩ | ⟨m', rfl⟩
    · rw [naming_merge, expects_naming, expects_naming, expects_naming, SymbolSet.contains_union,
        Bool.or_eq_true]
    · rw [merge_message, or_iff_left not_expects_message]
      split
      · rename_i hempty
        exact iff_of_false not_expects_message (isBare_naming.mpr hempty).not_expects
      · rfl
  · rcases naming_or_message r' with ⟨e', t, rfl⟩ | ⟨m', rfl⟩
    · rw [message_merge, or_iff_right not_expects_message]
      split
      · rename_i hempty
        exact iff_of_false not_expects_message (isBare_naming.mpr hempty).not_expects
      · rfl
    · exact iff_of_false not_expects_message (not_or.mpr ⟨not_expects_message, not_expects_message⟩)

theorem isBare_merge : (r.merge r').IsBare ↔ r.IsBare ∧ r'.IsBare := by
  rcases naming_or_message r with ⟨e, s, rfl⟩ | ⟨m, rfl⟩
  · rcases naming_or_message r' with ⟨e', t, rfl⟩ | ⟨m', rfl⟩
    · rw [naming_merge, isBare_naming, isBare_naming, isBare_naming, SymbolSet.isEmpty_union,
        Bool.and_eq_true]
    · rw [merge_message, and_iff_left isBare_message]
      split
      · rename_i hempty
        exact iff_of_true isBare_message (isBare_naming.mpr hempty)
      · rfl
  · rcases naming_or_message r' with ⟨e', t, rfl⟩ | ⟨m', rfl⟩
    · rw [message_merge, and_iff_right isBare_message]
      split
      · rename_i hempty
        exact iff_of_true isBare_message (isBare_naming.mpr hempty)
      · rfl
    · exact iff_of_true isBare_message ⟨isBare_message, isBare_message⟩

theorem isMessage_merge :
    (r.merge r').IsMessage ↔ (r.IsBare ∧ r'.IsBare) ∧ (r.IsMessage ∨ r'.IsMessage) := by
  rcases naming_or_message r with ⟨e, s, rfl⟩ | ⟨m, rfl⟩
  · rcases naming_or_message r' with ⟨e', t, rfl⟩ | ⟨m', rfl⟩
    · rw [naming_merge]
      exact iff_of_false not_isMessage_naming fun h =>
        h.2.elim not_isMessage_naming not_isMessage_naming
    · rw [merge_message, and_iff_left isBare_message, and_iff_left (.inr isMessage_message),
        isBare_naming]
      split
      · rename_i hempty
        exact iff_of_true isMessage_message hempty
      · rename_i hempty
        exact iff_of_false not_isMessage_naming hempty
  · rcases naming_or_message r' with ⟨e', t, rfl⟩ | ⟨m', rfl⟩
    · rw [message_merge, and_iff_right isBare_message, and_iff_left (.inl isMessage_message),
        isBare_naming]
      split
      · rename_i hempty
        exact iff_of_true isMessage_message hempty
      · rename_i hempty
        exact iff_of_false not_isMessage_naming hempty
    · exact iff_of_true isMessage_message
        ⟨⟨isBare_message, isBare_message⟩, .inl isMessage_message⟩

end Reason

/-! ### Failures put together -/

/-- The failure is what is left of all: it is where the furthest of them are, names a symbol exactly
if one of those does, names none at all exactly if none of those does, and is a message then if one
of those is. -/
structure Failure.Gathers [BEq σ] (f : Failure σ) (fs : List (Failure σ)) : Prop where
  attained : ∃ g ∈ fs, g.position = f.position
  furthest : ∀ g ∈ fs, g.position ≤ f.position
  expects : ∀ x, f.reason.Expects x ↔ ∃ g ∈ fs, g.position = f.position ∧ g.reason.Expects x
  bare : f.reason.IsBare ↔ ∀ g ∈ fs, g.position = f.position → g.reason.IsBare
  message : f.reason.IsMessage ↔
    f.reason.IsBare ∧ ∃ g ∈ fs, g.position = f.position ∧ g.reason.IsMessage

namespace Failure.Gathers

variable [BEq σ] {f : Failure σ} {fs : List (Failure σ)}

protected theorem singleton (f : Failure σ) : f.Gathers [f] where
  attained := ⟨f, List.mem_singleton_self f, rfl⟩
  furthest := by simp
  expects := by simp
  bare := by simp
  message := by
    simp only [List.mem_singleton, exists_eq_left, true_and]
    exact ⟨fun h => ⟨.inl h, h⟩, And.right⟩

/-- One failure more. -/
theorem merge (h : f.Gathers fs) (g : Failure σ) : (f.merge g).Gathers (fs ++ [g]) := by
  rcases Nat.lt_trichotomy g.position f.position with hlt | heq | hgt
  · have hne : g.position ≠ f.position := Nat.ne_of_lt hlt
    rw [Failure.merge_of_lt hlt]
    constructor
    · obtain ⟨k, hk, hposition⟩ := h.attained
      exact ⟨k, List.mem_append_left _ hk, hposition⟩
    · simpa [or_imp, forall_and, Nat.le_of_lt hlt] using h.furthest
    · intro x
      simp [h.expects x, or_and_right, exists_or, hne]
    · simp [h.bare, or_imp, forall_and, hne]
    · rw [h.message]
      simp [or_and_right, exists_or, hne]
  · rw [Failure.merge_of_eq heq.symm]
    constructor
    · exact ⟨g, List.mem_append_right _ (List.mem_singleton_self g), heq⟩
    · simpa [or_imp, forall_and, Nat.le_of_eq heq] using h.furthest
    · intro x
      simp [Reason.expects_merge, h.expects x, or_and_right, exists_or, heq]
    · simp [Reason.isBare_merge, h.bare, or_imp, forall_and, heq]
    · rw [Reason.isMessage_merge, Reason.isBare_merge]
      refine and_congr_right ?_
      rintro ⟨hbare, _⟩
      rw [h.message, and_iff_right hbare]
      simp [or_and_right, exists_or, heq]
  · -- None of the others is as far on.
    have hne : ∀ k ∈ fs, k.position ≠ g.position :=
      fun k hk => Nat.ne_of_lt (Nat.lt_of_le_of_lt (h.furthest k hk) hgt)
    have hnone : ∀ P : Failure σ → Prop, ¬∃ k ∈ fs, k.position = g.position ∧ P k :=
      fun P ⟨k, hk, hposition, _⟩ => hne k hk hposition
    rw [Failure.merge_of_gt hgt]
    constructor
    · exact ⟨g, List.mem_append_right _ (List.mem_singleton_self g), rfl⟩
    · intro k hk
      rcases List.mem_append.mp hk with hk | hk
      · exact Nat.le_of_lt (Nat.lt_of_le_of_lt (h.furthest k hk) hgt)
      · exact Nat.le_of_eq (congrArg Failure.position (List.mem_singleton.mp hk))
    · intro x
      simp [or_and_right, exists_or, hnone]
    · simpa [or_imp, forall_and] using fun _ k hk hposition => absurd hposition (hne k hk)
    · simp only [List.mem_append, List.mem_singleton, or_and_right, exists_or, hnone, false_or,
        exists_eq_left, true_and]
      exact ⟨fun hmessage => ⟨.inl hmessage, hmessage⟩, And.right⟩

end Failure.Gathers

/-! ### Alternatives before the end of the input -/

namespace Rules

variable [BEq σ] {rules : Rules σ ρ} {symbols : List σ} {p q : Parser σ ρ α} {c next : Cursor}
  {out : Outcome σ α} {a : α} {f g : Failure σ}

theorem ComesTo.or_success (hc : c.position < symbols.length) (q : Parser σ ρ α)
    (h : rules.ComesTo symbols p c (.success a next)) :
    rules.ComesTo symbols (p.or q) c (.success a next) := by
  filter_upwards [h, Filter.eventually_gt_atTop 0] with budget h hpos S _
  obtain ⟨rounds, rfl⟩ := Nat.exists_eq_add_one.mpr hpos
  refine (Session.settled_atEnd rules symbols _ c).bind ?_
  rw [List.getElem?_eq_getElem hc]
  exact (h S).bind (Session.settled_pure _)

/-- Where the first parser fails, the second decides, and if it fails as well both are merged. -/
theorem ComesTo.or_failure (hc : c.position < symbols.length)
    (h : rules.ComesTo symbols p c (.failure f)) (hq : rules.ComesTo symbols q c out) :
    rules.ComesTo symbols (p.or q) c (match out with
      | .success a next => .success a next
      | .failure g => .failure (f.merge g)) := by
  filter_upwards [h, hq, Filter.eventually_gt_atTop 0] with budget h hq hpos S _
  obtain ⟨rounds, rfl⟩ := Nat.exists_eq_add_one.mpr hpos
  refine (Session.settled_atEnd rules symbols _ c).bind ?_
  rw [List.getElem?_eq_getElem hc]
  refine (h S).bind ((hq S).bind ?_)
  cases out with
  | success a next =>
      exact (Session.settled_recover c fun _ => rfl).bind (Session.settled_pure _)
  | failure g => exact Session.settled_pure _

/-- An alternative comes to nothing else. -/
theorem ComesTo.of_or (hc : c.position < symbols.length)
    (h : rules.ComesTo symbols (p.or q) c out) :
    (∃ a next, rules.ComesTo symbols p c (.success a next)) ∨
      ∃ f out', rules.ComesTo symbols p c (.failure f) ∧ rules.ComesTo symbols q c out' := by
  refine h.of_yields (q := fun _ => (∃ a next, rules.ComesTo symbols p c (.success a next)) ∨
    ∃ f out', rules.ComesTo symbols p c (.failure f) ∧ rules.ComesTo symbols q c out') ?_
  intro budget
  cases budget with
  | zero => exact Yields.throw trivial
  | succ rounds =>
      have hhost := Session.host_faithful (S := Array σ) rules symbols
      refine (hhost.atEnd c).bind ?_
      intro ended hended
      cases ended with
      | true => exact absurd (hended.mp rfl) (Nat.not_le_of_lt hc)
      | false =>
          refine (apply_yields_comesTo rules symbols (rounds + 1) p c).bind ?_
          intro out hout
          cases out with
          | success a next => exact Yields.pure (.inl ⟨a, next, hout⟩)
          | failure f =>
              refine (apply_yields_comesTo rules symbols (rounds + 1) q c).bind ?_
              intro out' hout'
              cases out' with
              | success a next =>
                  exact (hhost.recover c f).bind fun _ _ =>
                    Yields.pure (.inr ⟨f, _, hout, hout'⟩)
              | failure g => exact Yields.pure (.inr ⟨f, _, hout, hout'⟩)

/-! ### Choices -/

inductive FirstSuccess (rules : Rules σ ρ) (symbols : List σ) (c : Cursor) (a : α) (next : Cursor) :
    List (Parser σ ρ α) → Prop where
  | here {p : Parser σ ρ α} {ps : List (Parser σ ρ α)} :
      rules.ComesTo symbols p c (.success a next) → FirstSuccess rules symbols c a next (p :: ps)
  | later {p : Parser σ ρ α} {ps : List (Parser σ ρ α)} {f : Failure σ} :
      rules.ComesTo symbols p c (.failure f) → FirstSuccess rules symbols c a next ps →
        FirstSuccess rules symbols c a next (p :: ps)

abbrev AllFail (rules : Rules σ ρ) (symbols : List σ) (c : Cursor) :
    List (Parser σ ρ α) → List (Failure σ) → Prop :=
  List.Forall₂ fun p f => rules.ComesTo symbols p c (.failure f)

variable {ps : List (Parser σ ρ α)} {fs gs : List (Failure σ)}

section Fold

variable (hc : c.position < symbols.length)

include hc

/-- A success is not given up for later parsers. -/
theorem ComesTo.foldl_or (h : rules.ComesTo symbols p c (.success a next))
    (ps : List (Parser σ ρ α)) : rules.ComesTo symbols (ps.foldl .or p) c (.success a next) := by
  induction ps generalizing p with
  | nil => exact h
  | cons q ps ih => exact ih (h.or_success hc q)

theorem FirstSuccess.foldl_or (h : rules.FirstSuccess symbols c a next ps)
    (hp : rules.ComesTo symbols p c (.failure f)) :
    rules.ComesTo symbols (ps.foldl .or p) c (.success a next) := by
  induction h generalizing p f with
  | @here q ps hq => exact (hp.or_failure hc hq).foldl_or hc ps
  | later hq _ ih => exact ih (hp.or_failure hc hq)

/-- The failures so far and those of the parsers are all merged. -/
theorem AllFail.foldl_or (h : rules.AllFail symbols c ps fs)
    (hp : rules.ComesTo symbols p c (.failure f)) (hgathers : f.Gathers gs) :
    ∃ f', rules.ComesTo symbols (ps.foldl .or p) c (.failure f') ∧ f'.Gathers (gs ++ fs) := by
  induction h generalizing p f gs with
  | nil =>
      rw [List.append_nil]
      exact ⟨f, hp, hgathers⟩
  | @cons q g ps fs hq _ ih =>
      rw [List.append_cons]
      exact ih (hp.or_failure hc hq) (hgathers.merge g)

/-- A choice that comes to an outcome finds a success, or has failures of all its parsers. -/
theorem ComesTo.of_foldl_or (h : rules.ComesTo symbols (ps.foldl .or p) c out) :
    (∃ a next, rules.FirstSuccess symbols c a next (p :: ps)) ∨
      ∃ fs, rules.AllFail symbols c (p :: ps) fs := by
  induction ps generalizing p with
  | nil =>
      cases out with
      | success a next => exact .inl ⟨a, next, .here h⟩
      | failure f => exact .inr ⟨[f], .cons h .nil⟩
  | cons q ps ih =>
      have hboth : (∃ out, rules.ComesTo symbols (p.or q) c out) ∧
          ((∃ f, rules.ComesTo symbols (p.or q) c (.failure f)) →
            (∃ a next, rules.FirstSuccess symbols c a next ps) ∨
              ∃ fs, rules.AllFail symbols c ps fs) := by
        rcases ih h with ⟨a, next, hsuccess⟩ | ⟨fs, hfail⟩
        · cases hsuccess with
          | here hpq => exact ⟨⟨_, hpq⟩, fun ⟨f, hf⟩ => nomatch hf.unique hpq⟩
          | later hpq hps => exact ⟨⟨_, hpq⟩, fun _ => .inl ⟨a, next, hps⟩⟩
        · cases hfail with
          | cons hpq hps => exact ⟨⟨_, hpq⟩, fun _ => .inr ⟨_, hps⟩⟩
      obtain ⟨⟨out', hpq⟩, hrest⟩ := hboth
      rcases hpq.of_or hc with ⟨a, next, hp⟩ | ⟨f, out'', hp, hq⟩
      · exact .inl ⟨a, next, .here hp⟩
      · cases out'' with
        | success a next => exact .inl ⟨a, next, .later hp (.here hq)⟩
        | failure g =>
            rcases hrest ⟨_, hp.or_failure hc hq⟩ with ⟨a, next, hps⟩ | ⟨fs, hps⟩
            · exact .inl ⟨a, next, .later hp (.later hq hps)⟩
            · exact .inr ⟨f :: g :: fs, .cons hp (.cons hq hps)⟩

theorem FirstSuccess.comesTo_choice (h : rules.FirstSuccess symbols c a next ps) :
    rules.ComesTo symbols (Parser.choice ps) c (.success a next) := by
  cases h with
  | @here p ps hp => exact hp.foldl_or hc ps
  | later hp hps => exact hps.foldl_or hc hp

theorem AllFail.comesTo_choice (hne : ps ≠ []) (h : rules.AllFail symbols c ps fs) :
    ∃ f, rules.ComesTo symbols (Parser.choice ps) c (.failure f) ∧ f.Gathers fs := by
  cases h with
  | nil => exact absurd rfl hne
  | cons hp hps => exact AllFail.foldl_or hc hps hp (.singleton _)

end Fold

/-- Before the end of the input, a choice succeeds exactly as the first of its parsers that does. If
all fail, it fails, and its failure is what is left of theirs: the furthest, with everything that
those expect, and a message only if none of those names a symbol. -/
theorem choice_gathers (hne : ps ≠ []) (hc : c.position < symbols.length) :
    (∀ a next, rules.ComesTo symbols (Parser.choice ps) c (.success a next) ↔
      rules.FirstSuccess symbols c a next ps) ∧
    (∀ fs, rules.AllFail symbols c ps fs →
      ∃ f, rules.ComesTo symbols (Parser.choice ps) c (.failure f) ∧ f.Gathers fs) ∧
    ∀ f, rules.ComesTo symbols (Parser.choice ps) c (.failure f) →
      ∃ fs, rules.AllFail symbols c ps fs ∧ f.Gathers fs := by
  have hdecided : ∀ out, rules.ComesTo symbols (Parser.choice ps) c out →
      (∃ a next, rules.FirstSuccess symbols c a next ps) ∨ ∃ fs, rules.AllFail symbols c ps fs := by
    intro out hout
    cases ps with
    | nil => exact absurd rfl hne
    | cons p ps => exact ComesTo.of_foldl_or hc hout
  refine ⟨fun a next => ⟨?_, fun h => h.comesTo_choice hc⟩, fun fs h => h.comesTo_choice hc hne, ?_⟩
  · intro hout
    rcases hdecided _ hout with ⟨a', next', hfirst⟩ | ⟨fs, hfail⟩
    · cases hout.unique (hfirst.comesTo_choice hc)
      exact hfirst
    · obtain ⟨f, hf, _⟩ := hfail.comesTo_choice hc hne
      cases hout.unique hf
  · intro f hout
    rcases hdecided _ hout with ⟨a, next, hfirst⟩ | ⟨fs, hfail⟩
    · cases hout.unique (hfirst.comesTo_choice hc)
    · obtain ⟨g, hg, hgathers⟩ := hfail.comesTo_choice hc hne
      cases hout.unique hg
      exact ⟨fs, hfail, hgathers⟩

/-- In `ac` there is neither a `b` at the beginning nor anything that may follow the `a`. A `b` was
expected at the beginning, and a `b` or a `d` behind the `a`, where the message says less. -/
theorem choice_gathers_letters :
    let after : Parser Char (fun _ => Unit) Char → Parser Char (fun _ => Unit) Char :=
      fun p => (Parser.value 'a').andR p
    let ps := [Parser.value 'b', after (Parser.value 'b'), after (.fail "not this"),
      after (Parser.value 'd')]
    ∃ f, Rules.empty.ComesTo "ac".toList (Parser.choice ps) .start (.failure f) ∧
      f.position = 1 ∧ (∀ x, f.reason.Expects x ↔ x = 'b' ∨ x = 'd') ∧ ¬f.reason.IsMessage := by
  intro after ps
  have hs := Session.consistent_array (Rules.empty : Rules Char fun _ => Unit) "ac".toList
  have hfail : Rules.empty.AllFail "ac".toList .start ps
      [⟨0, .expected (.value 'b')⟩, ⟨1, .expected (.value 'b')⟩, ⟨1, .message "not this"⟩,
        ⟨1, .expected (.value 'd')⟩] :=
    .cons (comesTo_of_run 1 hs rfl) (.cons (comesTo_of_run 1 hs rfl)
      (.cons (comesTo_of_run 1 hs rfl) (.cons (comesTo_of_run 1 hs rfl) .nil)))
  obtain ⟨f, hout, hgathers⟩ :=
    (choice_gathers (List.cons_ne_nil _ _) (by decide)).2.1 _ hfail
  have hposition : f.position = 1 := by
    have hattained := hgathers.attained
    have hfurthest := hgathers.furthest
    simp only [List.mem_cons, List.not_mem_nil, or_false, exists_eq_or_imp, exists_eq_left,
      forall_eq_or_imp, forall_eq] at hattained hfurthest
    omega
  refine ⟨f, hout, hposition, ?_, ?_⟩
  · intro x
    rw [hgathers.expects x]
    simp [hposition, Reason.Expects, Reason.set?, SymbolSet.contains, @eq_comm Char x]
  · rw [hgathers.message, hgathers.bare]
    simp [hposition, Reason.IsBare, Reason.set?, Reason.IsMessage]

end Rules

end PredictiveParsing
