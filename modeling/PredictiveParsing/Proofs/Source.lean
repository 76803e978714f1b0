import PredictiveParsing.Source.Stream

/-!
# What a source holds

A source may change each time it is looked at, so the symbols in it are those it would
answer with, whatever has been looked at before. `Source.Holds` says so of a list of
symbols. An array holds its elements (`Source.holds_array`), and a stream holds what its supply
gives until it first has nothing to give (`Stream.holds_ofSupply`).
-/

namespace PredictiveParsing

variable {S ι σ : Type}

namespace Source

variable [Source S σ]

def after (source : S) : List Nat → S
  | [] => source
  | i :: looks => after (symbolAt source i).2 looks

/-- Whatever has been looked at, the source answers with the symbols of the list. -/
def Holds (source : S) (symbols : List σ) : Prop :=
  ∀ looks i, (symbolAt (after source looks) i).1 = symbols[i]?

variable {source : S} {symbols : List σ}

theorem Holds.symbolAt (h : Holds source symbols) (i : Nat) :
    (Source.symbolAt source i).1 = symbols[i]? := h [] i

theorem Holds.next (h : Holds source symbols) (i : Nat) :
    Holds (Source.symbolAt source i).2 symbols := fun looks => h (i :: looks)

/-- Answers that keep a property of the source, and are the symbols of a list where it holds. -/
theorem holds_of_invariant (I : S → Prop)
    (hI : ∀ s, I s → ∀ i, (symbolAt s i).1 = symbols[i]? ∧ I (symbolAt s i).2)
    (h : I source) : Holds source symbols := by
  intro looks
  induction looks generalizing source with
  | nil => exact fun i => (hI source h i).1
  | cons j looks ih => exact ih (hI source h j).2

end Source

theorem Source.holds_array (symbols : Array σ) : Source.Holds symbols symbols.toList := by
  refine Source.holds_of_invariant (fun s => s = symbols) ?_ rfl
  intro s hs i
  rw [hs]
  exact ⟨by rw [Array.getElem?_toList]; rfl, rfl⟩

/-! ### Streams -/

/-- The supply gives the symbols of the list one after the other, and then none. -/
inductive Supply.Gives [Supply ι σ] : ι → List σ → Prop where
  | nil {supply : ι} : (Supply.next supply).1 = none → Gives supply []
  | cons {supply : ι} {a : σ} {rest : List σ} : (Supply.next supply).1 = some a →
      Gives (Supply.next supply).2 rest → Gives supply (a :: rest)

theorem Supply.gives_list (symbols : List σ) : Supply.Gives symbols symbols := by
  induction symbols with
  | nil => exact .nil rfl
  | cons a rest ih => exact .cons rfl ih

namespace Stream

variable [Supply ι σ]

/-- What one pull keeps, whether it brings a symbol or ends the stream, stays through any number of
pulls. -/
theorem pull_induction {I : Stream ι σ → Prop}
    (hsome : ∀ pulled supply a supply', Supply.next supply = (some a, supply') →
      I ⟨pulled, false, supply⟩ → I ⟨pulled.push a, false, supply'⟩)
    (hnone : ∀ pulled supply supply', Supply.next supply = (none, supply') →
      I ⟨pulled, false, supply⟩ → I ⟨pulled, true, supply'⟩)
    {s : Stream ι σ} (h : I s) (n : Nat) : I (s.pull n) := by
  induction n generalizing s with
  | zero => exact h
  | succ n ih =>
      rcases s with ⟨pulled, ended, supply⟩
      cases ended with
      | true => exact h
      | false =>
          unfold Stream.pull
          rcases hnext : Supply.next supply with ⟨symbol, supply'⟩
          cases symbol with
          | none => exact hnone pulled supply supply' hnext h
          | some a => exact ih (hsome pulled supply a supply' hnext h)

/-- Pulling goes on until the number is reached or the supply has ended. -/
theorem pull_reaches (s : Stream ι σ) (n : Nat) :
    (s.pull n).ended = true ∨ s.pulled.size + n ≤ (s.pull n).pulled.size := by
  induction n generalizing s with
  | zero => exact .inr (Nat.le_refl _)
  | succ n ih =>
      rcases s with ⟨pulled, ended, supply⟩
      cases ended with
      | true => exact .inl rfl
      | false =>
          unfold Stream.pull
          rcases hnext : Supply.next supply with ⟨symbol, supply'⟩
          cases symbol with
          | none => exact .inl rfl
          | some a =>
              rcases ih ⟨pulled.push a, false, supply'⟩ with hended | hsize
              · exact .inl hended
              · right
                rw [Array.size_push] at hsize
                dsimp only at hsize ⊢
                omega

/-- A stream that has no symbol for a position has ended. -/
theorem ended_of_symbolAt {s : Stream ι σ} {i : Nat} (h : (s.symbolAt i).1 = none) :
    (s.symbolAt i).2.ended = true := by
  rcases s.pull_reaches (i + 1 - s.pulled.size) with hended | hsize
  · exact hended
  · have hle : (s.pull (i + 1 - s.pulled.size)).pulled.size ≤ i := Array.getElem?_eq_none_iff.mp h
    omega

/-- What has been pulled are the first symbols of the list, and all of them when the stream has
ended. -/
structure Covers (symbols : List σ) (s : Stream ι σ) : Prop where
  isPrefix : s.pulled.toList <+: symbols
  all : s.ended = true → s.pulled.toList = symbols

omit [Supply ι σ] in
theorem Covers.getElem?_eq {symbols : List σ} {s : Stream ι σ} (h : s.Covers symbols) {i : Nat}
    (hi : s.ended = true ∨ i < s.pulled.size) : s.pulled[i]? = symbols[i]? := by
  rw [← Array.getElem?_toList]
  rcases hi with hended | hlt
  · rw [h.all hended]
  · obtain ⟨rest, hrest⟩ := h.isPrefix
    rw [← hrest, List.getElem?_append_left hlt]

/-- A stream that goes on to cover the list when it is pulled answers with it. -/
theorem Covers.symbolAt {symbols : List σ} {s : Stream ι σ} {i : Nat}
    (h : (s.pull (i + 1 - s.pulled.size)).Covers symbols) : (s.symbolAt i).1 = symbols[i]? := by
  refine h.getElem?_eq ?_
  rcases s.pull_reaches (i + 1 - s.pulled.size) with hended | hsize
  · exact .inl hended
  · exact .inr (by omega)

/-- What has been pulled and what the supply can still give make up the list. -/
structure Splits (symbols : List σ) (s : Stream ι σ) : Prop where
  rest : ∃ rest, symbols = s.pulled.toList ++ rest ∧
    if s.ended then rest = [] else Supply.Gives s.supply rest

theorem Splits.pull {symbols : List σ} {s : Stream ι σ} (h : s.Splits symbols) (n : Nat) :
    (s.pull n).Splits symbols := by
  refine pull_induction ?_ ?_ h n
  · rintro pulled supply a supply' hnext ⟨_, hsymbols, hgives⟩
    cases hgives with
    | nil hnone =>
        rw [hnext] at hnone
        cases hnone
    | @cons _ a' rest hsome hgives =>
        rw [hnext] at hsome hgives
        cases hsome
        refine ⟨rest, ?_, hgives⟩
        rw [hsymbols, Array.toList_push, List.append_assoc, List.singleton_append]
  · rintro pulled supply supply' hnext ⟨_, hsymbols, hgives⟩
    cases hgives with
    | nil _ => exact ⟨[], hsymbols, rfl⟩
    | cons hsome _ =>
        rw [hnext] at hsome
        cases hsome

theorem Splits.covers {symbols : List σ} {s : Stream ι σ} (h : s.Splits symbols) :
    s.Covers symbols := by
  obtain ⟨rest, hsymbols, hrest⟩ := h
  refine ⟨⟨rest, hsymbols.symm⟩, ?_⟩
  intro hended
  rw [if_pos hended] at hrest
  rw [hsymbols, hrest, List.append_nil]

theorem Splits.symbolAt {symbols : List σ} {s : Stream ι σ} (h : s.Splits symbols) (i : Nat) :
    (s.symbolAt i).1 = symbols[i]? ∧ (s.symbolAt i).2.Splits symbols :=
  ⟨Covers.symbolAt (h.pull _).covers, h.pull _⟩

/-- A stream from which nothing has been pulled holds what its supply gives. -/
theorem holds_ofSupply {supply : ι} {symbols : List σ} (h : Supply.Gives supply symbols) :
    Source.Holds (Stream.ofSupply supply : Stream ι σ) symbols := by
  refine Source.holds_of_invariant (Splits symbols) (fun s hs i => hs.symbolAt i) ?_
  exact ⟨symbols, rfl, h⟩

end Stream

end PredictiveParsing
