import PredictiveParsing.Proofs.Combinators

/-!
# Merging failures

Failures are merged by position first, and at one position by their reasons. Sets of symbols are
put together there, whatever they are expected for, and a message gives way to a set unless that is
empty (`Reason.naming_merge`, `Reason.message_merge`, `Reason.merge_message`).

A failure that expects nothing is neutral among failures that are not before it
(`Failure.merge_nothing`). Merging is associative but for one clash (`Failure.merge_assoc`): a
message makes an end of input without symbols disappear, and a set that comes later no longer learns
that the input ended.
-/

namespace PredictiveParsing

variable {σ : Type}

/-! ### Sets -/

namespace SymbolSet

variable {s t u : SymbolSet σ}

theorem eq_empty_of_isEmpty (h : s.isEmpty = true) : s = .empty := by
  cases s with
  | empty => rfl
  | all | value | predicate | either => cases h

theorem empty_union (s : SymbolSet σ) : union .empty s = s := rfl

theorem union_empty (s : SymbolSet σ) : s.union .empty = s := by
  cases s with
  | empty | all | value | predicate | either => rfl

/-- Of sets that are not empty, the full one absorbs the other. -/
theorem union_eq (hs : s.isEmpty = false) (ht : t.isEmpty = false) :
    s.union t = if (s.isAll || t.isAll) = true then .all else .either s t := by
  cases s with
  | empty => cases hs
  | all | value | predicate | either =>
      cases t with
      | empty => cases ht
      | all | value | predicate | either => rfl

theorem isEmpty_union (s t : SymbolSet σ) : (s.union t).isEmpty = (s.isEmpty && t.isEmpty) := by
  cases s with
  | empty => rfl
  | all | value | predicate | either =>
      cases t with
      | empty | all | value | predicate | either => rfl

theorem isAll_union (hs : s.isEmpty = false) (ht : t.isEmpty = false) :
    (s.union t).isAll = (s.isAll || t.isAll) := by
  rw [union_eq hs ht]
  cases s.isAll || t.isAll with
  | true => rfl
  | false => rfl

theorem leavesOnto_eq (s : SymbolSet σ) (rest : List (SymbolSet σ)) :
    s.leavesOnto rest = s.leaves ++ rest := by
  induction s generalizing rest with
  | empty | all | value | predicate => rfl
  | either l r ihl ihr =>
      unfold leaves
      rw [leavesOnto, leavesOnto, ihl, ihr, ihl, ihr [], List.append_nil, List.append_assoc]

theorem leaves_either (s t : SymbolSet σ) : (either s t).leaves = s.leaves ++ t.leaves := by
  rw [leaves, leavesOnto, leavesOnto_eq]
  rfl

/-- Unions have the same leaves however they are grouped, though not the same tree. -/
theorem leaves_union_assoc (s t u : SymbolSet σ) :
    ((s.union t).union u).leaves = (s.union (t.union u)).leaves := by
  cases hs : s.isEmpty with
  | true => rw [eq_empty_of_isEmpty hs, empty_union, empty_union]
  | false =>
      cases ht : t.isEmpty with
      | true => rw [eq_empty_of_isEmpty ht, union_empty, empty_union]
      | false =>
          cases hu : u.isEmpty with
          | true => rw [eq_empty_of_isEmpty hu, union_empty, union_empty]
          | false =>
              have hst : (s.union t).isEmpty = false := by rw [isEmpty_union, hs, Bool.false_and]
              have htu : (t.union u).isEmpty = false := by rw [isEmpty_union, ht, Bool.false_and]
              rw [union_eq hst hu, union_eq hs htu, isAll_union hs ht, isAll_union ht hu,
                Bool.or_assoc]
              split
              · rfl
              · rename_i hall
                rw [Bool.or_eq_true, Bool.or_eq_true, not_or, not_or] at hall
                rw [union_eq hs ht, union_eq ht hu, if_neg, if_neg, leaves_either, leaves_either,
                  leaves_either, leaves_either, List.append_assoc]
                · simp [hall]
                · simp [hall]

end SymbolSet

/-! ### Reasons -/

namespace Reason

/-- A reason that names a set of symbols, where the input ends or not. -/
def naming : (ended : Bool) → SymbolSet σ → Reason σ
  | true => .endOfInput
  | false => .expected

/-- A reason names a set or is a message. -/
theorem naming_or_message (a : Reason σ) :
    (∃ ended s, a = naming ended s) ∨ ∃ m, a = .message m := by
  cases a with
  | expected s => exact .inl ⟨false, s, rfl⟩
  | endOfInput s => exact .inl ⟨true, s, rfl⟩
  | message m => exact .inr ⟨m, rfl⟩

variable {e e' : Bool} {s t : SymbolSet σ} {m : String}

theorem naming_merge : (naming e s).merge (naming e' t) = naming (e || e') (s.union t) := by
  cases e with
  | true =>
      cases e' with
      | true => rfl
      | false => rfl
  | false =>
      cases e' with
      | true => rfl
      | false => rfl

theorem message_merge :
    (message m).merge (naming e s) = if s.isEmpty = true then .message m else naming e s := by
  cases e with
  | true => rfl
  | false => rfl

theorem merge_message :
    (naming e s).merge (.message m) = if s.isEmpty = true then .message m else naming e s := by
  cases e with
  | true => rfl
  | false => rfl

/-- The same kind of reason, with the same message or with sets of the same leaves. -/
inductive Same : Reason σ → Reason σ → Prop where
  | naming {e : Bool} {s t : SymbolSet σ} (h : s.leaves = t.leaves) :
      Same (.naming e s) (.naming e t)
  | message (m : String) : Same (.message m) (.message m)

theorem Same.refl (a : Reason σ) : a.Same a := by
  rcases a.naming_or_message with ⟨e, s, rfl⟩ | ⟨m, rfl⟩
  · exact .naming rfl
  · exact .message m

/-- One of the reasons is a message and the other an end of input where no symbol was expected. -/
inductive Voids : Reason σ → Reason σ → Prop where
  | message (m : String) : Voids (.message m) (.endOfInput .empty)
  | endOfInput (m : String) : Voids (.endOfInput .empty) (.message m)

/-- A message stands next to an end of input without symbols, and symbols that are expected where
the input is not said to end stand on one side of them. -/
inductive Clash : Reason σ → Reason σ → Reason σ → Prop where
  | left {a b : Reason σ} {s : SymbolSet σ} (h : Voids a b) (hs : s.isEmpty = false) :
      Clash a b (.expected s)
  | right {a b : Reason σ} {s : SymbolSet σ} (h : Voids a b) (hs : s.isEmpty = false) :
      Clash (.expected s) a b

/-- Two ways to group a clash: the symbols are the same, and one reason says that the input ended
where the other one does not. -/
inductive DifferInEnd : Reason σ → Reason σ → Prop where
  | endOfInput (s : SymbolSet σ) : DifferInEnd (.expected s) (.endOfInput s)
  | expected (s : SymbolSet σ) : DifferInEnd (.endOfInput s) (.expected s)

/-- The reasons are the same, or they clash and differ in whether the input ended. -/
def Regrouped (clash : Prop) (a b : Reason σ) : Prop := a.Same b ∨ clash ∧ a.DifferInEnd b

variable {clash : Prop}

theorem Regrouped.refl (a : Reason σ) : Regrouped clash a a := .inl (.refl a)

theorem regrouped_or_right (h : e = false → e' = true → clash) (s : SymbolSet σ) :
    Regrouped clash (naming (e || e') s) (naming e s) := by
  cases e with
  | true => exact .refl _
  | false =>
      cases e' with
      | true => exact .inr ⟨h rfl rfl, .expected s⟩
      | false => exact .refl _

theorem regrouped_or_left (h : e = true → e' = false → clash) (s : SymbolSet σ) :
    Regrouped clash (naming e' s) (naming (e || e') s) := by
  cases e' with
  | true =>
      rw [Bool.or_true]
      exact .refl _
  | false =>
      cases e with
      | true => exact .inr ⟨h rfl rfl, .endOfInput s⟩
      | false => exact .refl _

theorem clash_left_message (ht : t.isEmpty = false) (he : e = true) (he' : e' = false) :
    Clash (.message m) (naming e .empty) (naming e' t) := by
  subst he he'
  exact .left (.message m) ht

theorem clash_left_endOfInput (ht : t.isEmpty = false) (he : e = true) (he' : e' = false) :
    Clash (naming e .empty) (.message m) (naming e' t) := by
  subst he he'
  exact .left (.endOfInput m) ht

theorem clash_right_endOfInput (hs : s.isEmpty = false) (he : e = false) (he' : e' = true) :
    Clash (naming e s) (naming e' .empty) (.message m) := by
  subst he he'
  exact .right (.endOfInput m) hs

theorem clash_right_message (hs : s.isEmpty = false) (he : e = false) (he' : e' = true) :
    Clash (naming e s) (.message m) (naming e' .empty) := by
  subst he he'
  exact .right (.message m) hs

theorem merge_assoc_naming (e₁ e₂ e₃ : Bool) (s t u : SymbolSet σ) :
    (((naming e₁ s).merge (naming e₂ t)).merge (naming e₃ u)).Same
      ((naming e₁ s).merge ((naming e₂ t).merge (naming e₃ u))) := by
  rw [naming_merge, naming_merge, naming_merge, naming_merge, Bool.or_assoc]
  exact .naming (SymbolSet.leaves_union_assoc s t u)

theorem merge_assoc_message_left (m : String) (e e' : Bool) (s t : SymbolSet σ) :
    Regrouped (Clash (.message m) (naming e s) (naming e' t))
      (((message m).merge (naming e s)).merge (naming e' t))
      ((message m).merge ((naming e s).merge (naming e' t))) := by
  rw [message_merge, naming_merge, message_merge, SymbolSet.isEmpty_union]
  cases hs : s.isEmpty with
  | false =>
      rw [Bool.false_and, if_neg Bool.false_ne_true, if_neg Bool.false_ne_true, naming_merge]
      exact .refl _
  | true =>
      obtain rfl := SymbolSet.eq_empty_of_isEmpty hs
      rw [if_pos rfl, message_merge, SymbolSet.empty_union, Bool.true_and]
      cases ht : t.isEmpty with
      | true => exact .refl _
      | false => exact regrouped_or_left (clash_left_message ht) t

theorem merge_assoc_message_right (m : String) (e e' : Bool) (s t : SymbolSet σ) :
    Regrouped (Clash (naming e s) (naming e' t) (.message m))
      (((naming e s).merge (naming e' t)).merge (.message m))
      ((naming e s).merge ((naming e' t).merge (.message m))) := by
  rw [naming_merge, merge_message, merge_message, SymbolSet.isEmpty_union]
  cases ht : t.isEmpty with
  | false =>
      rw [Bool.and_false, if_neg Bool.false_ne_true, if_neg Bool.false_ne_true, naming_merge]
      exact .refl _
  | true =>
      obtain rfl := SymbolSet.eq_empty_of_isEmpty ht
      rw [if_pos rfl, merge_message, SymbolSet.union_empty, Bool.and_true]
      cases hs : s.isEmpty with
      | true => exact .refl _
      | false => exact regrouped_or_right (clash_right_endOfInput hs) s

theorem merge_assoc_message_middle (m : String) (e e' : Bool) (s t : SymbolSet σ) :
    Regrouped (Clash (naming e s) (.message m) (naming e' t))
      (((naming e s).merge (.message m)).merge (naming e' t))
      ((naming e s).merge ((message m).merge (naming e' t))) := by
  rw [merge_message, message_merge]
  cases hs : s.isEmpty with
  | true =>
      obtain rfl := SymbolSet.eq_empty_of_isEmpty hs
      rw [if_pos rfl, message_merge]
      cases ht : t.isEmpty with
      | true =>
          rw [if_pos rfl, merge_message]
          exact .refl _
      | false =>
          rw [if_neg Bool.false_ne_true, naming_merge, SymbolSet.empty_union]
          exact regrouped_or_left (clash_left_endOfInput ht) t
  | false =>
      rw [if_neg Bool.false_ne_true, naming_merge]
      cases ht : t.isEmpty with
      | true =>
          obtain rfl := SymbolSet.eq_empty_of_isEmpty ht
          rw [if_pos rfl, merge_message, hs, if_neg Bool.false_ne_true, SymbolSet.union_empty]
          exact regrouped_or_right (clash_right_message hs) s
      | false =>
          rw [if_neg Bool.false_ne_true, naming_merge]
          exact .refl _

theorem message_merge_message (m n : String) :
    (message m : Reason σ).merge (.message n) = .message m := rfl

/-- A message loses nothing to another one behind it. -/
theorem merge_message_merge_message (a : Reason σ) (m n : String) :
    (a.merge (.message m)).merge (.message n) = a.merge (.message m) := by
  rcases a.naming_or_message with ⟨e, s, rfl⟩ | ⟨k, rfl⟩
  · rw [merge_message]
    cases hs : s.isEmpty with
    | true => rfl
    | false => rw [if_neg Bool.false_ne_true, merge_message, hs, if_neg Bool.false_ne_true]
  · rfl

/-- A message gives way to the same reasons whether or not another one did so before. -/
theorem message_merge_message_merge (a : Reason σ) (m n : String) :
    (message m).merge ((message n).merge a) = (message m).merge a := by
  rcases a.naming_or_message with ⟨e, s, rfl⟩ | ⟨k, rfl⟩
  · rw [message_merge, message_merge]
    cases hs : s.isEmpty with
    | true => rfl
    | false => rw [if_neg Bool.false_ne_true, message_merge, hs]
  · rfl

/-- Between two messages, what one does not give way to the other does not either. -/
theorem message_merge_merge_message (a : Reason σ) (m n : String) :
    ((message m).merge a).merge (.message n) = (message m).merge (a.merge (.message n)) := by
  rcases a.naming_or_message with ⟨e, s, rfl⟩ | ⟨k, rfl⟩
  · rw [message_merge, merge_message]
    cases hs : s.isEmpty with
    | true => rfl
    | false =>
        rw [if_neg Bool.false_ne_true, if_neg Bool.false_ne_true, merge_message, message_merge, hs]
        rfl
  · rfl

/-- Merging is associative up to the shape of the sets, unless the reasons clash. -/
theorem merge_assoc (a b c : Reason σ) :
    Regrouped (Clash a b c) ((a.merge b).merge c) (a.merge (b.merge c)) := by
  rcases a.naming_or_message with ⟨e₁, s, rfl⟩ | ⟨m, rfl⟩
  · rcases b.naming_or_message with ⟨e₂, t, rfl⟩ | ⟨n, rfl⟩
    · rcases c.naming_or_message with ⟨e₃, u, rfl⟩ | ⟨k, rfl⟩
      · exact .inl (merge_assoc_naming e₁ e₂ e₃ s t u)
      · exact merge_assoc_message_right k e₁ e₂ s t
    · rcases c.naming_or_message with ⟨e₃, u, rfl⟩ | ⟨k, rfl⟩
      · exact merge_assoc_message_middle n e₁ e₃ s u
      · rw [merge_message_merge_message, message_merge_message]
        exact .refl _
  · rcases b.naming_or_message with ⟨e₂, t, rfl⟩ | ⟨n, rfl⟩
    · rcases c.naming_or_message with ⟨e₃, u, rfl⟩ | ⟨k, rfl⟩
      · exact merge_assoc_message_left m e₂ e₃ t u
      · rw [message_merge_merge_message]
        exact .refl _
    · rw [message_merge_message, message_merge_message_merge]
      exact .refl _

/-- A reason that expects nothing is neutral. -/
theorem merge_expected_empty (a : Reason σ) : a.merge (.expected .empty) = a := by
  rcases a.naming_or_message with ⟨e, s, rfl⟩ | ⟨m, rfl⟩
  · have hmerge : (naming e s).merge (naming false .empty) = _ := naming_merge
    rw [Bool.or_false, SymbolSet.union_empty] at hmerge
    exact hmerge
  · rfl

theorem expected_empty_merge (a : Reason σ) : (Reason.expected .empty).merge a = a := by
  rcases a.naming_or_message with ⟨e, s, rfl⟩ | ⟨m, rfl⟩
  · have hmerge : (naming false .empty).merge (naming e s) = _ := naming_merge
    rw [Bool.false_or, SymbolSet.empty_union] at hmerge
    exact hmerge
  · rfl

end Reason

/-! ### Failures -/

namespace Failure

variable {f g h : Failure σ}

theorem merge_of_lt (hlt : g.position < f.position) : f.merge g = f := if_pos hlt

theorem merge_of_gt (hlt : f.position < g.position) : f.merge g = g := by
  rw [merge, if_neg (Nat.lt_asymm hlt), if_pos hlt]

theorem merge_of_eq (heq : f.position = g.position) :
    f.merge g = ⟨f.position, f.reason.merge g.reason⟩ := by
  rw [merge, if_neg (Nat.not_lt_of_le (Nat.le_of_eq heq)),
    if_neg (Nat.not_lt_of_le (Nat.le_of_eq heq.symm))]

def Clash (f g h : Failure σ) : Prop :=
  f.position = g.position ∧ g.position = h.position ∧ f.reason.Clash g.reason h.reason

def Regrouped (clash : Prop) (f g : Failure σ) : Prop :=
  f.position = g.position ∧ Reason.Regrouped clash f.reason g.reason

theorem Regrouped.refl {clash : Prop} (f : Failure σ) : Regrouped clash f f := ⟨rfl, .refl _⟩

/-- Merging failures is associative up to the shape of the sets, unless the failures clash. -/
theorem merge_assoc (f g h : Failure σ) :
    Regrouped (Clash f g h) ((f.merge g).merge h) (f.merge (g.merge h)) := by
  have hfg := position_merge f g
  have hgh := position_merge g h
  rcases Nat.lt_trichotomy f.position g.position with hlt | heq | hgt
  · rw [merge_of_gt hlt, merge_of_gt (f := f) (g := g.merge h) (by omega)]
    exact .refl _
  · rcases Nat.lt_trichotomy g.position h.position with hlt' | heq' | hgt'
    · rw [merge_of_gt hlt', merge_of_gt (f := f.merge g) (g := h) (by omega),
        merge_of_gt (heq ▸ hlt')]
      exact .refl _
    · have hleft : (f.merge g).position = h.position := by omega
      have hright : f.position = (g.merge h).position := by omega
      rw [merge_of_eq hleft, merge_of_eq hright, merge_of_eq heq, merge_of_eq heq']
      exact ⟨rfl, (Reason.merge_assoc _ _ _).imp_right fun hclash =>
        ⟨⟨heq, heq', hclash.1⟩, hclash.2⟩⟩
    · rw [merge_of_lt hgt', merge_of_lt (f := f.merge g) (g := h) (by omega)]
      exact .refl _
  · rw [merge_of_lt hgt]
    rcases Nat.lt_or_ge g.position h.position with hlt' | hge'
    · rw [merge_of_gt hlt']
      exact .refl _
    · rw [merge_of_lt (f := f) (g := h) (by omega),
        merge_of_lt (f := f) (g := g.merge h) (by omega)]
      exact .refl _

/-- A failure that expects nothing is neutral to those that are not before it. -/
theorem merge_nothing {i : Nat} (hle : i ≤ f.position) :
    f.merge ⟨i, .expected .empty⟩ = f := by
  rcases Nat.lt_or_eq_of_le hle with hlt | heq
  · exact merge_of_lt hlt
  · rw [merge_of_eq heq.symm, Reason.merge_expected_empty]

theorem nothing_merge {i : Nat} (hle : i ≤ f.position) :
    (⟨i, .expected .empty⟩ : Failure σ).merge f = f := by
  rcases Nat.lt_or_eq_of_le hle with hlt | heq
  · exact merge_of_gt hlt
  · rw [merge_of_eq heq, Reason.expected_empty_merge, heq]

end Failure

end PredictiveParsing
