import Mathlib.Data.List.Forall2
import PredictiveParsing.Proofs.Merge

/-!
# Sets and their leaves

What a set of symbols is depends on its leaves alone. Reading the tree off a stack, union by union,
meets the leaves from left to right and comes to an end (`SymbolSet.loopEnds_leavesRound`), and so
does looking for a leaf that has a symbol (`SymbolSet.loopEnds_containsRound`). Here a loop is given
by what one round of it does, and `LoopEnds` says what it ends with.

Two sets are equal if their leaves are, one by one. That is an equivalence if equality of symbols is
one, and `union` respects it: which of its cases applies shows in the leaves, since a set with one
leaf is that leaf (`SymbolSet.eq_of_leaves_eq_singleton`).
-/

namespace PredictiveParsing

variable {σ : Type}

/-! ### Loops -/

/-- A loop that goes from the state, round by round, until one of them gives the result. -/
inductive LoopEnds {S R : Type} (round : S → S ⊕ R) : S → R → Prop where
  | now {s : S} {r : R} : round s = .inr r → LoopEnds round s r
  | later {s next : S} {r : R} : round s = .inl next → LoopEnds round next r → LoopEnds round s r

namespace SymbolSet

def isEither : SymbolSet σ → Bool
  | .either _ _ => true
  | _ => false

def nodes : SymbolSet σ → List (SymbolSet σ)
  | .either l r => l.nodes ++ .either l r :: r.nodes
  | leaf => [leaf]

/-- A round of listing the leaves below what is on a stack, behind those listed so far. -/
def leavesRound : List (SymbolSet σ) × List (SymbolSet σ) →
    List (SymbolSet σ) × List (SymbolSet σ) ⊕ List (SymbolSet σ)
  | ([], listed) => .inr listed
  | (.either l r :: stack, listed) => .inl (l :: r :: stack, listed)
  | (leaf :: stack, listed) => .inl (stack, listed ++ [leaf])

/-- A round of looking below what is on a stack for a leaf that has the symbol. -/
def containsRound [BEq σ] (x : σ) : List (SymbolSet σ) → List (SymbolSet σ) ⊕ Bool
  | [] => .inr false
  | .either l r :: stack => .inl (l :: r :: stack)
  | leaf :: stack => if leaf.contains x then .inr true else .inl stack

variable {s t u s' t' : SymbolSet σ} {stack listed rest : List (SymbolSet σ)} {x : σ}

/-- Of what is on top of the stack the leaves are listed, and then the rest follows. -/
theorem loopEnds_leavesRound_cons (h : LoopEnds leavesRound (stack, listed ++ s.leaves) rest) :
    LoopEnds leavesRound (s :: stack, listed) rest := by
  induction s generalizing stack listed with
  | empty | all | value | predicate => exact .later rfl h
  | either l r ihl ihr =>
      rw [leaves_either, ← List.append_assoc] at h
      exact .later rfl (ihl (ihr h))

theorem loopEnds_leavesRound (s : SymbolSet σ) : LoopEnds leavesRound ([s], []) s.leaves :=
  loopEnds_leavesRound_cons (.now rfl)

theorem leaves_eq_filter_nodes (s : SymbolSet σ) :
    s.leaves = s.nodes.filter fun node => !node.isEither := by
  induction s with
  | empty | all | value | predicate => rfl
  | either l r ihl ihr =>
      rw [leaves_either, nodes, List.filter_append, ← ihl, List.filter_cons_of_neg, ← ihr]
      exact Bool.false_ne_true

/-! ### Membership -/

section Membership

variable [BEq σ]

theorem contains_iff_exists_leaf (s : SymbolSet σ) (x : σ) :
    s.contains x = true ↔ ∃ leaf ∈ s.leaves, leaf.contains x = true := by
  induction s with
  | empty | all | value | predicate =>
      exact ⟨fun h => ⟨_, List.mem_singleton_self _, h⟩, fun ⟨_, hleaf, h⟩ =>
        List.mem_singleton.mp hleaf ▸ h⟩
  | either l r ihl ihr =>
      rw [contains, Bool.or_eq_true, ihl, ihr, leaves_either]
      simp only [List.mem_append, or_and_right, exists_or]

/-- What is on top of the stack is looked through first, and then the rest. -/
theorem loopEnds_containsRound_cons (s : SymbolSet σ) {found : Bool}
    (h : LoopEnds (containsRound x) stack found) :
    LoopEnds (containsRound x) (s :: stack) (s.contains x || found) := by
  induction s generalizing stack found with
  | either l r ihl ihr =>
      rw [contains, Bool.or_assoc]
      exact .later rfl (ihl (ihr h))
  | empty => exact .later rfl h
  | all => exact .now rfl
  | value v =>
      cases hv : (value v).contains x with
      | true => exact .now (if_pos hv)
      | false => exact .later (if_neg (by rw [hv]; exact Bool.false_ne_true)) h
  | predicate name test =>
      cases hx : (predicate name test).contains x with
      | true => exact .now (if_pos hx)
      | false => exact .later (if_neg (by rw [hx]; exact Bool.false_ne_true)) h

theorem loopEnds_containsRound (s : SymbolSet σ) (x : σ) :
    LoopEnds (containsRound x) [s] (s.contains x) := by
  rw [← Bool.or_false (s.contains x)]
  exact loopEnds_containsRound_cons s (.now rfl)

end Membership

/-! ### The normal form -/

theorem eq_all_of_isAll (h : s.isAll = true) : s = .all := by
  cases s with
  | all => rfl
  | empty | value | predicate | either => cases h

theorem union_all (s : SymbolSet σ) : s.union .all = .all := by
  cases s with
  | empty | all | value | predicate | either => rfl

theorem all_union (s : SymbolSet σ) : union .all s = .all := by
  cases s with
  | empty | all | value | predicate | either => rfl

/-- The set is put together from leaves by `union`. -/
inductive Built : SymbolSet σ → Prop where
  | empty : Built .empty
  | all : Built .all
  | value (v : σ) : Built (.value v)
  | predicate (name : String) (test : σ → Bool) : Built (.predicate name test)
  | union {s t : SymbolSet σ} : Built s → Built t → Built (s.union t)

def isProper (s : SymbolSet σ) : Bool := !s.isEmpty && !s.isAll

/-- All unions in the tree are of sets that are neither empty nor full. -/
def Normal (s : SymbolSet σ) : Prop :=
  ∀ l r, .either l r ∈ s.nodes → l.isProper = true ∧ r.isProper = true

theorem Normal.union (hs : s.Normal) (ht : t.Normal) : (s.union t).Normal := by
  cases hse : s.isEmpty with
  | true =>
      rw [eq_empty_of_isEmpty hse]
      exact ht
  | false =>
      cases hte : t.isEmpty with
      | true =>
          rw [eq_empty_of_isEmpty hte, union_empty]
          exact hs
      | false =>
          rw [union_eq hse hte]
          split
          · exact nofun
          · rename_i hall
            rw [Bool.or_eq_true, not_or, Bool.not_eq_true, Bool.not_eq_true] at hall
            intro l r hmem
            rw [nodes, List.mem_append, List.mem_cons] at hmem
            rcases hmem with hmem | heq | hmem
            · exact hs l r hmem
            · cases heq
              rw [isProper, isProper, hse, hte, hall.1, hall.2]
              exact ⟨rfl, rfl⟩
            · exact ht l r hmem

theorem Built.normal (h : s.Built) : s.Normal := by
  induction h with
  | empty | all | value | predicate => exact nofun
  | union _ _ ihs iht => exact ihs.union iht

/-- No leaf of a normal set that is neither empty nor full is one of these. -/
theorem Normal.isProper_of_mem_leaves (h : s.Normal) (hs : s.isProper = true) {leaf : SymbolSet σ}
    (hleaf : leaf ∈ s.leaves) : leaf.isProper = true := by
  induction s with
  | empty | all | value | predicate =>
      rw [List.mem_singleton.mp hleaf]
      exact hs
  | either l r ihl ihr =>
      obtain ⟨hl, hr⟩ := h l r (List.mem_append_right _ List.mem_cons_self)
      rw [leaves_either, List.mem_append] at hleaf
      rcases hleaf with hleaf | hleaf
      · exact ihl (fun l' r' hmem => h l' r' (List.mem_append_left _ hmem)) hl hleaf
      · refine ihr (fun l' r' hmem => h l' r' ?_) hr hleaf
        exact List.mem_append_right _ (List.mem_cons_of_mem _ hmem)

/-- A leaf that is empty or full is all there is of a normal set. -/
theorem Normal.eq_of_mem_leaves (h : s.Normal) {leaf : SymbolSet σ} (hleaf : leaf ∈ s.leaves)
    (himproper : leaf.isProper = false) : s = leaf := by
  cases s with
  | empty | all | value | predicate => exact (List.mem_singleton.mp hleaf).symm
  | either l r =>
      rw [h.isProper_of_mem_leaves rfl hleaf] at himproper
      cases himproper

/-! ### Equality -/

theorem isEither_of_mem_leaves {leaf : SymbolSet σ} (h : leaf ∈ s.leaves) :
    leaf.isEither = false := by
  rw [leaves_eq_filter_nodes, List.mem_filter] at h
  exact (Bool.not_eq_true' _).mp h.2

theorem leaves_ne_nil (s : SymbolSet σ) : s.leaves ≠ [] := by
  induction s with
  | empty | all | value | predicate => exact List.cons_ne_nil _ _
  | either l r ihl _ =>
      rw [leaves_either]
      exact List.append_ne_nil_of_left_ne_nil ihl _

/-- A set with one leaf is that leaf. -/
theorem eq_of_leaves_eq_singleton (h : s.leaves = [t]) : s = t := by
  cases s with
  | empty | all | value | predicate => exact List.singleton_inj.mp h
  | either l r =>
      rw [leaves_either, List.append_eq_singleton_iff] at h
      rcases h with ⟨hl, _⟩ | ⟨_, hr⟩
      · exact absurd hl (leaves_ne_nil l)
      · exact absurd hr (leaves_ne_nil r)

section Equality

variable [BEq σ]

/-- The leaves are the same, whatever the tests of predicates are. -/
inductive SameLeaf : SymbolSet σ → SymbolSet σ → Prop where
  | empty : SameLeaf .empty .empty
  | all : SameLeaf .all .all
  | value {v w : σ} : (v == w) = true → SameLeaf (.value v) (.value w)
  | predicate (name : String) (test test' : σ → Bool) :
      SameLeaf (.predicate name test) (.predicate name test')

namespace SameLeaf

theorem of_sameLeaf (h : s.sameLeaf t = true) : SameLeaf s t := by
  cases s with
  | empty =>
      cases t with
      | empty => exact .empty
      | all | value | predicate | either => cases h
  | all =>
      cases t with
      | all => exact .all
      | empty | value | predicate | either => cases h
  | value v =>
      cases t with
      | value w => exact .value h
      | empty | all | predicate | either => cases h
  | predicate name test =>
      cases t with
      | predicate name' test' =>
          obtain rfl : name = name' := eq_of_beq h
          exact .predicate name test test'
      | empty | all | value | either => cases h
  | either => cases h

theorem sameLeaf (h : SameLeaf s t) : s.sameLeaf t = true := by
  cases h with
  | empty | all => rfl
  | value h => exact h
  | predicate name => exact beq_self_eq_true name

theorem refl [ReflBEq σ] (h : s.isEither = false) : SameLeaf s s := by
  cases s with
  | empty => exact .empty
  | all => exact .all
  | value v => exact .value BEq.rfl
  | predicate name test => exact .predicate name test test
  | either => cases h

variable [PartialEquivBEq σ]

theorem symm (h : SameLeaf s t) : SameLeaf t s := by
  cases h with
  | empty => exact .empty
  | all => exact .all
  | value h => exact .value (BEq.symm h)
  | predicate name test test' => exact .predicate name test' test

theorem trans (h : SameLeaf s t) (h' : SameLeaf t u) : SameLeaf s u := by
  cases h with
  | empty | all => exact h'
  | value h =>
      cases h' with
      | value h' => exact .value (BEq.trans h h')
  | predicate name test =>
      cases h' with
      | predicate _ _ test'' => exact .predicate name test test''

end SameLeaf

theorem sameLeaves_iff {ls rs : List (SymbolSet σ)} :
    sameLeaves ls rs = true ↔ List.Forall₂ SameLeaf ls rs := by
  fun_induction sameLeaves ls rs with
  | case1 => exact iff_of_true rfl .nil
  | case2 l ls r rs ih =>
      rw [Bool.and_eq_true, ih, List.forall₂_cons]
      exact and_congr_left' ⟨SameLeaf.of_sameLeaf, SameLeaf.sameLeaf⟩
  | case3 ls rs hnil hcons =>
      refine iff_of_false Bool.false_ne_true ?_
      intro h
      cases h with
      | nil => exact hnil rfl rfl
      | cons => exact hcons _ _ _ _ rfl rfl

theorem beq_iff : (s == t) = true ↔ List.Forall₂ SameLeaf s.leaves t.leaves := sameLeaves_iff

theorem sameLeaf_all_trans [PartialEquivBEq σ] {ls ms rs : List (SymbolSet σ)}
    (h : List.Forall₂ SameLeaf ls ms) (h' : List.Forall₂ SameLeaf ms rs) :
    List.Forall₂ SameLeaf ls rs := by
  induction h generalizing rs with
  | nil => exact h'
  | cons hleaf _ ih =>
      cases h' with
      | cons hleaf' h' => exact .cons (hleaf.trans hleaf') (ih h')

instance [EquivBEq σ] : EquivBEq (SymbolSet σ) where
  rfl := beq_iff.mpr (List.forall₂_same.mpr fun _ h => .refl (isEither_of_mem_leaves h))
  symm h := beq_iff.mpr ((beq_iff.mp h).imp fun _ _ => SameLeaf.symm).flip
  trans h h' := beq_iff.mpr (sameLeaf_all_trans (beq_iff.mp h) (beq_iff.mp h'))

/-- What equals a leaf that equals itself alone is that leaf. -/
theorem eq_of_beq_leaf (hleaf : s.leaves = [s]) (hself : ∀ t, SameLeaf s t → t = s)
    (h : (s == t) = true) : t = s := by
  rw [beq_iff, hleaf] at h
  generalize hleaves : t.leaves = leaves at h
  cases h with
  | cons hsame hrest =>
      cases hrest
      rw [hself _ hsame] at hleaves
      exact eq_of_leaves_eq_singleton hleaves

theorem eq_empty_of_beq (h : (SymbolSet.empty == t) = true) : t = .empty :=
  eq_of_beq_leaf rfl (fun _ h => by cases h; rfl) h

theorem eq_all_of_beq (h : (SymbolSet.all == t) = true) : t = .all :=
  eq_of_beq_leaf rfl (fun _ h => by cases h; rfl) h

section Congruence

variable [EquivBEq σ]

theorem isEmpty_congr (h : (s == t) = true) : s.isEmpty = t.isEmpty := by
  refine Bool.eq_iff_iff.mpr ⟨fun hs => ?_, fun ht => ?_⟩
  · rw [eq_empty_of_isEmpty hs] at h
    rw [eq_empty_of_beq h]
    rfl
  · rw [eq_empty_of_isEmpty ht] at h
    rw [eq_empty_of_beq (BEq.symm h)]
    rfl

theorem isAll_congr (h : (s == t) = true) : s.isAll = t.isAll := by
  refine Bool.eq_iff_iff.mpr ⟨fun hs => ?_, fun ht => ?_⟩
  · rw [eq_all_of_isAll hs] at h
    rw [eq_all_of_beq h]
    rfl
  · rw [eq_all_of_isAll ht] at h
    rw [eq_all_of_beq (BEq.symm h)]
    rfl

theorem union_congr (hs : (s == s') = true) (ht : (t == t') = true) :
    (s.union t == s'.union t') = true := by
  have hse' := isEmpty_congr hs
  have hte' := isEmpty_congr ht
  cases hse : s.isEmpty with
  | true =>
      rw [hse] at hse'
      rw [eq_empty_of_isEmpty hse, eq_empty_of_isEmpty hse'.symm]
      exact ht
  | false =>
      cases hte : t.isEmpty with
      | true =>
          rw [hte] at hte'
          rw [eq_empty_of_isEmpty hte, eq_empty_of_isEmpty hte'.symm, union_empty, union_empty]
          exact hs
      | false =>
          rw [union_eq hse hte, union_eq (hse'.symm.trans hse) (hte'.symm.trans hte),
            isAll_congr hs, isAll_congr ht]
          split
          · exact BEq.rfl
          · rw [beq_iff, leaves_either, leaves_either]
            exact List.rel_append (beq_iff.mp hs) (beq_iff.mp ht)

end Congruence

end Equality

/-- What is said of a set is said of its leaves. Listing them from a stack ends, with the nodes that
are no unions from left to right, and looking for one that has a symbol ends, with whether there is
one. In a set built by `union` no union is of an empty or a full set, and a leaf that is empty or
full is all of the set. A union has the symbols of both sides. If equality of symbols is an
equivalence, so is that of sets, and unions respect it; up to it they are associative, with the
empty set neutral and the full set absorbing on both sides. -/
theorem leaves_decide [BEq σ] :
    (∀ s : SymbolSet σ, LoopEnds leavesRound ([s], []) s.leaves ∧
      s.leaves = s.nodes.filter (fun node => !node.isEither) ∧
      ∀ x, LoopEnds (containsRound x) [s] (s.contains x) ∧
        (s.contains x = true ↔ ∃ leaf ∈ s.leaves, leaf.contains x = true)) ∧
    (∀ s : SymbolSet σ, s.Built →
      (∀ l r, .either l r ∈ s.nodes → l.isProper = true ∧ r.isProper = true) ∧
      (s.isEmpty = true ↔ s = .empty) ∧
      ∀ leaf ∈ s.leaves, leaf.isProper = false → s = leaf) ∧
    (∀ (s t : SymbolSet σ) (x : σ),
      (s.union t).contains x = true ↔ s.contains x = true ∨ t.contains x = true) ∧
    (EquivBEq σ → EquivBEq (SymbolSet σ) ∧
      (∀ s s' t t' : SymbolSet σ, (s == s') = true → (t == t') = true →
        (s.union t == s'.union t') = true) ∧
      ∀ s t u : SymbolSet σ, ((s.union t).union u == s.union (t.union u)) = true ∧
        (union .empty s == s) = true ∧ (s.union .empty == s) = true ∧
        (union .all s == .all) = true ∧ (s.union .all == .all) = true) := by
  refine ⟨?_, ?_, ?_, ?_⟩
  · intro s
    exact ⟨loopEnds_leavesRound s, leaves_eq_filter_nodes s,
      fun x => ⟨loopEnds_containsRound s x, contains_iff_exists_leaf s x⟩⟩
  · intro s hs
    refine ⟨hs.normal, ⟨eq_empty_of_isEmpty, fun h => h ▸ rfl⟩, ?_⟩
    exact fun leaf hleaf himproper => hs.normal.eq_of_mem_leaves hleaf himproper
  · intro s t x
    rw [contains_union, Bool.or_eq_true]
  · intro _
    refine ⟨inferInstance, fun _ _ _ _ => union_congr, ?_⟩
    intro s t u
    rw [beq_iff, leaves_union_assoc, ← beq_iff, union_empty, all_union, union_all]
    exact ⟨BEq.rfl, BEq.rfl, BEq.rfl, BEq.rfl, BEq.rfl⟩

/-- A letter or a digit: the empty set has left the tree. Another set with the same leaves, but for
what the digits are, stays equal when a letter is added to both. -/
theorem leaves_decide_letters :
    let s : SymbolSet Char := ((value 'a').union .empty).union (.predicate "digit" Char.isDigit)
    let s' : SymbolSet Char := .either (.value 'a') (.predicate "digit" fun _ => false)
    (∀ leaf ∈ s.leaves, leaf.isProper = false → s = leaf) ∧ s.isEmpty = false ∧
      (s == s') = true ∧ (s.union (.value 'b') == s'.union (.value 'b')) = true := by
  intro s s'
  have hs : s.Built := .union (.union (.value 'a') .empty) (.predicate "digit" Char.isDigit)
  obtain ⟨_, hbuilt, _, hequal⟩ := leaves_decide (σ := Char)
  exact ⟨(hbuilt s hs).2.2, rfl, rfl, (hequal inferInstance).2.1 s s' _ _ rfl rfl⟩

end SymbolSet

end PredictiveParsing
