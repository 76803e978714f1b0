import Mathlib.Algebra.Ring.Int.Defs
import PredictiveParsing.Proofs.Calculator
import PredictiveParsing.Proofs.Languages

/-!
# The grammar of expressions

The calculator accepts the texts of a grammar (`Calculator.Derives`) and gives their values
(`Calculator.evaluate_eq_ok_iff`). One direction goes by the derivation: what it derives is read
where no symbol follows that could go on with it. Such symbols are a digit behind a number, and
behind a power, a term or an expression an operator that binds as tightly. The other direction goes
by what is left of the input, since a factor has others in it only behind a parenthesis or a sign.

Between the two stand the chains of operands: the rest of a sum, as the grammar derives it with the
value so far, is a list of operators and operands, and the value is what a chain makes of them.
-/

namespace PredictiveParsing.Calculator

open Arithmetic Text

/-! ### Arithmetic -/

/-- The quotient rounded toward zero, if there is one and it fits. -/
def quotient? (x y : Int64) : Option Int64 :=
  let q := x.toInt.tdiv y.toInt
  if y ≠ 0 ∧ Int64.minValue.toInt ≤ q ∧ q ≤ Int64.maxValue.toInt then some (Int64.ofInt q) else none

/-- The exponent, if it is one of 32 bits without a sign. -/
def exponent? (y : Int64) : Option Nat :=
  if 0 ≤ y.toInt ∧ y.toInt < 2 ^ 32 then some y.toInt.toNat else none

def quotient (x y : Int64) : Int64 := (quotient? x y).getD 0

/-- The power, wrapped around, with exponent zero where there is none. -/
def raise (x y : Int64) : Int64 := Int64.ofInt (x.toInt ^ (exponent? y).getD 0)

theorem ofInt_pow (x : Int) (n : Nat) : Int64.ofInt (x ^ n) = power (Int64.ofInt x) n := by
  induction n using Nat.strong_induction_on generalizing x with
  | _ n ih =>
      unfold power
      split
      · rename_i hzero
        rw [hzero, pow_zero]
        rfl
      · rename_i hpos
        rw [← Int64.ofInt_mul, ← ih (n / 2) (by omega), ← pow_two, ← pow_mul]
        split
        · rename_i hodd
          rw [← Int64.ofInt_mul, ← pow_succ']
          congr 2
          omega
        · rename_i heven
          congr 2
          omega

theorem powerOrOne_eq_raise : powerOrOne = raise := by
  funext x y
  have hsize : (UInt32.size : Int) = 2 ^ 32 := rfl
  unfold powerOrOne raise exponent?
  rw [ofInt_pow, Int64.ofInt_toInt, hsize]
  split
  · rfl
  · rfl

/-- A quotient of 64-bit integers is out of range only if the least one is divided by -1. -/
theorem quotient_in_range_iff {x y : Int64} :
    (Int64.minValue.toInt ≤ x.toInt.tdiv y.toInt ∧ x.toInt.tdiv y.toInt ≤ Int64.maxValue.toInt) ↔
      ¬(x = Int64.minValue ∧ y = -1) := by
  have hmin : Int64.minValue.toInt = -2 ^ 63 := rfl
  have hmax : Int64.maxValue.toInt = 2 ^ 63 - 1 := rfl
  have hx := x.minValue_le_toInt
  have hx' := x.toInt_le
  rw [← Int64.toInt_inj, ← Int64.toInt_inj, show (-1 : Int64).toInt = -1 from rfl]
  rw [hmin, hmax] at *
  by_cases hy : y.toInt = -1
  · rw [hy, Int.tdiv_neg, Int.tdiv_one]
    omega
  · refine iff_of_true ?_ fun h => hy h.2
    by_cases hone : y.toInt = 1
    · rw [hone, Int.tdiv_one]
      omega
    · -- A divisor further from zero at least halves.
      have hbound : (x.toInt.tdiv y.toInt).natAbs ≤ x.toInt.natAbs / 2 := by
        rw [Int.natAbs_tdiv]
        change x.toInt.natAbs / y.toInt.natAbs ≤ _
        rcases Nat.eq_zero_or_pos y.toInt.natAbs with hzero | hpos
        · rw [hzero, Nat.div_zero]
          exact Nat.zero_le _
        · exact Nat.div_le_div_left (by omega) (by omega)
      omega

theorem quotientOrZero_eq_quotient : quotientOrZero = quotient := by
  funext x y
  have hdiv : x / y = Int64.ofInt (x.toInt.tdiv y.toInt) := by
    rw [Int64.ofInt_tdiv x.minValue_le_toInt x.toInt_le y.minValue_le_toInt y.toInt_le,
      Int64.ofInt_toInt, Int64.ofInt_toInt]
  unfold quotientOrZero quotient quotient?
  simp only [quotient_in_range_iff, hdiv]
  by_cases hzero : y = 0
  · rw [if_pos (.inl hzero), if_neg fun h => h.1 hzero]
    rfl
  · by_cases hleast : x = Int64.minValue ∧ y = -1
    · rw [if_pos (.inr hleast), if_neg fun h => h.2 hleast]
      rfl
    · rw [if_neg (not_or.mpr ⟨hzero, hleast⟩), if_pos ⟨hzero, hleast⟩]
      rfl

/-! ### The grammar -/

/-- The phrases of the grammar. The rest of a sum or a product is a phrase behind the value of what
stands in front of it. -/
inductive Phrase where
  | expr
  | sums (x : Int64)
  | term
  | products (x : Int64)
  | power
  | factor

/-- The texts of the phrases and their values: `expr := term (('+' | '-') term)*`,
`term := power (('*' | '/') power)*`, `power := factor ('^' power)?` and
`factor := number | '(' expr ')' | '-' factor`. -/
inductive Derives : Phrase → List Char → Int64 → Prop where
  | expr {s t : List Char} {x v : Int64} :
      Derives .term s x → Derives (.sums x) t v → Derives .expr (s ++ t) v
  | lastTerm {x : Int64} : Derives (.sums x) [] x
  | plus {s t : List Char} {x y v : Int64} :
      Derives .term s y → Derives (.sums (x + y)) t v → Derives (.sums x) ('+' :: (s ++ t)) v
  | minus {s t : List Char} {x y v : Int64} :
      Derives .term s y → Derives (.sums (x - y)) t v → Derives (.sums x) ('-' :: (s ++ t)) v
  | term {s t : List Char} {x v : Int64} :
      Derives .power s x → Derives (.products x) t v → Derives .term (s ++ t) v
  | lastPower {x : Int64} : Derives (.products x) [] x
  | times {s t : List Char} {x y v : Int64} :
      Derives .power s y → Derives (.products (x * y)) t v →
        Derives (.products x) ('*' :: (s ++ t)) v
  | dividedBy {s t : List Char} {x y v : Int64} :
      Derives .power s y → Derives (.products (quotient x y)) t v →
        Derives (.products x) ('/' :: (s ++ t)) v
  | base {s : List Char} {x : Int64} : Derives .factor s x → Derives .power s x
  | power {s t : List Char} {x y : Int64} :
      Derives .factor s x → Derives .power t y → Derives .power (s ++ '^' :: t) (raise x y)
  | number {ds : List Char} :
      IsNumeral ds → Derives .factor ds (Int64.ofNat (Nat.ofDigitChars 10 ds 0))
  | parentheses {s : List Char} {v : Int64} :
      Derives .expr s v → Derives .factor ('(' :: (s ++ [')'])) v
  | negation {s : List Char} {v : Int64} : Derives .factor s v → Derives .factor ('-' :: s) (-v)

/-- The operators of sums, of products and of powers, each with what it stands for. -/
def sumOp : List Char → (Int64 → Int64 → Int64) → Prop :=
  fun u f => u = ['+'] ∧ f = (· + ·) ∨ u = ['-'] ∧ f = (· - ·)

@[inherit_doc sumOp]
def productOp : List Char → (Int64 → Int64 → Int64) → Prop :=
  fun u f => u = ['*'] ∧ f = (· * ·) ∨ u = ['/'] ∧ f = quotientOrZero

@[inherit_doc sumOp]
def powerOp : List Char → (Int64 → Int64 → Int64) → Prop :=
  fun u f => u = ['^'] ∧ f = powerOrOne

theorem derives_sums {t : List Char} {pairs : List ((Int64 → Int64 → Int64) × Int64)}
    (h : Rules.Links (Derives .term) sumOp t pairs) (x : Int64) :
    Derives (.sums x) t (nestLeft x pairs) := by
  induction h generalizing x with
  | nil => exact .lastTerm
  | cons hop hterm _ ih =>
      rcases hop with ⟨rfl, rfl⟩ | ⟨rfl, rfl⟩
      · rw [List.singleton_append]
        exact .plus hterm (ih _)
      · rw [List.singleton_append]
        exact .minus hterm (ih _)

theorem derives_products {t : List Char} {pairs : List ((Int64 → Int64 → Int64) × Int64)}
    (h : Rules.Links (Derives .power) productOp t pairs) (x : Int64) :
    Derives (.products x) t (nestLeft x pairs) := by
  induction h generalizing x with
  | nil => exact .lastPower
  | cons hop hpower _ ih =>
      rcases hop with ⟨rfl, rfl⟩ | ⟨rfl, rfl⟩
      · rw [List.singleton_append]
        exact .times hpower (ih _)
      · rw [List.singleton_append, nestLeft, quotientOrZero_eq_quotient]
        exact .dividedBy hpower (ih _)

/-- The operators of powers group on the right, so the links are taken in from the back. -/
theorem derives_power {s t : List Char} {x : Int64}
    {pairs : List ((Int64 → Int64 → Int64) × Int64)} (hx : Derives .factor s x)
    (h : Rules.Links (Derives .factor) powerOp t pairs) :
    Derives .power (s ++ t) (nestRight x pairs) := by
  induction h generalizing s x with
  | nil =>
      rw [List.append_nil]
      exact .base hx
  | cons hop hfactor _ ih =>
      obtain ⟨rfl, rfl⟩ := hop
      unfold nestRight
      rw [powerOrOne_eq_raise]
      exact .power hx (ih hfactor)

/-! ### The parsers of the phrases -/

abbrev factor : Parser Char (fun _ => Int64) Int64 := .rule factorRule

def power : Parser Char (fun _ => Int64) Int64 := factor.chainr1 (operator '^' powerOrOne)

def term : Parser Char (fun _ => Int64) Int64 :=
  power.chainl1 ((operator '*' (· * ·)).or (operator '/' quotientOrZero))

theorem body?_exprRule : rules.body? exprRule =
    some (term.chainl1 ((operator '+' (· + ·)).or (operator '-' (· - ·)))) := rfl

theorem body?_factorRule : rules.body? factorRule = some (factorBody calculator factor) := rfl

variable {symbols s t : List Char} {k : Nat} {x v : Int64}

/-! ### Numbers -/

def NoDigit (o : Option Char) : Prop := ∀ d ∈ o, d.isDigit = false

theorem foldl_digits (ds : List Char) (n : Nat) :
    (ds.map fun d => Int64.ofNat (d.toNat - '0'.toNat)).foldl (fun n d => n * 10 + d)
      (Int64.ofNat n) = Int64.ofNat (Nat.ofDigitChars 10 ds n) := by
  rw [List.foldl_map, Nat.ofDigitChars_eq_foldl]
  refine List.foldl_hom Int64.ofNat ?_
  intro n d
  rw [Int64.ofNat_add, Int64.ofNat_mul, Int64.mul_comm]
  rfl

theorem reads_number {ds : List Char} (hds : IsNumeral ds) :
    rules.Reads number NoDigit ds (Int64.ofNat (Nat.ofDigitChars 10 ds 0)) := by
  have hdigit : ∀ d ∈ ds, rules.Reads digit (fun _ => True) [d]
      (Int64.ofNat (d.toNat - '0'.toNat)) :=
    fun d hd => (Rules.reads_symbolWhere (hds.isDigit d hd) _).map _
  have hpremade : rules.Throughout rules.Premade digit :=
    premade.beside (by repeat' constructor)
  have hmany := Rules.Reads.many1 hpremade (Rules.readsEach_symbols _ hdigit) ⟨rfl, rfl⟩
    ((Rules.refuses_symbolWhere _).map _) (fun _ _ => trivial)
    (fun hnil => hds.ne_nil (List.map_eq_nil_iff.mp hnil))
  rw [Rules.flatMap_symbols, List.map_map] at hmany
  have hnumber := hmany.map fun ds => ds.foldl (fun n d => n * 10 + d) (Int64.ofNat 0)
  rw [← foldl_digits ds 0]
  exact hnumber

theorem refuses_number : rules.Refuses number NoDigit := by
  have hdigit : rules.Refuses digit NoDigit := (Rules.refuses_symbolWhere _).map _
  exact (hdigit.many1 rfl).map _

theorem readsOnly_number : rules.ReadsOnly symbols k number fun ds v =>
    IsNumeral ds ∧ v = Int64.ofNat (Nat.ofDigitChars 10 ds 0) := by
  intro c v next _ hout
  have hnumberAt : (∃ ds, NumberAt symbols c.position none ds) ∨ NoDigit symbols[c.position]? :=
    numberAt_or (.inl rfl) rfl
  rcases hnumberAt with ⟨ds, hnumber⟩ | hnone
  · obtain ⟨rest, hdrop, hrest⟩ := hnumber.longest
    cases hout.unique (reads_number hnumber.isNumeral symbols c rest hdrop hrest)
    exact ⟨ds, ⟨hnumber.isNumeral, rfl⟩, rfl, rest, hdrop.symm⟩
  · obtain ⟨f, hf, _⟩ := refuses_number symbols c hnone
    cases hout.unique hf

/-! ### What is read -/

theorem readsOnly_value (x : Char) :
    rules.ReadsOnly symbols k (Parser.value x) fun t _ => t = [x] := by
  refine Rules.readsOnly_satisfy.mono ?_
  rintro t y ⟨rfl, hy⟩
  rw [← eq_of_beq hy]

theorem readsOnly_operator (x : Char) (f : Int64 → Int64 → Int64) :
    rules.ReadsOnly symbols k (operator x f) fun t g => t = [x] ∧ g = f :=
  (readsOnly_value x).map fun _ _ ht => ⟨ht, rfl⟩

theorem readsOnly_operators (x y : Char) (f g : Int64 → Int64 → Int64) :
    rules.ReadsOnly symbols k ((operator x f).or (operator y g))
      fun t h => t = [x] ∧ h = f ∨ t = [y] ∧ h = g :=
  ((readsOnly_operator x f).mono fun _ _ => .inl).or
    ((readsOnly_operator y g).mono fun _ _ => .inr)

/-- What is read for an expression, if only factors are read for factors. -/
theorem readsOnly_calculator (h : rules.ReadsOnly symbols k factor (Derives .factor)) :
    rules.ReadsOnly symbols k calculator (Derives .expr) := by
  have hpower : rules.ReadsOnly symbols k power (Derives .power) := by
    refine (h.chain (readsOnly_operator '^' powerOrOne)).mono ?_
    rintro _ _ ⟨x, pairs, s, t, rfl, hx, hpairs, rfl⟩
    exact derives_power hx hpairs
  have hterm : rules.ReadsOnly symbols k term (Derives .term) := by
    refine (hpower.chain (readsOnly_operators _ _ _ _)).mono ?_
    rintro _ _ ⟨x, pairs, s, t, rfl, hx, hpairs, rfl⟩
    exact .term hx (derives_products hpairs x)
  refine .rule body?_exprRule ((hterm.chain (readsOnly_operators _ _ _ _)).mono ?_)
  rintro _ _ ⟨x, pairs, s, t, rfl, hx, hpairs, rfl⟩
  exact .expr hx (derives_sums hpairs x)

theorem readsOnly_factor (symbols : List Char) (k : Nat) :
    rules.ReadsOnly symbols k factor (Derives .factor) := by
  -- On what is left of the input: a factor has others in it only behind its first symbol.
  induction hleft : symbols.length - k using Nat.strong_induction_on generalizing k with
  | _ left ih =>
      have hlater : k < symbols.length →
          rules.ReadsOnly symbols (k + 1) factor (Derives .factor) :=
        fun hk => ih (symbols.length - (k + 1)) (by omega) (k + 1) rfl
      have hnumber : rules.ReadsOnly symbols k number (Derives .factor) := by
        refine readsOnly_number.mono ?_
        rintro ds _ ⟨hds, rfl⟩
        exact .number hds
      have hopened : rules.ReadsOnly symbols k ((Parser.value '(').andR calculator)
          fun t v => ∃ s, t = '(' :: s ∧ Derives .expr s v := by
        refine ((readsOnly_value '(').and ?_ fun hk => readsOnly_calculator (hlater hk)).map ?_
        · rintro _ _ rfl
          exact List.cons_ne_nil _ _
        · rintro _ _ ⟨_, s, rfl, rfl, hs⟩
          exact ⟨s, rfl, hs⟩
      have hparentheses : rules.ReadsOnly symbols k
          (.between (.value '(') (.value ')') calculator) (Derives .factor) := by
        refine (hopened.and ?_ fun _ => readsOnly_value ')').map ?_
        · rintro _ _ ⟨s, rfl, _⟩
          exact List.cons_ne_nil _ _
        · rintro _ _ ⟨_, _, rfl, ⟨s, rfl, hs⟩, rfl⟩
          exact .parentheses hs
      have hnegation : rules.ReadsOnly symbols k
          (((Parser.value '-').andR factor).map fun n => -n) (Derives .factor) := by
        refine (((readsOnly_value '-').and ?_ hlater).map (N := fun t v => ∃ s, t = '-' :: s ∧
          Derives .factor s v) ?_).map ?_
        · rintro _ _ rfl
          exact List.cons_ne_nil _ _
        · rintro _ _ ⟨_, s, rfl, rfl, hs⟩
          exact ⟨s, rfl, hs⟩
        · rintro _ _ ⟨s, rfl, hs⟩
          exact .negation hs
      exact .rule body?_factorRule ((hnumber.or hparentheses).or hnegation)

/-! ### What is there to be read -/

/-- What may come behind a power, so that the power ends there. -/
def BehindPower (o : Option Char) : Prop := NoDigit o ∧ o ≠ some '^'

def BehindTerm (o : Option Char) : Prop := BehindPower o ∧ o ≠ some '*' ∧ o ≠ some '/'

def BehindExpr (o : Option Char) : Prop := BehindTerm o ∧ o ≠ some '+' ∧ o ≠ some '-'

instance : DecidablePred NoDigit
  | none => isTrue nofun
  | some d => decidable_of_iff (d.isDigit = false)
    ⟨fun h _ hd => Option.some.inj hd ▸ h, fun h => h d rfl⟩

instance : DecidablePred BehindPower := fun o =>
  inferInstanceAs (Decidable (NoDigit o ∧ o ≠ some '^'))

instance : DecidablePred BehindTerm := fun o =>
  inferInstanceAs (Decidable (BehindPower o ∧ o ≠ some '*' ∧ o ≠ some '/'))

instance : DecidablePred BehindExpr := fun o =>
  inferInstanceAs (Decidable (BehindTerm o ∧ o ≠ some '+' ∧ o ≠ some '-'))

variable {B : Option Char → Prop}

theorem readsOps_power : rules.ReadsOps (operator '^' powerOrOne) NoDigit powerOp where
  reads := by
    rintro _ _ ⟨rfl, rfl⟩
    exact Rules.reads_valueAs '^' powerOrOne
  ne_nil := by
    rintro _ _ ⟨rfl, _⟩
    exact List.cons_ne_nil _ _
  head := by
    rintro _ _ ⟨rfl, _⟩ _ ⟨⟩
    rfl

/-- One of two operators that can stand behind an operand. -/
theorem readsOps_operators {x y : Char} (hne : x ≠ y) (f g : Int64 → Int64 → Int64)
    (hx : B (some x)) (hy : B (some y)) :
    rules.ReadsOps ((operator x f).or (operator y g)) B
      fun u h => u = [x] ∧ h = f ∨ u = [y] ∧ h = g where
  reads := by
    rintro _ _ (⟨rfl, rfl⟩ | ⟨rfl, rfl⟩)
    · exact (Rules.reads_valueAs x _).or_left _ (List.cons_ne_nil _ _)
    · refine .or_right (Rules.refuses_valueAs x _) (Rules.reads_valueAs y _)
        (List.cons_ne_nil _ _) ?_
      exact fun heq => hne (Option.some.inj heq).symm
  ne_nil := by
    rintro _ _ (⟨rfl, _⟩ | ⟨rfl, _⟩)
    · exact List.cons_ne_nil _ _
    · exact List.cons_ne_nil _ _
  head := by
    rintro _ _ (⟨rfl, _⟩ | ⟨rfl, _⟩)
    · exact hx
    · exact hy

theorem reads_power (h : Rules.Chained .right (rules.Reads factor NoDigit) powerOp t v) :
    rules.Reads power BehindPower t v := by
  obtain ⟨x, pairs, s, u, rfl, hx, hpairs, rfl⟩ := h
  refine .chain .right (premade.beside (by repeat' constructor)) readsOps_power ⟨rfl, rfl⟩
    hx hpairs ?_
  rintro o ⟨hdigit, hpower⟩
  exact ⟨hdigit, SymbolSet.not_contains_value hpower⟩

/-- What a derivation says of the parsers: they read the phrase, or they read it behind an operand
as a list of operators and operands. -/
def Readable : Phrase → List Char → Int64 → Prop
  | .expr, t, v => rules.Reads calculator BehindExpr t v
  | .sums x, t, v => ∃ pairs, Rules.Links (rules.Reads term BehindTerm) sumOp t pairs ∧
    v = nestLeft x pairs
  | .term, t, v => rules.Reads term BehindTerm t v
  | .products x, t, v => ∃ pairs, Rules.Links (rules.Reads power BehindPower) productOp t pairs ∧
    v = nestLeft x pairs
  | .power, t, v => Rules.Chained .right (rules.Reads factor NoDigit) powerOp t v
  | .factor, t, v => rules.Reads factor NoDigit t v

/-- A chain of two operators on the left ends before a symbol that is neither of them. -/
theorem reads_chainl1 {p : Parser Char (fun _ => Int64) Int64} {R : Option Char → Prop}
    {x y : Char} {f g : Int64 → Int64 → Int64} {a : Int64}
    {pairs : List ((Int64 → Int64 → Int64) × Int64)} (hne : x ≠ y) (hx : B (some x))
    (hy : B (some y)) (hR : ∀ o, R o → B o ∧ o ≠ some x ∧ o ≠ some y)
    (hp : rules.Reads p B s a) (hpairs : Rules.Links (rules.Reads p B)
      (fun u h => u = [x] ∧ h = f ∨ u = [y] ∧ h = g) t pairs) :
    rules.Reads (p.chainl1 ((operator x f).or (operator y g))) R (s ++ t)
      (nestLeft a pairs) := by
  refine .chain .left (premade.beside (by repeat' constructor))
    (readsOps_operators hne f g hx hy) ⟨rfl, rfl⟩ hp hpairs ?_
  intro o ho
  obtain ⟨hB, hx, hy⟩ := hR o ho
  refine ⟨hB, fun z hz => ?_⟩
  have hxz := SymbolSet.not_contains_value hx z hz
  have hyz := SymbolSet.not_contains_value hy z hz
  exact (congrArg₂ or hxz hyz :)

theorem reads_opened (h : rules.Reads calculator BehindExpr t v) :
    rules.Reads ((Parser.value '(').andR calculator) BehindExpr ('(' :: t) v := by
  have hne : t ≠ [] := h.ne_nil isPremade rfl (by decide)
  exact (Rules.reads_value '(').andR h rfl (fun hnil => absurd hnil hne) fun _ _ => trivial

theorem reads_parentheses (h : rules.Reads calculator BehindExpr t v) :
    rules.Reads factor NoDigit ('(' :: (t ++ [')'])) v := by
  have hclosed : rules.Reads (.between (.value '(') (.value ')') calculator) (fun _ => True)
      ('(' :: (t ++ [')'])) v := by
    have hbehind : BehindExpr (some ')') := by decide
    exact (reads_opened h).andL (Rules.reads_value ')') rfl nofun fun _ _ => hbehind
  refine .rule body?_factorRule (.or_left _ (.or_right refuses_number ?_ ?_ ?_) ?_)
  · exact hclosed.mono fun _ _ => trivial
  · exact List.cons_ne_nil _ _
  · rintro _ ⟨⟩
    rfl
  · exact List.cons_ne_nil _ _

theorem reads_negation (h : rules.Reads factor NoDigit t v) :
    rules.Reads factor NoDigit ('-' :: t) (-v) := by
  have hne : t ≠ [] := h.ne_nil (isPremade.beside trivial) rfl nofun
  have hsigned : rules.Reads ((Parser.value '-').andR factor) NoDigit ('-' :: t) v :=
    (Rules.reads_value '-').andR h rfl (fun hnil => absurd hnil hne) fun _ _ => trivial
  have hothers : rules.Refuses (number.or (.between (.value '(') (.value ')') calculator))
      (· = some '-') := by
    refine .or (refuses_number.mono ?_) ?_ nofun
    · rintro _ rfl _ ⟨⟩
      rfl
    · refine ((Rules.refuses_value '(').between _ _).mono ?_
      rintro _ rfl
      decide
  exact .rule body?_factorRule (.or_right hothers (hsigned.map _) (List.cons_ne_nil _ _) rfl)

/-- What the grammar derives is there to be read. -/
theorem Derives.readable {phrase : Phrase} (h : Derives phrase t v) : Readable phrase t v := by
  induction h with
  | expr _ _ ihterm ihsums =>
      obtain ⟨pairs, hpairs, rfl⟩ := ihsums
      exact .rule body?_exprRule (reads_chainl1 (by decide) (by decide) (by decide)
        (fun o ho => ho) ihterm hpairs)
  | lastTerm => exact ⟨[], .nil, rfl⟩
  | plus _ _ ihterm ihsums =>
      obtain ⟨pairs, hpairs, rfl⟩ := ihsums
      exact ⟨_, .cons_symbol (.inl ⟨rfl, rfl⟩) ihterm hpairs, rfl⟩
  | minus _ _ ihterm ihsums =>
      obtain ⟨pairs, hpairs, rfl⟩ := ihsums
      exact ⟨_, .cons_symbol (.inr ⟨rfl, rfl⟩) ihterm hpairs, rfl⟩
  | term _ _ ihpower ihproducts =>
      obtain ⟨pairs, hpairs, rfl⟩ := ihproducts
      exact reads_chainl1 (by decide) (by decide) (by decide) (fun o ho => ho)
        (reads_power ihpower) hpairs
  | lastPower => exact ⟨[], .nil, rfl⟩
  | times _ _ ihpower ihproducts =>
      obtain ⟨pairs, hpairs, rfl⟩ := ihproducts
      exact ⟨_, .cons_symbol (.inl ⟨rfl, rfl⟩) (reads_power ihpower) hpairs, rfl⟩
  | dividedBy _ _ ihpower ihproducts =>
      obtain ⟨pairs, hpairs, rfl⟩ := ihproducts
      rw [← quotientOrZero_eq_quotient]
      exact ⟨_, .cons_symbol (.inr ⟨rfl, rfl⟩) (reads_power ihpower) hpairs, rfl⟩
  | base _ ihfactor => exact ⟨_, [], _, [], (List.append_nil _).symm, ihfactor, .nil, rfl⟩
  | power _ _ ihfactor ihpower =>
      obtain ⟨y, pairs, s, u, rfl, hy, hpairs, rfl⟩ := ihpower
      rw [← powerOrOne_eq_raise]
      exact ⟨_, _, _, _, rfl, ihfactor, .cons_symbol ⟨rfl, rfl⟩ hy hpairs, rfl⟩
  | number hds =>
      exact .rule body?_factorRule (((reads_number hds).or_left _ hds.ne_nil).or_left _ hds.ne_nil)
  | parentheses _ ihexpr => exact reads_parentheses ihexpr
  | negation _ ihfactor => exact reads_negation ihfactor

theorem evaluate_eq_ok_iff (text : String) (n : Int64) :
    evaluate text = .ok (.ok n) ↔ Derives .expr text.toList n := by
  constructor
  · intro h
    exact (readsOnly_calculator (readsOnly_factor text.toList 0)).of_parseSymbols isPremade h
  · intro h
    have hreads : rules.Reads calculator BehindExpr text.toList n := h.readable
    exact hreads.parseSymbols (by decide) isPremade founded ⟨rfl, rfl⟩

/-! ### Parentheses that stay open -/

/-- What is missing behind an expression in a parenthesis that is never closed. -/
def unclosed (t : List Char) : Failure Char := ⟨t.length + 1, .endOfInput (.value ')')⟩

theorem comesTo_factor_unclosed (h : Derives .expr t v) :
    rules.ComesTo ('(' :: t) factor ⟨0, true⟩ (.failure (unclosed t)) := by
  have hbegins : 0 < ('(' :: t).length := Nat.zero_lt_succ _
  have hopened := reads_opened h.readable ('(' :: t) ⟨0, true⟩ [] (List.append_nil _).symm
    (by decide)
  have hended : (('(' :: t)[0 + ('(' :: t).length]?).isNone = true := by
    rw [Nat.zero_add, List.getElem?_length]
    rfl
  have hclose : rules.Replies (Parser.value ')') false (.value ')') := ⟨rfl, rfl⟩
  have hparentheses : rules.ComesTo ('(' :: t) (.between (.value '(') (.value ')') calculator)
      ⟨0, true⟩ (.failure (unclosed t)) := by
    have hmissing := (Rules.EndsIn.and_ended hopened hclose hended).map Prod.fst
    rwa [Nat.zero_add] at hmissing
  -- The other alternatives fail at once, so that nothing is left of them.
  obtain ⟨f, hnumber, hf⟩ :=
    refuses_number ('(' :: t) ⟨0, true⟩ (fun d hd => Option.some.inj hd ▸ rfl)
  obtain ⟨g, hsigned, hg⟩ := ((Rules.refuses_value '-').andR factor).map (fun n => -n)
    ('(' :: t) ⟨0, true⟩ (show some '(' ≠ some '-' by decide)
  have heither := hnumber.or_failure hbegins hparentheses
  dsimp only at heither
  rw [Failure.merge_of_gt (by rw [hf]; exact Nat.zero_lt_succ _)] at heither
  have hall := heither.or_failure hbegins hsigned
  dsimp only at hall
  rw [Failure.merge_of_lt (by rw [hg]; exact Nat.zero_lt_succ _)] at hall
  exact .rule body?_factorRule hall

/-- An expression behind a parenthesis that is never closed is reported where the text ends, with
nothing missing but the other parenthesis. -/
theorem evaluate_unclosed {text : String} (h : Derives .expr t v) (htext : text.toList = '(' :: t) :
    evaluate text = .ok (.error (.endOfInput (t.length + 1) "')'")) := by
  have hpower : rules.ComesTo ('(' :: t) power ⟨0, true⟩ (.failure (unclosed t)) :=
    (comesTo_factor_unclosed h).chain_first _ _
  have hterm : rules.ComesTo ('(' :: t) term ⟨0, true⟩ (.failure (unclosed t)) :=
    hpower.chain_first _ _
  have hexpr : rules.ComesTo ('(' :: t) calculator ⟨0, true⟩ (.failure (unclosed t)) :=
    .rule body?_exprRule (hterm.chain_first .left _)
  have hreplies : rules.Replies calculator false _ := ⟨rfl, rfl⟩
  unfold evaluate parseText
  rw [htext]
  exact parseSymbols_eq_error isPremade founded hreplies (List.cons_ne_nil _ _) rfl hexpr

/-! ### Printed expressions -/

inductive Operation where
  | add
  | sub
  | mul
  | div
  | pow
deriving DecidableEq, Repr

namespace Operation

def symbol : Operation → Char
  | add => '+'
  | sub => '-'
  | mul => '*'
  | div => '/'
  | pow => '^'

def apply : Operation → Int64 → Int64 → Int64
  | add => (· + ·)
  | sub => (· - ·)
  | mul => (· * ·)
  | div => quotient
  | pow => raise

end Operation

inductive Tree where
  | number (n : Nat)
  | negation (e : Tree)
  | operation (op : Operation) (left right : Tree)
deriving DecidableEq, Repr

namespace Tree

def value : Tree → Int64
  | number n => Int64.ofNat n
  | negation e => -e.value
  | operation op left right => op.apply left.value right.value

/-- The text of an expression, with parentheses around all of it but numbers. -/
def print : Tree → String
  | number n => toString n
  | negation e => "(-" ++ e.print ++ ")"
  | operation op left right => "(" ++ left.print ++ op.symbol.toString ++ right.print ++ ")"

end Tree

theorem Derives.term_of_power (h : Derives .power t v) : Derives .term t v := by
  have hterm : Derives .term (t ++ []) v := .term h .lastPower
  rwa [List.append_nil] at hterm

theorem Derives.term_of_factor (h : Derives .factor t v) : Derives .term t v := h.base.term_of_power

theorem Derives.expr_of_term (h : Derives .term t v) : Derives .expr t v := by
  have hexpr : Derives .expr (t ++ []) v := .expr h .lastTerm
  rwa [List.append_nil] at hexpr

/-- Two factors with an operator between them. -/
theorem derives_operation (op : Operation) (hs : Derives .factor s x) (ht : Derives .factor t v) :
    Derives .expr (s ++ op.symbol :: t) (op.apply x v) := by
  have hlast : t = t ++ [] := (List.append_nil t).symm
  cases op with
  | add =>
      rw [hlast]
      exact .expr hs.term_of_factor (.plus ht.term_of_factor .lastTerm)
  | sub =>
      rw [hlast]
      exact .expr hs.term_of_factor (.minus ht.term_of_factor .lastTerm)
  | mul =>
      rw [hlast]
      exact (Derives.term (.base hs) (.times (.base ht) .lastPower)).expr_of_term
  | div =>
      rw [hlast]
      exact (Derives.term (.base hs) (.dividedBy (.base ht) .lastPower)).expr_of_term
  | pow => exact (Derives.power hs (.base ht)).term_of_power.expr_of_term

theorem toList_print_negation (e : Tree) :
    (Tree.negation e).print.toList = '(' :: ('-' :: e.print.toList ++ [')']) := by
  simp [Tree.print]

theorem toList_print_operation (op : Operation) (left right : Tree) :
    (Tree.operation op left right).print.toList =
      '(' :: (left.print.toList ++ op.symbol :: right.print.toList ++ [')']) := by
  simp [Tree.print]

theorem derives_print (tree : Tree) : Derives .factor tree.print.toList tree.value := by
  induction tree with
  | number n =>
      have hvalue : Nat.ofDigitChars 10 (Nat.toDigits 10 n) 0 = n := Nat.ofDigitChars_ten_toDigits
      have hnumber := Derives.number (isNumeral_toDigits n)
      rw [hvalue] at hnumber
      rw [Tree.print, Nat.toString_eq_ofList_toDigits, String.toList_ofList]
      exact hnumber
  | negation e ih =>
      rw [toList_print_negation]
      exact .parentheses ih.negation.term_of_factor.expr_of_term
  | operation op left right ihleft ihright =>
      rw [toList_print_operation]
      exact .parentheses (derives_operation op ihleft ihright)

/-- The calculator gives a text a value exactly if the grammar derives the text with that value. So
it reads back every expression that is printed with all its parentheses. -/
theorem accepts_grammar :
    (∀ (text : String) (n : Int64), evaluate text = .ok (.ok n) ↔ Derives .expr text.toList n) ∧
      ∀ tree : Tree, evaluate tree.print = .ok (.ok tree.value) := by
  refine ⟨evaluate_eq_ok_iff, ?_⟩
  intro tree
  exact (evaluate_eq_ok_iff _ _).mpr (derives_print tree).term_of_factor.expr_of_term

example : evaluate "2-3-4/0" = .ok (.ok (-1)) := rfl

end PredictiveParsing.Calculator
