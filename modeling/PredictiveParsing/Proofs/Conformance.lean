import PredictiveParsing.Conformance.Long
import PredictiveParsing.Proofs.Expressions
import PredictiveParsing.Proofs.Identities
import PredictiveParsing.Proofs.Reading

/-!
# Trials that pass

Where a text comes from makes no difference to a parser (`Workbench.Backing.parse_of_memory`), so a
suite that passes in memory passes over every backing (`Conformance.firstMismatch?_of_memory`), with
the same edit.

The laws hold of all parsers that know what they begin with, on every text and in every setting, but
for the associativity of alternatives: two groupings may differ in what they report
(`Failure.Clash`).
Trials of long texts pass at every length, and a number in parentheses is read at every depth.
-/

namespace PredictiveParsing

/-! ### Feeds of a text -/

namespace Workbench

variable {ρ : Nat → Type} {α : Type}

inductive Feed.Shows (text : String) : Feed Char → Prop where
  | memory : Shows text (.memory text.toList.toArray)
  | stream {s : Stream (List Char) Char} : s.Splits text.toList → Shows text (.stream s)
  | reader {reader : Reader} {s : Stream ReaderChars Char} :
      reader.Holds text → s.Follows reader → Shows text (.reader s id)

theorem Feed.answers_shows (text : String) : Source.Answers (Feed.Shows text) text.toList := by
  intro feed hfeed i
  cases hfeed with
  | memory => exact ⟨List.getElem?_toArray, .memory⟩
  | stream hs =>
      obtain ⟨hsymbol, hnext⟩ := hs.symbolAt i
      exact ⟨hsymbol, .stream hnext⟩
  | @reader reader s hreader hs =>
      obtain ⟨hsymbol, hnext⟩ := Stream.answers_follows reader s hs i
      rw [hreader.text_eq] at hsymbol
      refine ⟨?_, .reader hreader hnext⟩
      change (Stream.symbolAt s i).1.map id = _
      rw [Option.map_id]
      exact hsymbol

namespace Backing

variable {rules : Rules Char ρ} {p : Parser Char ρ α} {text : String}

/-- One read brings all of the text. -/
theorem holds_bytes (text : String) : Reader.Holds [.bytes (Text.Utf8.encode text)] text := by
  cases hbytes : Text.Utf8.encode text with
  | nil => exact ⟨rfl, hbytes.symm⟩
  | cons b bs => exact ⟨rfl, (List.append_nil _).trans hbytes.symm⟩

theorem shows_feed (backing : Backing) (text : String) : (backing.feed text).Shows text := by
  cases backing with
  | memory => exact .memory
  | stream => exact .stream ⟨text.toList, rfl, Supply.gives_list text.toList⟩
  | reader => exact .reader (holds_bytes text) (Stream.follows_start _)

theorem holds_feed (backing : Backing) (text : String) :
    Source.Holds (backing.feed text) text.toList :=
  Source.holds_of_invariant (Feed.Shows text) (Feed.answers_shows text) (backing.shows_feed text)

/-- No backing allows for fewer symbols than the text has. -/
theorem bound_memory_le (backing : Backing) (text : String) :
    Source.bound (Backing.memory.feed text) ≤ Source.bound (backing.feed text) := by
  cases backing with
  | memory => exact Nat.le_refl _
  | stream =>
      change text.toList.toArray.size ≤ 0 + text.toList.length
      rw [Nat.zero_add, List.size_toArray]
  | reader =>
      have hle := Reader.bound_text_le [.bytes (Text.Utf8.encode text)]
      rwa [(holds_bytes text).text_eq] at hle

/-- What a text in memory is parsed to, it is over every backing. -/
theorem parse_of_memory (backing : Backing) {parsed : Except ParseError α}
    (h : Backing.memory.parse rules p text = .ok parsed) :
    backing.parse rules p text = .ok parsed :=
  parseSource_alike (Feed.answers_shows text) (Feed.answers_shows text)
    (Backing.memory.shows_feed text) (backing.shows_feed text) (backing.bound_memory_le text) h

theorem apply_of_memory (backing : Backing) {parsed : Except ParseError (α × Nat)}
    (h : Backing.memory.apply rules p text = .ok parsed) :
    backing.apply rules p text = .ok parsed := by
  unfold Backing.apply at h ⊢
  cases happly : Session.apply rules p .start { source := Backing.memory.feed text } with
  | error halt s =>
      rw [happly] at h
      cases h
  | ok out s =>
      obtain ⟨s', happly', _⟩ := Session.exists_apply (Feed.answers_shows text)
        (Feed.answers_shows text) (Backing.memory.shows_feed text) (backing.shows_feed text)
        (backing.bound_memory_le text) happly
      rw [happly] at h
      rw [happly']
      cases out with
      | success a next => exact h
      | failure f => exact h

/-- A text is parsed over a backing as its characters are. -/
theorem parse_of_parseText (backing : Backing) {parsed : Except ParseError α}
    (h : parseText rules p text = .ok parsed) : backing.parse rules p text = .ok parsed := by
  refine parseSource_alike (Source.answers_array text.toList) (Feed.answers_shows text) rfl
    (backing.shows_feed text) ?_ h
  exact backing.bound_memory_le text

end Backing

end Workbench

namespace Conformance

open Calculator (calculator digit letter Derives)
open Text (Edit)
open Workbench (Backing Feed)

variable {α β : Type}

/-! ### Suites over every backing -/

theorem mismatch?_eq_none_iff [BEq α] [Inspect α] {about : String} {left right : α} :
    mismatch? about left right = none ↔ (left == right) = true := by
  unfold mismatch?
  cases left == right with
  | true => exact iff_of_true rfl rfl
  | false => exact iff_of_false nofun nofun

/-- What equals a result has ended. -/
theorem exists_ok_of_beq [BEq α] {left : Parsed α} {right : Except ParseError α}
    (h : (left == .ok right) = true) : ∃ parsed, left = .ok parsed := by
  cases left with
  | error halt => cases h
  | ok parsed => exact ⟨parsed, rfl⟩

theorem exists_ok_of_map {f : α → β} {left : Parsed α} {parsed : Except ParseError β}
    (h : left.map (·.map f) = .ok parsed) : ∃ parsed, left = .ok parsed := by
  cases left with
  | error halt => cases h
  | ok parsed => exact ⟨parsed, rfl⟩

/-- A trial that passes in memory passes over every backing. -/
theorem Trial.run_of_memory (backing : Backing) {edit : Edit} {trial : Trial}
    (h : trial.run ⟨.memory, edit⟩ = none) : trial.run ⟨backing, edit⟩ = none := by
  cases trial with
  | parses p text expected =>
      obtain ⟨parsed, hparsed⟩ := exists_ok_of_beq (mismatch?_eq_none_iff.mp h)
      have hbacking : Setting.parse ⟨backing, edit⟩ p text = .ok parsed :=
        backing.parse_of_memory hparsed
      rw [run, hparsed] at h
      rw [run, hbacking]
      exact h
  | applies p text expected =>
      obtain ⟨parsed, hparsed⟩ := exists_ok_of_beq (mismatch?_eq_none_iff.mp h)
      have hbacking : Setting.apply ⟨backing, edit⟩ p text = .ok parsed :=
        backing.apply_of_memory hparsed
      rw [run, hparsed] at h
      rw [run, hbacking]
      exact h
  | measures p measure text expected =>
      obtain ⟨_, hmeasured⟩ := exists_ok_of_beq (mismatch?_eq_none_iff.mp h)
      obtain ⟨parsed, hparsed⟩ := exists_ok_of_map hmeasured
      have hbacking : Setting.parse ⟨backing, edit⟩ p text = .ok parsed :=
        backing.parse_of_memory hparsed
      rw [run, hparsed] at h
      rw [run, hbacking]
      exact h
  | agree p q text =>
      rw [run] at h
      split at h
      · rename_i left right hp hq
        have hleft : Setting.parse ⟨backing, edit⟩ p text = .ok left := backing.parse_of_memory hp
        have hright : Setting.parse ⟨backing, edit⟩ q text = .ok right :=
          backing.parse_of_memory hq
        rw [run, hleft, hright]
        exact h
      · cases h
  | equal left right => exact h

/-- A suite that passes in memory passes over every backing. -/
theorem firstMismatch?_of_memory (backing : Backing) {edit : Edit} {trials : List Trial}
    (h : firstMismatch? trials ⟨.memory, edit⟩ = none) :
    firstMismatch? trials ⟨backing, edit⟩ = none := by
  refine List.findSome?_eq_none_iff.mpr ?_
  intro trial htrial
  exact Trial.run_of_memory backing (List.findSome?_eq_none_iff.mp h trial htrial)

/-! ### Laws -/

namespace Law

/-- In every setting both parsers make the same of every text. -/
def Holds (l : Law α) : Prop :=
  ∀ (s : Setting) (text : String), s.parse l.left text = s.parse l.right text

theorem holds_of_interchangeable {l : Law α}
    (h : ∀ (symbols : List Char) budget, Session.Interchangeable (S := Feed Char) Calculator.rules
      symbols (fun _ => ())
      (Calculator.rules.parse (Session.host Calculator.rules) budget l.left .start)
      (Calculator.rules.parse (Session.host Calculator.rules) budget l.right .start)) :
    l.Holds := by
  intro s text
  have hstart : Session.Consistent Calculator.rules (s.edit.apply text).toList
      { source := s.backing.feed (s.edit.apply text) } :=
    Session.consistent_start (s.backing.holds_feed (s.edit.apply text))
  unfold Setting.parse Backing.parse
  rw [parseSource_eq, parseSource_eq]
  exact congrArg (Except.map Outcome.result) ((h _ _).ending_eq ⟨hstart, hstart, rfl⟩).1

/-- Trials of a law that holds pass wherever the parsers come to a result. -/
theorem Holds.on [BEq α] [Inspect α] [ReflBEq α] {l : Law α} (h : l.Holds) {s : Setting}
    {texts : List String} (hends : ∀ text ∈ texts, ∃ parsed, s.parse l.right text = .ok parsed) :
    firstMismatch? (l.on texts) s = none := by
  refine List.findSome?_eq_none_iff.mpr (List.forall_mem_map.mpr ?_)
  intro text htext
  obtain ⟨parsed, hparsed⟩ := hends text htext
  rw [Trial.run, h s text, hparsed]
  exact mismatch?_eq_none_iff.mpr (beq_self_eq_true parsed)

section Neutral

variable {p : Parser α} {b : Bool} {set : SymbolSet Char}
  (hp : Calculator.rules.Throughout Parser.RecordsNothing p)
  (hreplies : Calculator.rules.Replies p b set)

include hp hreplies

theorem orFail_holds : (orFail p).Holds :=
  holds_of_interchangeable fun _ _ => Rules.parse_or_fail hp hreplies (Nat.zero_le _)

theorem failOr_holds : (failOr p).Holds :=
  holds_of_interchangeable fun _ _ => Rules.parse_fail_or hp hreplies (Nat.zero_le _)

theorem pureAndR_holds : (pureAndR p).Holds :=
  holds_of_interchangeable fun _ _ => Rules.parse_pure_andR hp hreplies (Nat.zero_le _) ()

theorem andLPure_holds : (andLPure p).Holds :=
  holds_of_interchangeable fun _ _ => Rules.parse_andL_pure hp hreplies (Nat.zero_le _) ()

theorem apPure_holds (f : α → β) : (apPure f p).Holds :=
  holds_of_interchangeable fun _ _ =>
    Rules.parse_pure_and hp hreplies (Nat.zero_le _) f fun v => v.1 v.2

end Neutral

theorem mapId_holds (p : Parser α) : (mapId p).Holds := by
  intro s text
  unfold Setting.parse Backing.parse
  rw [parseSource_eq, parseSource_eq]
  unfold Session.parse mapId
  dsimp only
  rw [Rules.parse_map_id]

end Law

/-! ### Long texts -/

theorem toList_copies (n : Nat) (s : String) :
    (copies n s).toList = (List.replicate n s.toList).flatten := by
  unfold copies
  rw [String.toList_join, List.flatMap_def, List.map_replicate]

/-- What a text is parsed to is there over every backing, however it is measured. -/
theorem run_measures [BEq α] [ReflBEq α] [Inspect α] {p : Parser β} {text : String}
    {parsed : Except ParseError β} (h : parseText Calculator.rules p text = .ok parsed)
    (measure : β → α) (backing : Backing) :
    (Trial.measures p measure text (parsed.map measure)).run ⟨backing, .keep⟩ = none := by
  have hparse : Setting.parse ⟨backing, .keep⟩ p text = .ok parsed := backing.parse_of_parseText h
  rw [Trial.run, hparse]
  refine mismatch?_eq_none_iff.mpr ?_
  exact beq_self_eq_true (parsed.map measure)

/-- Any number of copies of a text are read where each one is. -/
theorem parseText_copies {p : Parser α} {B : Option Char → Prop} {t : String} {a : α}
    {set : SymbolSet Char} (hpremade : p.many.Everywhere Calculator.rules.Premade)
    (hfounded : p.many.Everywhere Calculator.rules.Founded)
    (hreplies : Calculator.rules.Replies p false set) (h : Calculator.rules.Reads p B t.toList a)
    (hne : t.toList ≠ []) (hhead : B t.toList.head?) (hnone : B none)
    (hend : Calculator.rules.Refuses p (· = none)) (n : Nat) :
    parseText Calculator.rules p.many (copies n t) = .ok (.ok (List.replicate n a)) := by
  have hitems : Calculator.rules.ReadsEach p B (List.replicate n (t.toList, a)) := by
    constructor
    all_goals
      intro item hitem
      obtain rfl := List.eq_of_mem_replicate hitem
    · exact h
    · exact hne
    · exact hhead
  have hmany := Rules.Reads.many (Calculator.premade.beside hpremade.2) hitems hreplies hend
    fun o ho => ho ▸ hnone
  rw [List.map_replicate, List.flatMap_replicate, ← toList_copies] at hmany
  exact hmany.parseSymbols rfl
    (Calculator.isPremade.beside (hpremade.mono fun _ _ h => h.1))
    (Calculator.founded.beside hfounded) ⟨rfl, hreplies.firstSet⟩

theorem parseText_digits (n : Nat) :
    parseText Calculator.rules digit.many (copies n "7") = .ok (.ok (List.replicate n 7)) := by
  have hreplies : Calculator.rules.Replies digit false (.predicate "digit" Char.isDigit) :=
    ⟨rfl, rfl⟩
  have hseven : Calculator.rules.Reads digit (fun _ => True) "7".toList 7 :=
    (Rules.reads_symbolWhere rfl _).map _
  have hend : Calculator.rules.Refuses digit (· = none) := by
    refine ((Rules.refuses_symbolWhere _).map _).mono ?_
    rintro o rfl x hx
    cases hx
  refine parseText_copies ?_ ?_ hreplies hseven (List.cons_ne_nil _ _) trivial trivial hend n
  · repeat' constructor
  · repeat' constructor

/-- A word of two letters, and the space behind it. -/
theorem reads_word : Calculator.rules.Reads (letter.many1.andL (symbol ' ')) (fun _ => True)
    "ab ".toList ['a', 'b'] := by
  have hreplies : Calculator.rules.Replies letter false (.predicate "letter" Char.isAlpha) :=
    ⟨rfl, rfl⟩
  have hletter : ∀ c, c.isAlpha = true → Calculator.rules.Reads letter (fun _ => True) [c] c :=
    fun _ hc => Rules.reads_symbolWhere hc _
  have hletters : Calculator.rules.ReadsEach letter (fun _ => True)
      [(['a'], 'a'), (['b'], 'b')] :=
    .cons (hletter 'a' rfl) nofun trivial (.cons (hletter 'b' rfl) nofun trivial .nil)
  have hpremade : Calculator.rules.Throughout Calculator.rules.Premade letter :=
    Calculator.premade.beside (by repeat' constructor)
  have hab := Rules.Reads.many1 hpremade hletters hreplies (Rules.refuses_symbolWhere _)
    (fun _ _ => trivial) nofun
  refine hab.andL (Rules.reads_value ' ') rfl nofun ?_
  rintro o - x ⟨⟩
  rfl

theorem parseText_words (n : Nat) :
    parseText Calculator.rules words (copies n "ab ") =
      .ok (.ok (List.replicate n ['a', 'b'])) := by
  have hletters : Calculator.rules.Refuses letter.many1 (fun o => ∀ c ∈ o, c.isAlpha = false) :=
    (Rules.refuses_symbolWhere _).many1 rfl
  have hend : Calculator.rules.Refuses (letter.many1.andL (symbol ' ')) (· = none) := by
    refine (hletters.andL _).mono ?_
    rintro o rfl x hx
    cases hx
  have hreplies : Calculator.rules.Replies (letter.many1.andL (symbol ' ')) false
      (.predicate "letter" Char.isAlpha) := ⟨rfl, rfl⟩
  refine parseText_copies ?_ ?_ hreplies reads_word (List.cons_ne_nil _ _) trivial trivial hend n
  · repeat' constructor
  · repeat' constructor

theorem derives_one : Derives .factor ['1'] 1 :=
  .number ⟨nofun, List.forall_mem_singleton.mpr rfl⟩

/-- Every copy adds one to what stands in front. -/
theorem derives_ones (n : Nat) (x : Int64) :
    Derives (.sums x) (List.replicate n ['+', '1']).flatten (x + Int64.ofNat n) := by
  induction n generalizing x with
  | zero =>
      have hzero : x + Int64.ofNat 0 = x := Int64.add_zero x
      rw [hzero]
      exact .lastTerm
  | succ n ih =>
      have hnext : x + Int64.ofNat (n + 1) = x + 1 + Int64.ofNat n := by
        rw [Nat.add_comm, Int64.ofNat_add, ← Int64.add_assoc]
        rfl
      rw [hnext, List.replicate_succ, List.flatten_cons]
      exact .plus derives_one.term_of_factor (ih (x + 1))

theorem toList_sum (n : Nat) : (copies n "1+" ++ "1").toList =
    ['1'] ++ (List.replicate n ['+', '1']).flatten := by
  rw [String.toList_append, toList_copies]
  induction n with
  | zero => rfl
  | succ n ih =>
      rw [List.replicate_succ, List.replicate_succ, List.flatten_cons, List.append_assoc, ih]
      rfl

theorem evaluate_sum (n : Nat) :
    Calculator.evaluate (copies n "1+" ++ "1") = .ok (.ok (Int64.ofNat (n + 1))) := by
  refine (Calculator.evaluate_eq_ok_iff _ _).mpr ?_
  have hsum : Int64.ofNat (n + 1) = 1 + Int64.ofNat n := by
    rw [Nat.add_comm, Int64.ofNat_add]
    rfl
  rw [toList_sum, hsum]
  exact .expr derives_one.term_of_factor (derives_ones n 1)

theorem derives_nested (depth : Nat) :
    Derives .factor (copies depth "(" ++ "1" ++ copies depth ")").toList 1 := by
  rw [String.toList_append, String.toList_append, toList_copies, toList_copies]
  induction depth with
  | zero => exact derives_one
  | succ depth ih =>
      have hparentheses := Derives.parentheses ih.term_of_factor.expr_of_term
      rw [List.replicate_succ, List.replicate_succ', List.flatten_cons, List.flatten_concat]
      simpa using hparentheses

theorem evaluate_nested (depth : Nat) :
    Calculator.evaluate (copies depth "(" ++ "1" ++ copies depth ")") = .ok (.ok 1) :=
  (Calculator.evaluate_eq_ok_iff _ _).mpr (derives_nested depth).term_of_factor.expr_of_term

theorem length_copies (n : Nat) (s : String) :
    (copies n s).toList.length = n * s.toList.length := by
  rw [toList_copies, List.length_flatten, List.map_replicate, List.sum_replicate_nat]

theorem evaluate_unbalanced (depth : Nat) :
    Calculator.evaluate (copies (depth + 1) "(" ++ "1" ++ copies depth ")") =
      .ok (.error (.endOfInput (2 * (depth + 1)) "')'")) := by
  have hopen : (copies (depth + 1) "(" ++ "1" ++ copies depth ")").toList =
      '(' :: (copies depth "(" ++ "1" ++ copies depth ")").toList := by
    rw [String.toList_append, String.toList_append, toList_copies, List.replicate_succ,
      List.flatten_cons, ← toList_copies]
    simp
  have hlength : (copies depth "(" ++ "1" ++ copies depth ")").toList.length + 1 =
      2 * (depth + 1) := by
    rw [String.toList_append, String.toList_append, List.length_append, List.length_append,
      length_copies, length_copies]
    simp
    omega
  rw [← hlength]
  exact Calculator.evaluate_unclosed (derives_nested depth).term_of_factor.expr_of_term hopen

theorem foldl_sevens (n : Nat) (x : Int64) :
    (List.replicate n 7).foldl (· + ·) x = x + Int64.ofNat (7 * n) := by
  induction n generalizing x with
  | zero => exact (Int64.add_zero x).symm
  | succ n ih =>
      rw [List.replicate_succ, List.foldl_cons, ih, Nat.mul_succ, Nat.add_comm, Int64.ofNat_add,
        ← Int64.add_assoc]
      rfl

/-- The trials of long texts pass at every length, over every backing. -/
theorem ofLength_passes (length : Nat) (backing : Backing) :
    firstMismatch? (ofLength length) ⟨backing, .keep⟩ = none := by
  have hdigits := run_measures (parseText_digits length) (·.foldl (· + ·) 0) backing
  rw [Except.map, foldl_sevens, Int64.zero_add] at hdigits
  have hsum := run_measures (evaluate_sum (length / 2)) id backing
  have hwords := run_measures (parseText_words (length / 3)) List.length backing
  rw [Except.map, List.length_replicate] at hwords
  refine List.findSome?_eq_none_iff.mpr ?_
  exact List.forall_mem_cons.mpr
    ⟨hdigits, List.forall_mem_cons.mpr ⟨hsum, List.forall_mem_singleton.mpr hwords⟩⟩

/-- A number is read at every depth, over every backing. -/
theorem nested_passes (depth : Nat) (backing : Backing) :
    (nested depth).run ⟨backing, .keep⟩ = none :=
  run_measures (evaluate_nested depth) id backing

/-- At every depth a parenthesis that is missing is missed where the text ends. -/
theorem unbalanced_passes (depth : Nat) (backing : Backing) :
    (unbalanced (depth + 1)).run ⟨backing, .keep⟩ = none :=
  run_measures (evaluate_unbalanced depth) id backing

/-- Over every backing all suites pass. -/
theorem suites_pass (backing : Backing) : ∀ suite ∈ [behaviors, laws, longTexts],
    firstMismatch? suite ⟨backing, .keep⟩ = none := by
  have hlong : firstMismatch? longTexts ⟨backing, .keep⟩ = none := by
    refine List.findSome?_eq_none_iff.mpr (List.forall_mem_append.mpr ⟨?_, ?_⟩)
    · exact List.findSome?_eq_none_iff.mp (ofLength_passes 65536 backing)
    · exact List.forall_mem_cons.mpr ⟨nested_passes 100 backing,
        List.forall_mem_singleton.mpr (unbalanced_passes 99 backing)⟩
  have hbehaviors : firstMismatch? behaviors ⟨.memory, .keep⟩ = none := by decide +kernel
  have hlaws : firstMismatch? laws ⟨.memory, .keep⟩ = none := by decide +kernel
  exact List.forall_mem_cons.mpr ⟨firstMismatch?_of_memory backing hbehaviors,
    List.forall_mem_cons.mpr ⟨firstMismatch?_of_memory backing hlaws,
      List.forall_mem_singleton.mpr hlong⟩⟩

end Conformance

end PredictiveParsing
