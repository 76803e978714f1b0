import Mathlib.Data.List.Induction
import PredictiveParsing.Diagnostic.Basic

/-!
# Where a diagnostic points

A diagnostic goes through its text once, with a location and a number of bytes that grow with each
character, until it has seen as many characters as stand before the error (`Location.locate_eq`).
What it has then is read off those characters alone: the line is one more than the line feeds among
them, the column one more than the characters behind the last of these (`Location.behind_eq`), and
the span begins behind their bytes.

Every character makes the location a later one (`Location.before_after`), so that the locations in a
text are in the order of the positions, and no two of them are the same.
-/

namespace PredictiveParsing

namespace Location

/-- An earlier line, or further to the left in the same line. -/
def Before (l l' : Location) : Prop := l.line < l'.line ∨ l.line = l'.line ∧ l.column < l'.column

def behind (before : List Char) : Location := before.foldl after start

def inLastLine (before : List Char) : Nat := (before.reverse.takeWhile (· ≠ '\n')).length

theorem Before.trans {l l' l'' : Location} (h : l.Before l') (h' : l'.Before l'') :
    l.Before l'' := by
  unfold Before at *
  omega

theorem Before.ne {l l' : Location} (h : l.Before l') : l ≠ l' := by
  rintro rfl
  unfold Before at h
  omega

theorem before_after (l : Location) (c : Char) : l.Before (l.after c) := by
  unfold after
  split
  · exact .inl (Nat.lt_succ_self _)
  · exact .inr ⟨rfl, Nat.lt_succ_self _⟩

theorem behind_concat (before : List Char) (c : Char) :
    behind (before ++ [c]) = (behind before).after c := by
  rw [behind, List.foldl_append]
  rfl

theorem inLastLine_concat (before : List Char) (c : Char) :
    inLastLine (before ++ [c]) = if c = '\n' then 0 else inLastLine before + 1 := by
  unfold inLastLine
  rw [List.reverse_append, List.reverse_singleton, List.singleton_append, List.takeWhile_cons]
  by_cases hc : c = '\n'
  · simp [hc]
  · simp [hc]

theorem behind_eq (before : List Char) :
    behind before = ⟨1 + before.count '\n', 1 + inLastLine before⟩ := by
  induction before using List.reverseRecOn with
  | nil => rfl
  | append_singleton before c ih =>
      rw [behind_concat, ih, after, inLastLine_concat, List.count_append, List.count_singleton]
      by_cases hc : c = '\n'
      · simp [hc, Nat.add_assoc]
      · simp [hc, Nat.add_assoc]

/-! ### Going through the text -/

def encodedLength : Option Char → Nat
  | some c => (String.utf8EncodeChar c).length
  | none => 0

/-- The location and the span are those behind the characters that are passed. -/
theorem locate_eq (l : Location) (byte n : Nat) (cs : List Char) :
    l.locate byte n cs = ((cs.take n).foldl after l,
      ⟨byte + (String.ofList (cs.take n)).utf8ByteSize, encodedLength cs[n]?⟩) := by
  induction cs generalizing l byte n with
  | nil =>
      rw [locate, List.take_nil, List.getElem?_nil]
      rfl
  | cons c cs ih =>
      cases n with
      | zero =>
          rw [locate, List.take_zero, List.getElem?_cons_zero, encodedLength,
            String.length_utf8EncodeChar]
          rfl
      | succ n =>
          have hbytes : (String.ofList (c :: cs.take n)).utf8ByteSize =
              c.utf8Size + (String.ofList (cs.take n)).utf8ByteSize := by
            rw [String.ofList_cons, String.utf8ByteSize_append, String.utf8ByteSize_singleton]
          rw [locate, ih, List.take_succ_cons, List.foldl_cons, List.getElem?_cons_succ, hbytes,
            Nat.add_assoc]

variable {text : String} {m n : Nat}

theorem of_eq (n : Nat) (text : String) : of n text = behind (text.toList.take n) := by
  rw [of, find, locate_eq]
  rfl

/-- A position beyond the text counts as its end. -/
theorem find_min (n : Nat) (text : String) : find (min n text.length) text = find n text := by
  have hnext : text.toList[min n text.toList.length]? = text.toList[n]? := by
    rcases Nat.le_total n text.toList.length with hle | hle
    · rw [Nat.min_eq_left hle]
    · rw [Nat.min_eq_right hle, List.getElem?_eq_none hle, List.getElem?_eq_none (Nat.le_refl _)]
  rw [find, find, locate_eq, locate_eq, ← String.length_toList, ← List.take_eq_take_min, hnext]

theorem before_succ (h : n < text.length) : (of n text).Before (of (n + 1) text) := by
  rw [← String.length_toList] at h
  rw [of_eq, of_eq, List.take_succ_eq_append_getElem h, behind_concat]
  exact before_after _ _

/-- Within a text, what comes later has a later location. -/
theorem before_of_lt (hlt : m < n) (hn : n ≤ text.length) :
    (of m text).Before (of n text) := by
  induction hlt with
  | refl => exact before_succ hn
  | step _ ih => exact (ih (Nat.le_of_succ_le hn)).trans (before_succ hn)

theorem of_injective (hm : m ≤ text.length) (hn : n ≤ text.length)
    (h : of m text = of n text) : m = n := by
  rcases Nat.lt_trichotomy m n with hlt | heq | hgt
  · exact absurd h (before_of_lt hlt hn).ne
  · exact heq
  · exact absurd h.symm (before_of_lt hgt hm).ne

/-! ### Boundaries of characters -/

/-- Behind some of its characters a text has a boundary. -/
theorem isValid_take (text : String) (n : Nat) :
    String.Pos.Raw.IsValid text ⟨(String.ofList (text.toList.take n)).utf8ByteSize⟩ := by
  refine String.Pos.Raw.isValid_iff_exists_append.mpr
    ⟨String.ofList (text.toList.take n), String.ofList (text.toList.drop n), ?_, rfl⟩
  rw [← String.ofList_append, List.take_append_drop, String.ofList_toList]

/-- One character more takes as many bytes more. -/
theorem utf8ByteSize_take_succ (cs : List Char) (n : Nat) :
    (String.ofList (cs.take (n + 1))).utf8ByteSize =
      (String.ofList (cs.take n)).utf8ByteSize + encodedLength cs[n]? := by
  rw [List.take_add_one, String.ofList_append, String.utf8ByteSize_append]
  cases cs[n]? with
  | none => rfl
  | some c =>
      rw [encodedLength, String.length_utf8EncodeChar, Option.toList_some,
        ← String.singleton_eq_ofList, String.utf8ByteSize_singleton]

end Location

namespace Diagnostic

open Location

/-- Let `k` be the position of the error, or the number of characters of the text if that is less.
The location is one line behind the line feeds among the first `k` characters, and one column behind
those that follow the last of these. The span begins behind their bytes and is as long as the
encoding of the next character, or empty at the end, so it is between boundaries of the text. Later
positions up to the end of the text have later locations, and different ones have different
locations. -/
theorem points_at_character (d : Diagnostic) :
    let k := min d.error.position d.text.length
    let before := d.text.toList.take k
    d.location = ⟨1 + before.count '\n', 1 + inLastLine before⟩ ∧
      d.span = ⟨(String.ofList before).utf8ByteSize, encodedLength d.text.toList[k]?⟩ ∧
      String.Pos.Raw.IsValid d.text ⟨d.span.offset⟩ ∧
      String.Pos.Raw.IsValid d.text ⟨d.span.offset + d.span.length⟩ ∧
      (∀ m n, m < n → n ≤ d.text.length → (Location.of m d.text).Before (Location.of n d.text)) ∧
      ∀ m n, m ≤ d.text.length → n ≤ d.text.length →
        Location.of m d.text = Location.of n d.text → m = n := by
  intro k before
  have hlocation : d.location = behind before := by
    rw [location, Location.of, ← find_min]
    exact of_eq k d.text
  have hspan : d.span = ⟨(String.ofList before).utf8ByteSize, encodedLength d.text.toList[k]?⟩ := by
    rw [span, ← find_min, find, locate_eq, Nat.zero_add]
  refine ⟨hlocation.trans (behind_eq before), hspan, ?_, ?_, fun _ _ => before_of_lt,
    fun _ _ => of_injective⟩
  · rw [hspan]
    exact isValid_take d.text k
  · rw [hspan, ← utf8ByteSize_take_succ]
    exact isValid_take d.text (k + 1)

/-- The second letter of the second line takes two bytes. Behind the text there is nothing, and its
last two line feeds are not at one place. -/
theorem points_at_character_lines :
    let text := "ab\ncλd\n\nx"
    let d : Diagnostic := ⟨.message 4 "here", text⟩
    let beyond : Diagnostic := ⟨.message 99 "there", text⟩
    d.location = ⟨2, 2⟩ ∧ d.span = ⟨4, 2⟩ ∧ beyond.location = ⟨4, 2⟩ ∧ beyond.span = ⟨10, 0⟩ ∧
      (Location.of 6 text).Before (Location.of 7 text) ∧
      Location.of 6 text ≠ Location.of 7 text := by
  obtain ⟨hlocation, hspan, _, _, hbefore, hinjective⟩ :=
    points_at_character ⟨.message 4 "here", "ab\ncλd\n\nx"⟩
  obtain ⟨hbeyond, hnothing, _⟩ := points_at_character ⟨.message 99 "there", "ab\ncλd\n\nx"⟩
  refine ⟨hlocation.trans (by decide), hspan.trans (by decide), hbeyond.trans (by decide),
    hnothing.trans (by decide), hbefore 6 7 (by decide) (by decide), ?_⟩
  intro h
  exact absurd (hinjective 6 7 (by decide) (by decide) h) (by decide)

end Diagnostic

end PredictiveParsing
