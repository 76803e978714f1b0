import PredictiveParsing.Diagnostic.Report
import PredictiveParsing.Proofs.Locations
import PredictiveParsing.Proofs.Utf8

/-!
# What a report shows

A report cuts the characters of an excerpt into lines (`Line.Cut`), and numbers these one after
another (`Line.Numbered`). The excerpt begins at the beginning of a line and reaches beyond the
character in question (`Excerpt.Frames`), so exactly one of the lines holds that character
(`Line.Cut.exists_holds`), and the report points at it once.

In a text without carriage returns, where it does not matter which of them end a line, that line
has the number of the diagnostic's location, and the marks below it begin in its column.
-/

namespace PredictiveParsing.Diagnostic

open Text.Utf8

/-- The number of bytes of a text. -/
theorem utf8ByteSize_ofList (cs : List Char) :
    (String.ofList cs).utf8ByteSize = (bytesOf cs).length := by
  induction cs with
  | nil => rfl
  | cons c cs ih =>
      rw [String.ofList_cons, String.utf8ByteSize_append, String.utf8ByteSize_singleton, ih,
        bytesOf_cons, List.length_append, String.length_utf8EncodeChar]

/-! ### Lines of characters -/

namespace Line

/-- Lines that some characters are cut into. Each but the last one ends with a line feed, with a
carriage return before it or not, and the last one may. -/
inductive Cut : (start : Nat) → List Char → List Line → Prop where
  | nil (start : Nat) : Cut start [] []
  | cons {start : Nat} {l : Line} {ls : List Line} {ending rest : List Char} :
      ending = ['\n'] ∨ ending = ['\r', '\n'] ∨ ending = [] ∧ rest = [] → '\n' ∉ l.text →
      l.span = ⟨start, (bytesOf (l.text ++ ending)).length⟩ →
      Cut (start + l.span.length) rest ls → Cut start (l.text ++ ending ++ rest) (l :: ls)

inductive Numbered : (first : Nat) → List Line → Prop where
  | nil (first : Nat) : Numbered first []
  | cons {first : Nat} {l : Line} {ls : List Line} :
      l.number = first → Numbered (first + 1) ls → Numbered first (l :: ls)

variable {start first : Nat} {cs before after ending part : List Char} {c : Char} {l : Line}
  {ls front back : List Line} {span : Span}

theorem Cut.le_offset (h : Cut start cs ls) : ∀ l ∈ ls, start ≤ l.span.offset := by
  induction h with
  | nil => exact nofun
  | cons _ _ hspan _ ih =>
      refine List.forall_mem_cons.mpr ⟨?_, ?_⟩
      · rw [hspan]
      · exact fun l hl => Nat.le_trans (Nat.le_add_right _ _) (ih l hl)

theorem Numbered.number_eq (h : Numbered first (front ++ l :: back)) :
    l.number = first + front.length := by
  induction front generalizing first with
  | nil =>
      cases h with
      | cons hnumber _ => exact hnumber
  | cons k front ih =>
      cases h with
      | cons _ hrest => rw [ih hrest, List.length_cons, Nat.add_assoc, Nat.add_comm 1]

theorem holds_iff : l.holds span = true ↔
    l.span.offset ≤ span.offset ∧ span.offset < l.span.offset + l.span.length := by
  rw [holds, Bool.and_eq_true, decide_eq_true_iff, decide_eq_true_iff]

theorem holds_eq_false_iff : l.holds span = false ↔
    span.offset < l.span.offset ∨ l.span.offset + l.span.length ≤ span.offset := by
  rw [← Bool.not_eq_true, holds_iff]
  omega

/-- The line `l` is the only one that holds the span, behind the characters `before`. In front of
it stand whole lines, one for each line feed, and `part` is what it has in front of the span. -/
structure Holds (start : Nat) (span : Span) (before : List Char) (front : List Line) (l : Line)
    (back : List Line) (part : List Char) : Prop where
  holds : l.holds span = true
  only : ∀ k ∈ front ++ back, k.holds span = false
  length_front : front.length = before.count '\n'
  split : ∃ whole, before = whole ++ part ∧ (whole = [] ∨ whole.getLast? = some '\n') ∧
    l.span.offset = start + (bytesOf whole).length
  not_mem_part : '\n' ∉ part
  part_prefix : part <+: l.text ++ ['\r']

/-- Less than a line and its end is part of the line, and at most a carriage return behind it. -/
theorem prefix_of_lt (hending : ending = ['\n'] ∨ ending = ['\r', '\n'] ∨ ending = [])
    (hpart : part <+: cs ++ ending) (hlt : part.length < (cs ++ ending).length) :
    part <+: cs ++ ['\r'] := by
  have hreturn : ∀ more, cs ++ ['\r'] <+: cs ++ '\r' :: more := fun more =>
    ⟨more, by rw [List.append_assoc]; rfl⟩
  rcases hending with rfl | rfl | rfl
  · have hle : part.length ≤ cs.length := by
      rw [List.length_append] at hlt
      exact Nat.le_of_lt_succ hlt
    exact (List.prefix_of_prefix_length_le hpart (List.prefix_append _ _) hle).trans
      (List.prefix_append _ _)
  · refine List.prefix_of_prefix_length_le hpart (hreturn ['\n']) ?_
    rw [List.length_append] at hlt ⊢
    exact Nat.le_of_lt_succ hlt
  · rw [List.append_nil] at hpart
    exact hpart.trans (List.prefix_append _ _)

/-- What is in the first line is in no other one. -/
theorem Holds.of_first (hending : ending = ['\n'] ∨ ending = ['\r', '\n'] ∨ ending = [])
    (hn : '\n' ∉ l.text) (hl : l.span = ⟨start, (bytesOf (l.text ++ ending)).length⟩)
    (hls : ∀ k ∈ ls, start + l.span.length ≤ k.span.offset)
    (hspan : span.offset = start + (bytesOf before).length)
    (hbefore : before ++ c :: after = l.text ++ ending) :
    Holds start span before [] l ls before := by
  have hlength := congrArg List.length hbefore
  have hbytes := congrArg (fun cs => (bytesOf cs).length) hbefore
  simp only [bytesOf_append, bytesOf_cons, List.length_append, List.length_cons,
    String.length_utf8EncodeChar] at hlength hbytes
  have hpositive := c.utf8Size_pos
  have hpart : before <+: l.text ++ ['\r'] := by
    refine prefix_of_lt hending ⟨_, hbefore⟩ ?_
    rw [List.length_append]
    omega
  have hnone : '\n' ∉ before := by
    intro hmem
    rcases List.mem_append.mp (hpart.subset hmem) with htext | hreturn
    · exact hn htext
    · exact absurd (List.mem_singleton.mp hreturn) (by decide)
  have hinside : span.offset < start + l.span.length := by
    rw [hl, hspan, bytesOf_append, List.length_append]
    dsimp only
    omega
  refine ⟨?_, ?_, (List.count_eq_zero.mpr hnone).symm, ⟨[], rfl, .inl rfl, ?_⟩, hnone, hpart⟩
  · rw [holds_iff, hspan]
    rw [hl] at hinside ⊢
    exact ⟨Nat.le_add_right _ _, hspan ▸ hinside⟩
  · exact fun k hk => holds_eq_false_iff.mpr (.inl (Nat.lt_of_lt_of_le hinside (hls k hk)))
  · rw [hl]
    rfl

/-- A line more in front. -/
theorem Holds.cons {line : List Char} (hcount : line.count '\n' = 1)
    (hlast : line.getLast? = some '\n') {k : Line} (hk : k.span = ⟨start, (bytesOf line).length⟩)
    (hspan : start + k.span.length ≤ span.offset)
    (h : Holds (start + k.span.length) span before front l back part) :
    Holds start span (line ++ before) (k :: front) l back part := by
  obtain ⟨whole, rfl, hwhole, hoffset⟩ := h.split
  refine ⟨h.holds, ?_, ?_, ⟨line ++ whole, ?_, .inr ?_, ?_⟩, h.not_mem_part, h.part_prefix⟩
  · refine List.forall_mem_cons.mpr ⟨holds_eq_false_iff.mpr (.inr ?_), h.only⟩
    rw [hk] at hspan ⊢
    exact hspan
  · have hsum : (line ++ (whole ++ part)).count '\n' = _ := List.count_append
    rw [List.length_cons, h.length_front, hsum, hcount, Nat.add_comm]
  · rw [List.append_assoc]
  · rcases hwhole with rfl | hwhole
    · rw [List.append_nil, hlast]
    · rw [List.getLast?_append, hwhole]
      rfl
  · rw [hoffset, hk, bytesOf_append, List.length_append, Nat.add_assoc]

/-- A character of two lists in turn is in the first one, or behind it. -/
theorem append_cons_eq_append {line rest : List Char}
    (h : before ++ c :: after = line ++ rest) :
    (∃ more, before ++ c :: more = line) ∨
      ∃ more, before = line ++ more ∧ more ++ c :: after = rest := by
  rcases List.append_eq_append_iff.mp h with ⟨more, hline, hmore⟩ | ⟨more, rfl, hrest⟩
  · cases more with
    | nil => exact .inr ⟨[], by rw [hline, List.append_nil, List.append_nil], hmore⟩
    | cons x more =>
        cases hmore
        exact .inl ⟨more, hline.symm⟩
  · exact .inr ⟨more, rfl, hrest.symm⟩

/-- Exactly one line holds each of the characters. -/
theorem Cut.exists_holds (h : Cut start (before ++ c :: after) ls)
    (hspan : span.offset = start + (bytesOf before).length) :
    ∃ front l back part, ls = front ++ l :: back ∧
      Holds start span before front l back part := by
  generalize hcs : before ++ c :: after = cs at h
  induction h generalizing before with
  | nil => exact absurd hcs (List.append_ne_nil_of_right_ne_nil _ (List.cons_ne_nil _ _))
  | @cons start k ls ending rest hending hn hk hrest ih =>
      rcases append_cons_eq_append hcs with ⟨more, hline⟩ | ⟨before, rfl, hbehind⟩
      · exact ⟨[], k, ls, before, rfl, .of_first (hending.imp_right fun h => h.imp_right And.left)
          hn hk hrest.le_offset hspan hline⟩
      · have hended : (k.text ++ ending).count '\n' = 1 ∧
            (k.text ++ ending).getLast? = some '\n' := by
          rw [List.count_append, List.count_eq_zero.mpr hn, List.getLast?_append]
          rcases hending with rfl | rfl | ⟨-, rfl⟩
          · exact ⟨rfl, rfl⟩
          · exact ⟨rfl, rfl⟩
          · exact absurd hbehind (List.append_ne_nil_of_right_ne_nil _ (List.cons_ne_nil _ _))
        have hoffset : span.offset = start + k.span.length + (bytesOf before).length := by
          rw [hspan, hk, bytesOf_append, List.length_append, Nat.add_assoc]
        obtain ⟨front, l, back, part, rfl, hholds⟩ := ih hoffset hbehind
        exact ⟨k :: front, l, back, part, rfl,
          hholds.cons hended.1 hended.2 hk (hoffset ▸ Nat.le_add_right _ _)⟩

/-! ### Cutting into lines -/

namespace Cutting

variable {s : Cutting}

structure Begun (s : Cutting) : Prop where
  offset : s.offset = s.lineStart + (bytesOf s.text.reverse).length
  not_mem : '\n' ∉ s.text

theorem Begun.push (h : s.Begun) {c : Char} (hc : c ≠ '\n') : (s.push c).Begun where
  offset := by
    change s.offset + c.utf8Size = s.lineStart + (bytesOf (c :: s.text).reverse).length
    rw [h.offset, List.reverse_cons, bytesOf_append, List.length_append, bytesOf_cons,
      bytesOf_nil, List.append_nil, String.length_utf8EncodeChar, Nat.add_assoc]
  not_mem := List.not_mem_cons_of_ne_of_not_mem hc.symm h.not_mem

theorem begun_restart (s : Cutting) : s.restart.Begun := ⟨rfl, List.not_mem_nil⟩

/-- The line begun ends here, and the others follow. -/
theorem Begun.cut (h : s.Begun) {ending : List Char}
    (hending : ending = ['\n'] ∨ ending = ['\r', '\n'] ∨ ending = [] ∧ cs = []) (number : Nat)
    (hls : Cut (s.offset + (bytesOf ending).length) cs ls) :
    Cut s.lineStart (s.text.reverse ++ (ending ++ cs))
      (⟨number, ⟨s.lineStart, s.offset + (bytesOf ending).length - s.lineStart⟩,
        s.text.reverse⟩ :: ls) := by
  have hbytes : s.offset + (bytesOf ending).length =
      s.lineStart + (bytesOf (s.text.reverse ++ ending)).length := by
    rw [h.offset, bytesOf_append, List.length_append, Nat.add_assoc]
  have hlength : s.offset + (bytesOf ending).length - s.lineStart =
      (bytesOf (s.text.reverse ++ ending)).length := by
    rw [hbytes, Nat.add_sub_cancel_left]
  rw [hlength, ← List.append_assoc]
  refine Cut.cons (l := ⟨number, _, s.text.reverse⟩) hending ?_ rfl (hbytes ▸ hls)
  exact fun hmem => h.not_mem (List.mem_reverse.mp hmem)

/-- The lines are those of the characters, and of the ones before them in the line begun. -/
theorem Begun.run_cut (h : s.Begun) (cs : List Char) (hnil : cs = [] → s.text = []) :
    Cut s.lineStart (s.text.reverse ++ cs) (s.run cs) := by
  fun_induction Cutting.run s cs with
  | case1 s =>
      rw [hnil rfl]
      exact .nil _
  | case2 s rest s' ih =>
      exact h.cut (.inr (.inl rfl)) _ (ih (begun_restart s') fun _ => rfl)
  | case3 s rest s' ih =>
      exact h.cut (.inl rfl) _ (ih (begun_restart s') fun _ => rfl)
  | case4 s c hc =>
      have hline : ((s.push c).endText c).line = ⟨((s.push c).endText c).number,
          ⟨s.lineStart, (s.push c).offset - s.lineStart⟩, (s.push c).text.reverse⟩ := by
        unfold endText
        split
        · rfl
        · rfl
      have hcut := (h.push hc).cut (.inr (.inr ⟨rfl, rfl⟩)) ((s.push c).endText c).number (.nil _)
      rw [List.append_nil, List.append_nil] at hcut
      rw [hline, ← List.reverse_cons]
      exact hcut
  | case5 s c rest hc hne hrest ih =>
      have hcut := ih (h.push hne) fun hnil => absurd hnil hrest
      have hpush : (s.push c).text.reverse ++ rest = s.text.reverse ++ c :: rest := by
        change (c :: s.text).reverse ++ rest = _
        rw [List.reverse_cons, List.append_assoc]
        rfl
      rw [← hpush]
      exact hcut

/-- The lines have numbers one after another, unless a carriage return is the last character: it
does not count the line that it is in. -/
theorem run_numbered (s : Cutting) (cs : List Char) (hlast : cs.getLast? ≠ some '\r') :
    Numbered (s.number + 1) (s.run cs) := by
  have hlater : ∀ {x : Char} {cs : List Char}, (x :: cs).getLast? ≠ some '\r' →
      cs.getLast? ≠ some '\r' := by
    intro x cs hne h
    rw [List.getLast?_cons, h] at hne
    exact hne rfl
  fun_induction Cutting.run s cs with
  | case1 s => exact .nil _
  | case2 s rest s' ih => exact .cons rfl (ih (hlater (hlater hlast)))
  | case3 s rest s' ih => exact .cons rfl (ih (hlater hlast))
  | case4 s c hc =>
      have hreturn : c ≠ '\r' := fun heq => hlast (congrArg some heq)
      refine .cons ?_ (.nil _)
      unfold endText
      rw [if_neg hreturn]
      rfl
  | case5 s c rest hc hne hrest ih => exact ih (hlater hlast)

end Cutting

end Line

/-! ### Where an excerpt begins and ends -/

/-- A line begins at the byte: at the beginning of the text, or behind an end of a line. -/
def BeginsLine (bytes : List UInt8) (i : Nat) : Prop :=
  i = 0 ∨ ∃ j b, i = j + 1 ∧ bytes[j]? = some b ∧ (b = 10 ∨ b = 13)

namespace Search

def first (s : Search) : Nat := s.before.head?.getD 0

/-- The excerpt begins where a line begins that is not behind the span, and if there are no
carriage returns it is known which line that is. -/
structure Anchored (span : Span) (bytes : List UInt8) (s : Search) : Prop where
  first_begins : BeginsLine bytes s.first
  first_le : s.first ≤ span.offset
  startLine_eq : 13 ∉ bytes → (bytes.take s.first).count 10 = s.startLine

structure Sound (span : Span) (bytes : List UInt8) (s : Search) : Prop
    extends Anchored span bytes s where
  few : s.before.length ≤ 1
  lineStart_begins : BeginsLine bytes s.lineStart
  lineStart_le : s.lineStart ≤ s.offset
  line_eq : 13 ∉ bytes → s.offset ≤ span.offset →
    (bytes.take s.lineStart).count 10 = s.startLine + s.before.length
  inLine : 13 ∉ bytes → (bytes.take s.offset).count 10 = (bytes.take s.lineStart).count 10

def Progress.Sound (span : Span) (bytes : List UInt8) (n : Nat) : Progress → Prop
  | .more s => s.Sound span bytes ∧ s.offset = n
  | .done s => s.Anchored span bytes ∧ span.offset < s.offset

variable {span : Span} {bytes rest : List UInt8} {s : Search} {b : UInt8} {n : Nat}

theorem count_take_succ {i : Nat} (hb : bytes[i]? = some b) :
    (bytes.take (i + 1)).count 10 = (bytes.take i).count 10 + if b = 10 then 1 else 0 := by
  rw [List.take_add_one, hb, List.count_append, Option.toList_some, List.count_singleton]
  simp only [beq_iff_eq]

theorem sound_start (span : Span) (bytes : List UInt8) : Sound span bytes {} where
  first_begins := .inl rfl
  first_le := Nat.zero_le _
  startLine_eq _ := rfl
  few := Nat.zero_le _
  lineStart_begins := .inl rfl
  lineStart_le := Nat.le_refl _
  line_eq _ _ := rfl
  inLine _ := rfl

/-- Nothing is known of the other fields. -/
theorem Sound.congr {s' : Search} (h : s.Sound span bytes) (hoffset : s'.offset = s.offset)
    (hstartLine : s'.startLine = s.startLine) (hlineStart : s'.lineStart = s.lineStart)
    (hbefore : s'.before = s.before) : s'.Sound span bytes := by
  cases s
  cases s'
  dsimp only at hoffset hstartLine hlineStart hbefore
  subst hoffset hstartLine hlineStart hbefore
  exact ⟨⟨h.first_begins, h.first_le, h.startLine_eq⟩, h.few, h.lineStart_begins, h.lineStart_le,
    h.line_eq, h.inLine⟩

theorem Sound.next (h : s.Sound span bytes) (hb : bytes[s.offset]? = some b) (hne : b ≠ 10) :
    s.next.Sound span bytes where
  toAnchored := ⟨h.first_begins, h.first_le, h.startLine_eq⟩
  few := h.few
  lineStart_begins := h.lineStart_begins
  lineStart_le := Nat.le_succ_of_le h.lineStart_le
  line_eq hreturn hle := h.line_eq hreturn (Nat.le_of_succ_le hle)
  inLine hreturn := by
    change (bytes.take (s.offset + 1)).count 10 = _
    rw [count_take_succ hb, if_neg hne]
    exact h.inLine hreturn

theorem Sound.countLine (h : s.Sound span bytes) : s.countLine.Sound span bytes := by
  unfold Search.countLine
  split
  · exact h.congr rfl rfl rfl rfl
  · exact h.congr rfl rfl rfl rfl

theorem offset_countLine (s : Search) : s.countLine.offset = s.offset := by
  unfold countLine
  split
  · rfl
  · rfl

theorem offset_keepLine (s : Search) : (s.keepLine 1).offset = s.offset := by
  unfold keepLine
  dsimp only
  split
  · rfl
  · rfl

/-- Beyond the beginning of the span, the end of a line changes where the next one begins. -/
theorem Sound.restart (h : s.Sound span bytes) (hb : bytes[s.offset]? = some b)
    (hend : b = 10 ∨ b = 13) (hle : span.offset ≤ s.offset) :
    ({ s with lineStart := s.offset + 1 } : Search).next.Sound span bytes where
  toAnchored := ⟨h.first_begins, h.first_le, h.startLine_eq⟩
  few := h.few
  lineStart_begins := .inr ⟨s.offset, b, rfl, hb, hend⟩
  lineStart_le := Nat.le_refl _
  line_eq _ hle' := absurd hle' (Nat.not_le.mpr (Nat.lt_succ_of_le hle))
  inLine _ := rfl

theorem before_keepLine (hfew : s.before.length ≤ 1) :
    (s.keepLine 1).before = [s.lineStart] ∧
      (s.keepLine 1).startLine = s.startLine + s.before.length := by
  unfold keepLine
  rcases hbefore : s.before with _ | ⟨i, _ | ⟨j, more⟩⟩
  · exact ⟨rfl, rfl⟩
  · exact ⟨rfl, rfl⟩
  · rw [hbefore] at hfew
    exact absurd (Nat.le_of_succ_le_succ hfew) (Nat.not_succ_le_zero _)

/-- In front of the span, it changes also where the excerpt begins: with the line that ends. -/
theorem Sound.keepLine (h : s.Sound span bytes) (hb : bytes[s.offset]? = some b)
    (hend : b = 10 ∨ b = 13) (hlt : s.offset < span.offset) :
    let kept := s.keepLine 1
    ({ kept with lineStart := kept.offset + 1 } : Search).next.Sound span bytes := by
  intro kept
  obtain ⟨hbefore, hstartLine⟩ := before_keepLine h.few
  have hline : 13 ∉ bytes → (bytes.take s.lineStart).count 10 = s.startLine + s.before.length :=
    fun hreturn => h.line_eq hreturn hlt.le
  let behind : Search :=
    { offset := s.offset + 1, startLine := s.startLine + s.before.length,
      lineStart := s.offset + 1, before := [s.lineStart] }
  have hbehind : behind.Sound span bytes := by
    refine ⟨⟨h.lineStart_begins, h.lineStart_le.trans hlt.le, hline⟩, Nat.le_refl 1,
      .inr ⟨s.offset, b, rfl, hb, hend⟩, Nat.le_refl _, ?_, fun _ => rfl⟩
    intro hreturn _
    have hfeed : b = 10 :=
      hend.resolve_right fun heq => hreturn (heq ▸ List.mem_of_getElem? hb)
    change (bytes.take (s.offset + 1)).count 10 = s.startLine + s.before.length + 1
    rw [count_take_succ hb, if_pos hfeed, h.inLine hreturn, hline hreturn]
  have hoffset : kept.offset + 1 = s.offset + 1 := congrArg (· + 1) s.offset_keepLine
  exact hbehind.congr hoffset hstartLine hoffset hbefore

variable (hspan : 0 < span.length)

include hspan

theorem settle_sound (h : s.next.Sound span bytes) (hn : s.offset + 1 = n) :
    (settle span 1 s).Sound span bytes n := by
  have hpassed : ({ s with passed := true } : Search).next.Sound span bytes :=
    h.congr rfl rfl rfl rfl
  unfold settle
  split
  · rename_i hle
    dsimp only
    split
    · refine ⟨hpassed.toAnchored, ?_⟩
      change span.offset < s.offset + 1
      omega
    · exact ⟨hpassed, hn⟩
  · exact ⟨h, hn⟩

theorem pass_sound (h : s.Sound span bytes) (hb : bytes[s.offset]? = some b) (hne : b ≠ 10) :
    (pass span 1 s).Sound span bytes (s.offset + 1) := by
  have hnext := h.next hb hne
  unfold pass
  split
  · exact settle_sound hspan (hnext.congr rfl rfl rfl rfl) rfl
  · exact settle_sound hspan hnext rfl

theorem endLine_sound (h : s.Sound span bytes) (hb : bytes[s.offset]? = some b)
    (hend : b = 10 ∨ b = 13) : (endLine span 1 s).Sound span bytes (s.offset + 1) := by
  unfold endLine
  dsimp only
  split
  · rename_i hlt
    exact settle_sound hspan (h.keepLine hb hend hlt) (congrArg (· + 1) s.offset_keepLine)
  · rename_i hge
    have hle := Nat.le_of_not_lt hge
    split
    · have hcount := h.countLine
      have hoffset := s.offset_countLine
      split
      · refine ⟨⟨hcount.first_begins, hcount.first_le, hcount.startLine_eq⟩, ?_⟩
        change span.offset < s.countLine.offset + 1
        rw [hoffset]
        exact Nat.lt_succ_of_le hle
      · exact settle_sound hspan (hcount.restart (hoffset.symm ▸ hb) hend (hoffset.symm ▸ hle))
          (congrArg (· + 1) hoffset)
    · exact settle_sound hspan (h.restart hb hend hle) rfl

/-- One byte that is not a carriage return in front of a line feed. -/
theorem step_sound (h : s.Sound span bytes) (hb : bytes[s.offset]? = some b) :
    (if b = 13 ∨ b = 10 then endLine span 1 s else pass span 1 s).Sound span bytes
      (s.offset + 1) := by
  split
  · rename_i hend
    exact endLine_sound hspan h hb hend.symm
  · rename_i hne
    exact pass_sound hspan h hb fun hfeed => hne (.inr hfeed)

/-- The search ends beyond the beginning of a span that is in the text. -/
theorem run_sound (hinside : span.offset < bytes.length) (h : s.Sound span bytes)
    (hrest : bytes.drop s.offset = rest) :
    (run span 1 s rest).Anchored span bytes ∧ span.offset < (run span 1 s rest).offset := by
  have hread : ∀ {i : Nat} {b : UInt8} {rest : List UInt8}, bytes.drop i = b :: rest →
      bytes[i]? = some b ∧ bytes.drop (i + 1) = rest := by
    intro i b rest hdrop
    rw [← List.head?_drop, ← List.tail_drop, hdrop]
    exact ⟨rfl, rfl⟩
  fun_induction run span 1 s rest with
  | case1 s => exact ⟨h.toAnchored, Nat.lt_of_lt_of_le hinside (List.drop_eq_nil_iff.mp hrest)⟩
  | case2 s rest s' hmore ih =>
      obtain ⟨hreturn, hbehind⟩ := hread hrest
      obtain ⟨hfeed, hbehind⟩ := hread hbehind
      have hsound := endLine_sound hspan (h.next hreturn (by decide)) hfeed (.inl rfl)
      rw [hmore] at hsound
      exact ih hsound.1 (hsound.2 ▸ hbehind)
  | case3 s rest s' hdone =>
      obtain ⟨hreturn, hbehind⟩ := hread hrest
      obtain ⟨hfeed, hbehind⟩ := hread hbehind
      have hsound := endLine_sound hspan (h.next hreturn (by decide)) hfeed (.inl rfl)
      rw [hdone] at hsound
      exact hsound
  | case4 s b rest hb s' hmore ih =>
      obtain ⟨hbyte, hbehind⟩ := hread hrest
      have hsound := step_sound hspan h hbyte
      rw [hmore] at hsound
      exact ih hsound.1 (hsound.2 ▸ hbehind)
  | case5 s b rest hb s' hdone =>
      have hsound := step_sound hspan h (hread hrest).1
      rw [hdone] at hsound
      exact hsound

end Search

section Excerpt

variable {span : Span} {cs before after part : List Char} {c : Char} {bytes : List UInt8}
  {start stop offset i : Nat}

/-- The excerpt begins with a line, not behind the byte, and goes on beyond it. If there are no
carriage returns, the line that it begins with has its number. -/
structure Excerpt.Frames (bytes : List UInt8) (i : Nat) (e : Excerpt) : Prop where
  begins : BeginsLine bytes e.start
  start_le : e.start ≤ i
  lt_stop : i < e.stop
  line_eq : 13 ∉ bytes → (bytes.take e.start).count 10 = e.line

theorem Excerpt.around_frames (hspan : 0 < span.length) (hinside : span.offset < bytes.length) :
    Frames bytes span.offset (around bytes span 1) := by
  obtain ⟨hanchored, hstop⟩ :=
    Search.run_sound hspan hinside (Search.sound_start span bytes) List.drop_zero
  exact ⟨hanchored.first_begins, hanchored.first_le, hstop, hanchored.startLine_eq⟩

/-- Where a line begins, a character begins, and the one before it ended a line. -/
theorem BeginsLine.exists_split (h : BeginsLine (bytesOf cs) i) :
    ∃ before after, cs = before ++ after ∧ i = (bytesOf before).length ∧
      ∀ x ∈ before.getLast?, x = '\n' ∨ x = '\r' := by
  induction cs generalizing i with
  | nil =>
      rcases h with rfl | ⟨j, b, rfl, hb, hend⟩
      · exact ⟨[], [], rfl, rfl, nofun⟩
      · cases hb
  | cons c cs ih =>
      rcases h with rfl | ⟨j, b, rfl, hb, hend⟩
      · exact ⟨[], c :: cs, rfl, rfl, nofun⟩
      · rw [bytesOf_cons] at hb
        rcases Nat.lt_or_ge j (String.utf8EncodeChar c).length with hj | hj
        · rw [List.getElem?_append_left hj] at hb
          have hmem := List.mem_of_getElem? hb
          have hascii : c.toNat < 0x80 := by
            by_contra hc
            have hle := le_toNat_of_mem (Nat.le_of_not_lt hc) hmem
            rcases hend with rfl | rfl
            · exact absurd hle (by decide)
            · exact absurd hle (by decide)
          obtain ⟨b', bytes, hencode⟩ := List.exists_cons_of_ne_nil
            (String.utf8EncodeChar_ne_nil (c := c))
          obtain ⟨hb', rfl⟩ := toNat_head_of_lt hascii hencode
          rw [hencode] at hj hmem
          rw [List.mem_singleton] at hmem
          subst hmem
          refine ⟨[c], cs, rfl, ?_, ?_⟩
          · rw [bytesOf_cons, bytesOf_nil, List.append_nil, hencode]
            exact congrArg (· + 1) (Nat.lt_one_iff.mp hj)
          · rintro _ ⟨⟩
            refine hend.imp ?_ ?_
            · rintro rfl
              exact Char.toNat_inj.mp hb'.symm
            · rintro rfl
              exact Char.toNat_inj.mp hb'.symm
        · rw [List.getElem?_append_right hj] at hb
          obtain ⟨before, after, rfl, hlength, hlast⟩ := ih (.inr ⟨_, b, rfl, hb, hend⟩)
          refine ⟨c :: before, after, rfl, ?_, ?_⟩
          · rw [bytesOf_cons, List.length_append]
            omega
          · cases before with
            | nil => simp at hlength
            | cons x before => exact hlast

namespace Line

theorem charsBetween_append (h : offset + (bytesOf before).length ≤ start) (stop : Nat)
    (cs : List Char) : charsBetween start stop offset (before ++ cs) =
      charsBetween start stop (offset + (bytesOf before).length) cs := by
  induction before generalizing offset with
  | nil => rfl
  | cons c before ih =>
      rw [bytesOf_cons, List.length_append, String.length_utf8EncodeChar, ← Nat.add_assoc] at h ⊢
      have hpositive := c.utf8Size_pos
      rw [List.cons_append, charsBetween, if_neg (by omega), ih h]

theorem charsBetween_of_le (h : stop ≤ offset) (cs : List Char) :
    charsBetween start stop offset cs = [] := by
  induction cs generalizing offset with
  | nil => rfl
  | cons c cs ih =>
      rw [charsBetween, if_neg (by omega)]
      exact ih (Nat.le_add_right_of_le h)

/-- From its first character on, an excerpt holds all of them up to its end. -/
theorem charsBetween_prefix (h : start ≤ offset) (cs : List Char) :
    ∃ more, charsBetween start stop offset cs ++ more = cs ∧
      (more = [] ∨ stop ≤ offset + (bytesOf (charsBetween start stop offset cs)).length) := by
  induction cs generalizing offset with
  | nil => exact ⟨[], rfl, .inl rfl⟩
  | cons c cs ih =>
      rw [charsBetween]
      split
      · obtain ⟨more, hmore, hstop⟩ := ih (Nat.le_add_right_of_le h)
        refine ⟨more, congrArg (c :: ·) hmore, hstop.imp_right ?_⟩
        intro hle
        rw [bytesOf_cons, List.length_append, String.length_utf8EncodeChar, ← Nat.add_assoc]
        exact hle
      · rename_i hbeyond
        have hle : stop ≤ offset := by omega
        rw [charsBetween_of_le (Nat.le_add_right_of_le hle)]
        exact ⟨c :: cs, rfl, .inr (Nat.le_add_right_of_le hle)⟩

/-- What an excerpt around a character shows is a piece of the text with that character. -/
theorem charsBetween_of_frames {e : Excerpt} (h : e.Frames (bytesOf cs) (bytesOf before).length)
    (hcs : cs = before ++ c :: after) :
    ∃ skipped shown behind hidden, before = skipped ++ shown ∧ after = behind ++ hidden ∧
      e.start = (bytesOf skipped).length ∧ (∀ x ∈ skipped.getLast?, x = '\n' ∨ x = '\r') ∧
      charsBetween e.start e.stop 0 cs = shown ++ c :: behind := by
  have hpositive := c.utf8Size_pos
  obtain ⟨skipped, rest, hsplit, hlength, hlast⟩ := h.begins.exists_split
  obtain ⟨shown, rfl, hrest⟩ : ∃ shown, before = skipped ++ shown ∧ shown ++ c :: after = rest := by
    refine (append_cons_eq_append (hcs.symm.trans hsplit)).resolve_left ?_
    rintro ⟨more, rfl⟩
    have hle := h.start_le
    rw [hlength, bytesOf_append, List.length_append, bytesOf_cons, List.length_append,
      String.length_utf8EncodeChar] at hle
    omega
  -- The excerpt goes on beyond the character, so it does not end in front of it.
  obtain ⟨more, hmore, hend⟩ : ∃ more, charsBetween e.start e.stop e.start rest ++ more = rest ∧
      (more = [] ∨
        e.stop ≤ e.start + (bytesOf (charsBetween e.start e.stop e.start rest)).length) :=
    charsBetween_prefix (Nat.le_refl e.start) rest
  obtain ⟨behind, hbehind⟩ : ∃ behind,
      shown ++ c :: behind = charsBetween e.start e.stop e.start rest := by
    refine (append_cons_eq_append (hrest.trans hmore.symm)).resolve_right ?_
    rintro ⟨shown', hshown', hbeyond⟩
    rcases hend with rfl | hle
    · exact absurd hbeyond (List.append_ne_nil_of_right_ne_nil _ (List.cons_ne_nil _ _))
    · have hlt := h.lt_stop
      rw [hshown', bytesOf_append, bytesOf_append, List.length_append, List.length_append] at hlt
      omega
  have hafter : after = behind ++ more := by
    rw [← hbehind, ← hrest, List.append_assoc] at hmore
    exact (List.cons_inj_right c).mp (List.append_cancel_left hmore).symm
  refine ⟨skipped, shown, behind, more, rfl, hafter, hlength, hlast, ?_⟩
  have hle : 0 + (bytesOf skipped).length ≤ e.start := by
    rw [Nat.zero_add, hlength]
  rw [hsplit, charsBetween_append hle, Nat.zero_add, ← hlength, hbehind]

theorem charsBefore_append (part more : List Char) :
    charsBefore (bytesOf part).length (part ++ more) = part := by
  induction part with
  | nil =>
      cases more with
      | nil => rfl
      | cons c more => exact if_neg (Nat.not_le.mpr c.utf8Size_pos)
  | cons c part ih =>
      rw [bytesOf_cons, List.length_append, String.length_utf8EncodeChar, List.cons_append,
        charsBefore, if_pos (Nat.le_add_right _ _), Nat.add_sub_cancel_left, ih]

/-- Characters other than tabs and carriage returns take a column each. -/
theorem width_eq (hcs : '\t' ∉ cs ∧ '\r' ∉ cs) (column : Nat) :
    width column cs = column + cs.length := by
  fun_induction width column cs with
  | case1 => rfl
  | case2 column cs ih => exact absurd (List.mem_cons_self ..) hcs.1
  | case3 column cs ih => exact absurd (List.mem_cons_self ..) hcs.2
  | case4 column c cs _ _ ih =>
      rw [ih ⟨fun h => hcs.1 (List.mem_cons_of_mem _ h), fun h => hcs.2 (List.mem_cons_of_mem _ h)⟩,
        List.length_cons, Nat.add_assoc, Nat.add_comm 1]

/-- The column at a character is that behind the part of the line in front of it. -/
theorem Holds.columnAt_eq {l : Line} {front back : List Line}
    (h : Holds start span before front l back part)
    (hspan : span.offset = start + (bytesOf before).length)
    (hpart : '\t' ∉ part ∧ '\r' ∉ part) : l.columnAt span.offset = part.length := by
  obtain ⟨whole, rfl, -, hoffset⟩ := h.split
  have hbytes : span.offset - l.span.offset = (bytesOf part).length := by
    rw [hspan, hoffset, bytesOf_append, List.length_append]
    omega
  obtain ⟨more, htext⟩ : part <+: l.text := by
    rcases List.prefix_concat_iff.mp h.part_prefix with hall | hpart'
    · exact absurd (hall ▸ List.mem_append_right _ (List.mem_singleton_self _)) hpart.2
    · exact hpart'
  rw [columnAt, hbytes, ← htext]
  rw [if_neg ?_, charsBefore_append, width_eq hpart, Nat.zero_add]
  rw [utf8ByteSize_ofList, bytesOf_append, List.length_append]
  omega

end Line

end Excerpt

/-! ### Reports -/

theorem inLastLine_append {whole part : List Char} (hwhole : ∀ x ∈ whole.getLast?, x = '\n')
    (hpart : '\n' ∉ part) : Location.inLastLine (whole ++ part) = part.length := by
  have hnone : whole.reverse.takeWhile (· ≠ '\n') = [] := by
    cases hreverse : whole.reverse with
    | nil => rfl
    | cons x rest =>
        have hx : x = '\n' := hwhole x (by rw [List.getLast?_eq_head?_reverse, hreverse]; rfl)
        exact List.takeWhile_cons_of_neg (by simp [hx])
  have hall : ∀ x ∈ part.reverse, decide (x ≠ '\n') = true := by
    intro x hx
    rw [decide_eq_true_iff]
    rintro rfl
    exact hpart (List.mem_reverse.mp hx)
  unfold Location.inLastLine
  rw [List.reverse_append, List.takeWhile_append_of_pos hall, hnone, List.append_nil,
    List.length_reverse]

variable {d : Diagnostic} {before after : List Char} {c : Char}

theorem frames_excerpt (htext : d.text.toList = before ++ c :: after)
    (hspan : d.span = ⟨(bytesOf before).length, c.utf8Size⟩) :
    (d.excerpt 1).Frames (bytesOf d.text.toList) (bytesOf before).length := by
  have hpositive := c.utf8Size_pos
  have hinside : d.span.offset < (bytesOf d.text.toList).length := by
    rw [htext, hspan, bytesOf_append, List.length_append, bytesOf_cons, List.length_append,
      String.length_utf8EncodeChar]
    dsimp only
    omega
  have hframes := Excerpt.around_frames (hspan ▸ hpositive) hinside
  rw [hspan] at hframes
  rw [excerpt, hspan]
  exact hframes

/-- The lines around a character are those of a piece of the text that begins with a line and has
the character in it. Without carriage returns, they have their numbers in the text. -/
theorem lines_cut (htext : d.text.toList = before ++ c :: after)
    (hspan : d.span = ⟨(bytesOf before).length, c.utf8Size⟩) :
    ∃ skipped shown behind hidden, before = skipped ++ shown ∧ after = behind ++ hidden ∧
      (∀ x ∈ skipped.getLast?, x = '\n' ∨ x = '\r') ∧
      Line.Cut (bytesOf skipped).length (shown ++ c :: behind) d.lines ∧
      ('\r' ∉ d.text.toList → Line.Numbered (skipped.count '\n' + 1) d.lines) := by
  have hframes := frames_excerpt htext hspan
  obtain ⟨skipped, shown, behind, hidden, rfl, rfl, hlength, hlast, hshown⟩ :=
    Line.charsBetween_of_frames hframes htext
  have hlines : d.lines = Line.Cutting.run ⟨(d.excerpt 1).line, (d.excerpt 1).column,
      (d.excerpt 1).start, (d.excerpt 1).start, []⟩ (shown ++ c :: behind) :=
    congrArg _ hshown
  rw [hlines]
  refine ⟨skipped, shown, behind, hidden, rfl, rfl, hlast, ?_, ?_⟩
  · rw [← hlength]
    have hbegun : Line.Cutting.Begun ⟨(d.excerpt 1).line, (d.excerpt 1).column,
        (d.excerpt 1).start, (d.excerpt 1).start, []⟩ := ⟨rfl, List.not_mem_nil⟩
    exact hbegun.run_cut _ fun _ => rfl
  · intro hreturn
    have hbytes : 13 ∉ bytesOf d.text.toList := by
      rw [← List.count_eq_zero] at hreturn ⊢
      exact (count_bytesOf (a := '\r') (by decide) _).trans hreturn
    have hline : skipped.count '\n' = (d.excerpt 1).line := by
      rw [← hframes.line_eq hbytes, hlength, htext, List.append_assoc, bytesOf_append,
        List.take_left]
      exact (count_bytesOf (a := '\n') (by decide) _).symm
    rw [hline]
    refine Line.Cutting.run_numbered ⟨(d.excerpt 1).line, _, _, _, _⟩ _ ?_
    intro hlast
    have hmem := List.mem_of_getLast? hlast
    refine hreturn ?_
    rw [htext, List.append_assoc, ← List.cons_append, ← List.append_assoc shown]
    exact List.mem_append_right _ (List.mem_append_left _ hmem)

/-- Exactly one line of a report holds the character in question, which is where the report points
at. In a text without carriage returns, that line has the number of the location, and the marks
begin in its column if there is no tab in front of them. -/
theorem report_points_once (h : d.error.position < d.text.length) :
    ∃ front l back, d.lines = front ++ l :: back ∧ l.holds d.span = true ∧
      (∀ k ∈ front ++ back, k.holds d.span = false) ∧
      ('\r' ∉ d.text.toList → l.number = d.location.line ∧
        ('\t' ∉ d.text.toList → l.columnAt d.span.offset + 1 = d.location.column)) := by
  rw [← String.length_toList] at h
  let before := d.text.toList.take d.error.position
  let c := d.text.toList[d.error.position]
  have htext : d.text.toList = before ++ c :: d.text.toList.drop (d.error.position + 1) := by
    rw [← List.drop_eq_getElem_cons h, List.take_append_drop]
  have hspan : d.span = ⟨(bytesOf before).length, c.utf8Size⟩ := by
    rw [span, Location.find, Location.locate_eq, Nat.zero_add, utf8ByteSize_ofList,
      List.getElem?_eq_getElem h, Location.encodedLength, String.length_utf8EncodeChar]
  have hlocation : d.location = ⟨1 + before.count '\n', 1 + Location.inLastLine before⟩ :=
    (Location.of_eq _ _).trans (Location.behind_eq before)
  clear_value before c
  obtain ⟨skipped, shown, behind, hidden, rfl, -, hlast, hcut, hnumbered⟩ := lines_cut htext hspan
  have hoffset : d.span.offset = (bytesOf skipped).length + (bytesOf shown).length := by
    rw [hspan, bytesOf_append, List.length_append]
  obtain ⟨front, l, back, part, hlines, hholds⟩ := hcut.exists_holds hoffset
  refine ⟨front, l, back, hlines, hholds.holds, hholds.only, ?_⟩
  intro hreturn
  have hnumber := (hlines ▸ hnumbered hreturn).number_eq
  refine ⟨?_, ?_⟩
  · rw [hnumber, hholds.length_front, hlocation, List.count_append]
    dsimp only
    omega
  · intro htab
    obtain ⟨whole, rfl, hwhole, -⟩ := hholds.split
    have hmem : ∀ x ∈ skipped ++ (whole ++ part), x ∈ d.text.toList := by
      intro x hx
      rw [htext]
      exact List.mem_append_left _ hx
    have hpart : ∀ x, x ∉ d.text.toList → x ∉ part := by
      intro x hx hxpart
      exact hx (hmem x (List.mem_append_right _ (List.mem_append_right _ hxpart)))
    have hwhole' : ∀ x ∈ (skipped ++ whole).getLast?, x = '\n' := by
      rcases hwhole with rfl | hended
      · rw [List.append_nil]
        intro x hx
        refine (hlast x hx).resolve_right ?_
        rintro rfl
        exact hreturn (hmem _ (List.mem_append_left _ (List.mem_of_getLast? hx)))
      · rw [List.getLast?_append, hended]
        rintro _ ⟨⟩
        rfl
    rw [hholds.columnAt_eq hoffset ⟨hpart _ htab, hpart _ hreturn⟩, hlocation,
      ← List.append_assoc, inLastLine_append hwhole' hholds.not_mem_part, Nat.add_comm]

end PredictiveParsing.Diagnostic
