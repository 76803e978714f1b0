import PredictiveParsing.Automaton
import PredictiveParsing.Proofs.Utf8

/-!
# What automata recognize

`Automaton.Recognizes` is what a compiler of patterns promises of its automata. The pattern gives
the texts that match, each in front of what follows it, and the automaton is in a match state one
byte behind such a text, or behind the end of the input. A dead state is never left and is no match
state, and no byte of a text makes the automaton give up.

A character is fed byte by byte, so the automaton may die or give up inside it. Fed to the end, it
leads to the state behind all its bytes (`feedBytes_eq_live`), and otherwise there is a dead state
or one that gives up behind some of them (`exists_isDead_of_feedBytes_eq_dead`,
`exists_isQuit_of_feedBytes_eq_quit`).

The automaton of a list of words keeps the promise (`ofWords_recognizes`).
-/

namespace PredictiveParsing.Automaton

open Text.Utf8

variable {a : Automaton} {s s' start : a.State} {b : UInt8} {bytes more : List UInt8} {c : Char}
  {text rest : List Char} {M : List Char → List Char → Prop}

/-! ### Runs -/

def run (a : Automaton) (s : a.State) (bytes : List UInt8) : a.State := bytes.foldl a.next s

theorem run_append (s : a.State) (bytes more : List UInt8) :
    a.run s (bytes ++ more) = a.run (a.run s bytes) more :=
  List.foldl_append

theorem feedBytes_eq_live (h : a.feedBytes s bytes = .live s') : s' = a.run s bytes := by
  induction bytes generalizing s with
  | nil =>
      cases h
      rfl
  | cons b bytes ih =>
      rw [feedBytes] at h
      split at h
      · cases h
      · split at h
        · cases h
        · exact ih h

theorem exists_isDead_of_feedBytes_eq_dead (h : a.feedBytes s bytes = .dead) :
    ∃ front back, bytes = front ++ back ∧ a.isDead (a.run s front) = true := by
  induction bytes generalizing s with
  | nil => cases h
  | cons b bytes ih =>
      rw [feedBytes] at h
      split at h
      · rename_i hdead
        exact ⟨[b], bytes, rfl, hdead⟩
      · split at h
        · cases h
        · obtain ⟨front, back, rfl, hdead⟩ := ih h
          exact ⟨b :: front, back, rfl, hdead⟩

theorem exists_isQuit_of_feedBytes_eq_quit (h : a.feedBytes s bytes = .quit) :
    ∃ front, a.isQuit (a.run s front) = true := by
  induction bytes generalizing s with
  | nil => cases h
  | cons b bytes ih =>
      rw [feedBytes] at h
      split at h
      · cases h
      · split at h
        · rename_i hquit
          exact ⟨[b], hquit⟩
        · obtain ⟨front, hquit⟩ := ih h
          exact ⟨b :: front, hquit⟩

theorem exists_utf8EncodeChar (c : Char) : ∃ b bytes, String.utf8EncodeChar c = b :: bytes := by
  obtain ⟨b, bytes, hencode, -⟩ := readChar_encoding c []
  exact ⟨b, bytes, hencode⟩

theorem matchesBefore_eq (hencode : String.utf8EncodeChar c = b :: bytes) :
    a.matchesBefore s c = a.isMatch (a.next s b) := by
  rw [matchesBefore, hencode]

/-! ### What a compiler promises -/

/-- From `start` on, the automaton tells what matches: `M text rest` says that all of `text` does,
where a text begins with it and goes on with `rest`. -/
structure Recognizes (a : Automaton) (start : a.State) (M : List Char → List Char → Prop) :
    Prop where
  /-- One byte behind a text, the automaton says whether it matches. -/
  before : ∀ text c rest {b bytes}, String.utf8EncodeChar c = b :: bytes →
    (a.isMatch (a.next (a.run start (bytesOf text)) b) = true ↔ M text (c :: rest))
  /-- So it does behind the end of the input. -/
  atEnd : ∀ text, a.isMatch (a.nextAtEnd (a.run start (bytesOf text))) = true ↔ M text []
  dead_next : ∀ {s} b, a.isDead s = true → a.isDead (a.next s b) = true
  dead_nextAtEnd : ∀ {s}, a.isDead s = true → a.isDead (a.nextAtEnd s) = true
  dead_isMatch : ∀ {s}, a.isDead s = true → a.isMatch s = false
  never_quits : ∀ bytes, a.isQuit (a.run start bytes) = false

namespace Recognizes

theorem isDead_run (h : a.Recognizes start M) (hdead : a.isDead s = true) (bytes : List UInt8) :
    a.isDead (a.run s bytes) = true := by
  induction bytes generalizing s with
  | nil => exact hdead
  | cons b bytes ih => exact ih (h.dead_next b hdead)

/-- No text matches whose bytes lead through a dead state. -/
theorem not_of_isDead (h : a.Recognizes start M) (hdead : a.isDead (a.run start bytes) = true)
    (htext : bytesOf text = bytes ++ more) (rest : List Char) : ¬M text rest := by
  have hbehind : a.isDead (a.run start (bytesOf text)) = true := by
    rw [htext, run_append]
    exact h.isDead_run hdead more
  cases rest with
  | nil =>
      rw [← h.atEnd, h.dead_isMatch (h.dead_nextAtEnd hbehind)]
      exact Bool.false_ne_true
  | cons c rest =>
      obtain ⟨b, bytes, hencode⟩ := exists_utf8EncodeChar c
      rw [← h.before text c rest hencode, h.dead_isMatch (h.dead_next b hbehind)]
      exact Bool.false_ne_true

theorem matchesBefore_iff (h : a.Recognizes start M) (text : List Char) (c : Char)
    (rest : List Char) :
    a.matchesBefore (a.run start (bytesOf text)) c = true ↔ M text (c :: rest) := by
  obtain ⟨b, bytes, hencode⟩ := exists_utf8EncodeChar c
  rw [matchesBefore_eq hencode]
  exact h.before text c rest hencode

/-! A character behind a text is fed to the end, or the automaton dies inside it. -/

theorem feed_eq_live (hfeed : a.feed (a.run start (bytesOf text)) c = .live s') :
    s' = a.run start (bytesOf (text ++ [c])) := by
  rw [feedBytes_eq_live hfeed, ← run_append, bytesOf_append, bytesOf_cons, bytesOf_nil,
    List.append_nil]

theorem not_of_feed_eq_dead (h : a.Recognizes start M)
    (hfeed : a.feed (a.run start (bytesOf text)) c = .dead) (more rest : List Char) :
    ¬M (text ++ c :: more) rest := by
  obtain ⟨front, back, hencode, hdead⟩ := exists_isDead_of_feedBytes_eq_dead hfeed
  rw [← run_append] at hdead
  have htext : bytesOf (text ++ c :: more) =
      (bytesOf text ++ front) ++ (back ++ bytesOf more) := by
    rw [bytesOf_append, bytesOf_cons, hencode, List.append_assoc, List.append_assoc]
  exact h.not_of_isDead hdead htext rest

theorem feed_ne_quit (h : a.Recognizes start M) (text : List Char) (c : Char) :
    a.feed (a.run start (bytesOf text)) c ≠ .quit := by
  intro hfeed
  obtain ⟨front, hquit⟩ := exists_isQuit_of_feedBytes_eq_quit hfeed
  rw [← run_append, h.never_quits] at hquit
  cases hquit

end Recognizes

/-! ### Words -/

def restBehind (b : UInt8) : List UInt8 → Option (List UInt8)
  | [] => none
  | x :: word => if x = b then some word else none

/-- What may be left of a word, and whether the text in front of the last byte was one. -/
abbrev Unread := List (List UInt8) × Bool

def Unread.behind (s : Unread) (b : UInt8) : Unread :=
  (s.1.filterMap (restBehind b), s.1.contains [])

def ofWords (words : List (List UInt8)) : Automaton where
  State := Unread
  start := .ok (words, false)
  next := Unread.behind
  nextAtEnd s := ([], s.1.contains [])
  isMatch s := s.2
  isDead s := s.1.isEmpty && !s.2
  isQuit _ := false

variable {words : List (List UInt8)} {word : List UInt8} {told : Bool}

theorem restBehind_eq_some_iff : restBehind b bytes = some word ↔ bytes = b :: word := by
  cases bytes with
  | nil => simp [restBehind]
  | cons x rest => simp [restBehind]

theorem mem_foldl_behind_iff :
    word ∈ (bytes.foldl Unread.behind (words, told)).1 ↔ bytes ++ word ∈ words := by
  induction bytes using List.reverseRecOn generalizing word with
  | nil => rfl
  | append_singleton bytes b ih =>
      rw [List.foldl_concat, Unread.behind]
      simp only [List.mem_filterMap, restBehind_eq_some_iff, exists_eq_right, ih,
        List.append_assoc, List.singleton_append]

/-- Behind the bytes of a text nothing may be left of one of some texts only if the text is it. -/
theorem contains_nil_foldl_behind_iff (texts : List (List Char)) (text : List Char) :
    ((bytesOf text).foldl Unread.behind (texts.map bytesOf, told)).1.contains [] = true ↔
      text ∈ texts := by
  rw [List.contains_iff_mem, mem_foldl_behind_iff, List.append_nil,
    List.mem_map_of_injective bytesOf_injective]

/-- The texts that match are the words, whatever follows them. -/
theorem ofWords_recognizes (texts : List (List Char)) :
    (ofWords (texts.map bytesOf)).Recognizes (texts.map bytesOf, false)
      fun text _ => text ∈ texts where
  before text _ _ := fun _ => contains_nil_foldl_behind_iff texts text
  atEnd := contains_nil_foldl_behind_iff texts
  dead_next := by
    rintro ⟨left, told⟩ b hdead
    obtain ⟨hleft, -⟩ := Bool.and_eq_true_iff.mp hdead
    obtain rfl := List.isEmpty_iff.mp hleft
    rfl
  dead_nextAtEnd := by
    rintro ⟨left, told⟩ hdead
    obtain ⟨hleft, -⟩ := Bool.and_eq_true_iff.mp hdead
    obtain rfl := List.isEmpty_iff.mp hleft
    rfl
  dead_isMatch := by
    rintro ⟨left, told⟩ hdead
    obtain ⟨-, htold⟩ := Bool.and_eq_true_iff.mp hdead
    exact Bool.not_eq_true' told |>.mp htold
  never_quits _ := rfl

end PredictiveParsing.Automaton
