import PredictiveParsing.Grammar.Json
import PredictiveParsing.Proofs.Phrases

/-!
# Printed documents

JSON texts are read back. How a value may be printed is a relation (`Json.Printed`), because white
space can stand behind every token and a hexadecimal digit can be a small or a capital letter.
Numbers have no printed form here. All other values have one (`Json.NumberFree.exists_printed`), and
whatever form it is, the value is read from it (`Json.reads_back`).

The proof goes by the printed form. A token takes all the white space behind it, so what follows it
has to begin with something else, which every value does. Each kind of value begins with a
character of its own, and the parsers of the others refuse that.
-/

namespace PredictiveParsing.Json

open Text (chr digits)

/-! ### The grammar -/

/-- A property of the whole grammar is one of the text and one of values. -/
theorem throughout {P : (α : Type) → Parser Char (fun _ => Json) α → Prop}
    (hstart : json.Everywhere P) (hbody : (valueBody (.rule 0)).Everywhere P) :
    rules.Throughout P json := by
  constructor
  · exact hstart
  · intro i body hi
    match i with
    | 0 =>
        cases hi
        exact hbody
    | _ + 1 => cases hi

theorem premade : rules.Throughout rules.Premade json := by
  refine throughout ?_ ?_
  · repeat' constructor
  · repeat' constructor

theorem isPremade : rules.Throughout Parser.IsPremade json := premade.mono fun _ _ h => h.1

theorem founded : rules.Throughout rules.Founded json := by
  refine throughout ?_ ?_
  · repeat' apply And.intro
    all_goals exact ⟨⟨_, _, rfl⟩, ⟨_, _, rfl⟩, trivial⟩
  · repeat' apply And.intro
    all_goals exact ⟨⟨_, _, rfl⟩, ⟨_, _, rfl⟩, trivial⟩

abbrev value : Parser Char (fun _ => Json) Json := .rule 0

def member : Parser Char (fun _ => Json) (String × Json) :=
  ((token stringLiteral).andL (punctuation ':')).and value

/-- Anything any number of times, with commas between, in brackets. -/
def enclosed {α : Type} (opening closing : Char) (p : Parser Char (fun _ => Json) α) :
    Parser Char (fun _ => Json) (List α) :=
  .between (punctuation opening) (punctuation closing) (p.sepBy (punctuation ','))

def kinds : List (Parser Char (fun _ => Json) Json) :=
  [(token (Text.string "null")).constant .null,
    (token (Text.string "true")).constant (.bool true),
    (token (Text.string "false")).constant (.bool false),
    (token numberLiteral).map .number,
    (token stringLiteral).map .str,
    (enclosed '[' ']' value).map .array,
    (enclosed '\x7b' '\x7d' member).map .object]

theorem body?_value : rules.body? 0 = some (Parser.choice kinds) := rfl

/-! ### Printed values -/

def Blank (w : List Char) : Prop := ∀ x ∈ w, Unicode.whiteSpace.contains x = true

theorem blank_nil : Blank [] := nofun

def hexDigit? (x : Char) : Option Nat :=
  if '0' ≤ x ∧ x ≤ '9' then some (x.toNat - '0'.toNat)
  else if 'a' ≤ x ∧ x ≤ 'f' then some (x.toNat - 'a'.toNat + 10)
  else if 'A' ≤ x ∧ x ≤ 'F' then some (x.toNat - 'A'.toNat + 10)
  else none

inductive Spelled : List Char → Char → Prop where
  | quote : Spelled ['\\', '"'] '"'
  | backslash : Spelled ['\\', '\\'] '\\'
  | control {x a b c d : Char} {i j k l : Nat} : Unicode.control.contains x = true →
      hexDigit? a = some i → hexDigit? b = some j → hexDigit? c = some k → hexDigit? d = some l →
      ((i * 16 + j) * 16 + k) * 16 + l = x.toNat → Spelled ['\\', 'u', a, b, c, d] x
  | raw {x : Char} : x ≠ '"' → x ≠ '\\' → Unicode.control.contains x = false → Spelled [x] x

inductive SpelledAll : List Char → List Char → Prop where
  | nil : SpelledAll [] []
  | cons {t u cs : List Char} {x : Char} :
      Spelled t x → SpelledAll u cs → SpelledAll (t ++ u) (x :: cs)

inductive Quoted : List Char → String → Prop where
  | intro {t w : List Char} {s : String} :
      SpelledAll t s.toList → Blank w → Quoted ('"' :: (t ++ '"' :: w)) s

/-- The parts of a document: values, the items of an array, the members of an object, and those
behind the first one. -/
inductive Part where
  | value (v : Json)
  | items (vs : List Json)
  | moreItems (vs : List Json)
  | member (m : String × Json)
  | members (ms : List (String × Json))
  | moreMembers (ms : List (String × Json))

/-- The texts of the parts of a document, with white space behind each token. -/
inductive Printed : Part → List Char → Prop where
  | null {w : List Char} : Blank w → Printed (.value .null) ("null".toList ++ w)
  | bool {b : Bool} {w : List Char} : Blank w →
      Printed (.value (.bool b)) ((toString b).toList ++ w)
  | str {t : List Char} {s : String} : Quoted t s → Printed (.value (.str s)) t
  | array {w w' t : List Char} {vs : List Json} : Blank w → Printed (.items vs) t → Blank w' →
      Printed (.value (.array vs)) ('[' :: w ++ t ++ ']' :: w')
  | noItems : Printed (.items []) []
  | items {t u : List Char} {v : Json} {vs : List Json} :
      Printed (.value v) t → Printed (.moreItems vs) u → Printed (.items (v :: vs)) (t ++ u)
  | lastItem : Printed (.moreItems []) []
  | moreItems {w t u : List Char} {v : Json} {vs : List Json} : Blank w →
      Printed (.value v) t → Printed (.moreItems vs) u →
        Printed (.moreItems (v :: vs)) (',' :: w ++ t ++ u)
  | object {w w' t : List Char} {ms : List (String × Json)} : Blank w → Printed (.members ms) t →
      Blank w' → Printed (.value (.object ms)) ('\x7b' :: w ++ t ++ '\x7d' :: w')
  | member {k t w : List Char} {s : String} {v : Json} : Quoted k s → Blank w →
      Printed (.value v) t → Printed (.member (s, v)) (k ++ ':' :: w ++ t)
  | noMembers : Printed (.members []) []
  | members {t u : List Char} {m : String × Json} {ms : List (String × Json)} :
      Printed (.member m) t → Printed (.moreMembers ms) u → Printed (.members (m :: ms)) (t ++ u)
  | lastMember : Printed (.moreMembers []) []
  | moreMembers {w t u : List Char} {m : String × Json} {ms : List (String × Json)} : Blank w →
      Printed (.member m) t → Printed (.moreMembers ms) u →
        Printed (.moreMembers (m :: ms)) (',' :: w ++ t ++ u)

/-! ### White space -/

theorem whiteSpace_eq : Unicode.whiteSpace = ⟨[(0x09, 0x0D), (0x20, 0x20), (0x85, 0x85),
    (0xA0, 0xA0), (0x1680, 0x1680), (0x2000, 0x200A), (0x2028, 0x2029), (0x202F, 0x202F),
    (0x205F, 0x205F), (0x3000, 0x3000)]⟩ := rfl

theorem control_eq : Unicode.control = ⟨[(0, 0x1F), (0x7F, 0x9F)]⟩ := rfl

def NoSpace (o : Option Char) : Prop := ∀ x ∈ o, Unicode.whiteSpace.contains x = false

theorem noSpace_of_mem {x : Char}
    (hx : x ∈ ['n', 't', 'f', '"', '[', ']', '\x7b', '\x7d', ',', ':']) : NoSpace (some x) := by
  have hall : (['n', 't', 'f', '"', '[', ']', '\x7b', '\x7d', ',', ':'].all fun x =>
      !Unicode.whiteSpace.contains x) = true := by
    rw [whiteSpace_eq]
    decide
  rintro _ ⟨⟩
  exact (Bool.not_eq_true' _).mp (List.all_eq_true.mp hall x hx)

variable {α : Type} {p : Parser Char (fun _ => Json) α} {a : α} {s t w : List Char}

theorem reads_skipWs (hw : Blank w) : rules.Reads Text.skipWs NoSpace w () := by
  have hsymbol : ∀ x ∈ w, rules.Reads Text.ws (fun _ => True) [x] x :=
    fun x hx => Rules.reads_symbolWhere (hw x hx) _
  have hpremade : rules.Throughout rules.Premade Text.ws :=
    premade.beside (by repeat' constructor)
  have hskip := Rules.Reads.skipMany hpremade (Rules.readsEach_symbols id hsymbol) ⟨rfl, rfl⟩
    (Rules.refuses_symbolWhere _) (fun _ _ => trivial)
  rwa [Rules.flatMap_symbols] at hskip

/-! ### Tokens -/

theorem reads_token (h : rules.Reads p (fun _ => True) t a) (hw : Blank w) :
    rules.Reads (token p) NoSpace (t ++ w) a :=
  h.andL (reads_skipWs hw) rfl (fun _ => rfl) fun _ _ => trivial

theorem reads_punctuation (x : Char) (hw : Blank w) :
    rules.Reads (punctuation x) NoSpace (x :: w) x :=
  reads_token (Rules.reads_value x) hw

theorem refuses_punctuation (x : Char) : rules.Refuses (punctuation x) (· ≠ some x) :=
  (Rules.refuses_value x).andL _

theorem reads_string {s : String} (hne : s ≠ "") :
    rules.Reads (Text.string s) (fun _ => True) s.toList s := by
  unfold Text.string
  cases hs : s.toList with
  | nil => exact absurd (String.toList_eq_nil_iff.mp hs) hne
  | cons x xs =>
      have hvalue : s = String.ofList (x :: xs) := by rw [← hs, String.ofList_toList]
      nth_rewrite 2 [hvalue]
      exact (Rules.reads_literal _ x xs).map String.ofList

theorem refuses_string {s : String} {x : Char} {xs : List Char} (hs : s.toList = x :: xs) :
    rules.Refuses (Text.string s) (· ≠ some x) := by
  unfold Text.string
  rw [hs]
  exact (Rules.refuses_literal _ x xs).map _

/-! ### Strings -/

theorem hexDigit?_eq_some {x : Char} {n : Nat} (h : hexDigit? x = some n) :
    (x.isDigit || ('a' ≤ x && x ≤ 'f') || ('A' ≤ x && x ≤ 'F')) = true ∧
      CharSet.hexDigitValue x = n := by
  unfold hexDigit? at h
  unfold CharSet.hexDigitValue
  split at h
  · rename_i hdigit
    cases h
    have hisDigit : x.isDigit = true := by
      simpa [Char.isDigit, Char.le_def] using hdigit
    exact ⟨by simp [hisDigit], if_pos hdigit⟩
  · rename_i hdigit
    rw [if_neg hdigit]
    split at h
    · rename_i hsmall
      cases h
      exact ⟨by simp [hsmall], if_pos hsmall⟩
    · rename_i hsmall
      rw [if_neg hsmall]
      split at h
      · rename_i hcapital
        cases h
        exact ⟨by simp [hcapital], if_pos hcapital⟩
      · cases h

theorem reads_hex {x : Char} {n : Nat} (h : hexDigit? x = some n) :
    rules.Reads hex (fun _ => True) [x] n := by
  obtain ⟨htest, rfl⟩ := hexDigit?_eq_some h
  refine .map _ (Rules.reads_symbolWhere ?_ _)
  exact htest

theorem ofCode?_toNat (x : Char) : ofCode? x.toNat = .ok x := by
  unfold ofCode?
  rw [if_pos (show x.toNat.isValidChar from x.valid), Char.ofNat_toNat]

/-- A code is written with a letter that stands for no character of its own. -/
theorem refuses_simple_escape : rules.Refuses (Parser.choice
    [.valueAs '"' '"', .valueAs '\\' '\\', .valueAs '/' '/', .valueAs 'b' '\x08',
      .valueAs 'f' '\x0c', .valueAs 'n' '\n', .valueAs 'r' '\r', .valueAs 't' '\t'])
    (· = some 'u') := by
  refine .choice (List.cons_ne_nil _ _) ?_ nofun
  simp only [List.forall_mem_cons, List.not_mem_nil, false_implies, implies_true, and_true]
  refine ⟨?_, ?_, ?_, ?_, ?_, ?_, ?_, ?_⟩
  all_goals exact (Rules.refuses_valueAs _ _).of_ne (by decide)

theorem reads_unicode {x a b c d : Char} {i j k l : Nat} (ha : hexDigit? a = some i)
    (hb : hexDigit? b = some j) (hc : hexDigit? c = some k) (hd : hexDigit? d = some l)
    (hcode : ((i * 16 + j) * 16 + k) * 16 + l = x.toNat) :
    rules.Reads (((chr 'u').andR (hex.replicate 4)).tryMap fun ds =>
        ofCode? (ds.foldl (fun n d => 16 * n + d) 0)) (fun _ => True) ['u', a, b, c, d] x := by
  let items : List (List Char × Nat) := [([a], i), ([b], j), ([c], k), ([d], l)]
  have hdigit : ∀ {a : Char} {i : Nat} {items : List (List Char × Nat)}, hexDigit? a = some i →
      rules.ReadsEach hex (fun _ => True) items →
        rules.ReadsEach hex (fun _ => True) (([a], i) :: items) :=
    fun h => .cons (reads_hex h) (List.cons_ne_nil _ _) trivial
  have hitems : rules.ReadsEach hex (fun _ => True) items :=
    hdigit ha (hdigit hb (hdigit hc (hdigit hd .nil)))
  have hpremade : rules.Throughout rules.Premade hex :=
    premade.beside (by repeat' constructor)
  have hdigits : rules.Reads (hex.replicate 4) (fun _ => True) [a, b, c, d] [i, j, k, l] :=
    Rules.Reads.replicate hpremade hitems ⟨rfl, rfl⟩
  have hboth : rules.Reads ((chr 'u').andR (hex.replicate 4)) (fun _ => True)
      ['u', a, b, c, d] [i, j, k, l] :=
    (Rules.reads_value 'u').andR hdigits rfl nofun fun _ _ => trivial
  refine hboth.tryMap ?_
  have hfold : [i, j, k, l].foldl (fun n d => 16 * n + d) 0 = x.toNat := by
    simp only [List.foldl_cons, List.foldl_nil]
    omega
  rw [hfold, ofCode?_toNat]

theorem reads_escape {x : Char} {p : Parser Char (fun _ => Json) Char}
    (h : rules.Reads p (fun _ => True) t x) (hneeds : rules.AcceptsEmpty p false) (hne : t ≠ []) :
    rules.Reads ((chr '\\').andR p) (fun _ => True) ('\\' :: t) x :=
  (Rules.reads_value '\\').andR h hneeds (fun hnil => absurd hnil hne) fun _ _ => trivial

theorem refuses_plain {x : Char} (hx : x = '"' ∨ x = '\\') : rules.Refuses plain (· = some x) := by
  refine (Rules.refuses_symbolWhere _).mono ?_
  rintro _ rfl _ ⟨⟩
  rcases hx with rfl | rfl
  · rfl
  · rfl

theorem reads_spelled {x : Char} (h : Spelled t x) :
    rules.Reads (plain.or escape) (fun _ => True) t x := by
  have hsecond : ∀ {t : List Char}, rules.Reads escape (fun _ => True) ('\\' :: t) x →
      rules.Reads (plain.or escape) (fun _ => True) ('\\' :: t) x :=
    fun h => .or_right (refuses_plain (.inr rfl)) h (List.cons_ne_nil _ _) rfl
  cases h with
  | quote =>
      refine hsecond (reads_escape (.or_left _ (.choice (.here ?_) ?_) ?_) rfl ?_)
      · exact Rules.reads_valueAs '"' '"'
      all_goals exact List.cons_ne_nil _ _
  | backslash =>
      refine hsecond (reads_escape (.or_left _ (.choice (.later ?_ (.here ?_)) ?_) ?_) rfl ?_)
      · exact (Rules.refuses_valueAs '"' '"').of_ne (by decide)
      · exact Rules.reads_valueAs '\\' '\\'
      all_goals exact List.cons_ne_nil _ _
  | control _ ha hb hc hd hcode =>
      refine hsecond (reads_escape (.or_right refuses_simple_escape
        (reads_unicode ha hb hc hd hcode) ?_ rfl) rfl ?_)
      all_goals exact List.cons_ne_nil _ _
  | raw hquote hbackslash hcontrol =>
      refine .or_left _ (Rules.reads_symbolWhere ?_ _) (List.cons_ne_nil _ _)
      simp [hquote, hbackslash, hcontrol]

theorem Spelled.ne_nil {x : Char} (h : Spelled t x) : t ≠ [] := by
  cases h with
  | quote | backslash | control | raw => exact List.cons_ne_nil _ _

theorem SpelledAll.exists_items {cs : List Char} (h : SpelledAll t cs) :
    ∃ items : List (List Char × Char), t = items.flatMap Prod.fst ∧ cs = items.map Prod.snd ∧
      rules.ReadsEach (plain.or escape) (fun _ => True) items := by
  induction h with
  | nil => exact ⟨[], rfl, rfl, .nil⟩
  | @cons t u cs x hx _ ih =>
      obtain ⟨items, rfl, rfl, hitems⟩ := ih
      exact ⟨(t, x) :: items, rfl, rfl, .cons (reads_spelled hx) hx.ne_nil trivial hitems⟩

theorem reads_quoted {s : String} (h : Quoted t s) :
    rules.Reads (token stringLiteral) NoSpace t s := by
  obtain @⟨_, w, _, hcs, hw⟩ := h
  obtain ⟨items, rfl, hvalues, hitems⟩ := hcs.exists_items
  have hpremade : rules.Throughout rules.Premade (plain.or escape) :=
    premade.beside (by repeat' constructor)
  have hend : rules.Refuses (plain.or escape) (· = some '"') := by
    refine .or (refuses_plain (.inl rfl)) (((Rules.refuses_value '\\').andR _).of_ne ?_) nofun
    decide
  have hmany := Rules.Reads.many hpremade hitems ⟨rfl, rfl⟩ hend fun _ _ => trivial
  have hopened : rules.Reads ((chr '"').andR (plain.or escape).many) (· = some '"')
      ('"' :: items.flatMap Prod.fst) s.toList := by
    rw [hvalues]
    exact (Rules.reads_value '"').andR hmany rfl (fun _ => rfl) fun _ _ => trivial
  have hliteral : rules.Reads stringLiteral (fun _ => True)
      ('"' :: items.flatMap Prod.fst ++ ['"']) s := by
    have hclosed := hopened.andL (Rules.reads_value '"') rfl nofun fun _ _ => rfl
    rw [← String.ofList_toList (s := s)]
    exact hclosed.map String.ofList
  have htoken := reads_token hliteral hw
  rwa [List.append_assoc] at htoken

/-! ### Lists -/

/-- The text begins, and not with white space. -/
def Begins (t : List Char) : Prop := t ≠ [] ∧ NoSpace t.head?

theorem begins_cons {x : Char} (hx : NoSpace (some x)) (t : List Char) : Begins (x :: t) :=
  ⟨List.cons_ne_nil _ _, hx⟩

theorem Begins.append (h : Begins s) (t : List Char) : Begins (s ++ t) := by
  refine ⟨List.append_ne_nil_of_left_ne_nil h.1 t, ?_⟩
  rw [List.head?_append_of_ne_nil _ h.1]
  exact h.2

theorem Begins.next (h : Begins t) (o : Option Char) : NoSpace (t.head?.or o) := by
  obtain ⟨x, t, rfl⟩ := List.exists_cons_of_ne_nil h.1
  exact h.2

structure ReadsSolid (p : Parser Char (fun _ => Json) α) (t : List Char) (a : α) : Prop where
  begins : Begins t
  reads : rules.Reads p NoSpace t a

/-- Behind the first of a list, each item is read with the comma in front of it. -/
def ReadsMore (p : Parser Char (fun _ => Json) α) (t : List Char) (as : List α) : Prop :=
  ∃ items : List (List Char × α), t = items.flatMap Prod.fst ∧ as = items.map Prod.snd ∧
    rules.ReadsEach ((punctuation ',').andR p) NoSpace items

/-- A list is read where the bracket that closes it comes next. -/
structure ReadsList (p : Parser Char (fun _ => Json) α) (closing : Char) (t : List Char)
    (as : List α) : Prop where
  begins : t = [] ∨ Begins t
  reads : rules.Reads (p.sepBy (punctuation ',')) (· = some closing) t as

variable {as : List α} {u w' : List Char} {closing : Char}

theorem reads_comma (h : ReadsSolid p t a) (hneeds : rules.AcceptsEmpty p false) (hw : Blank w) :
    rules.Reads ((punctuation ',').andR p) NoSpace (',' :: w ++ t) a :=
  (reads_punctuation ',' hw).andR h.reads hneeds (fun hnil => absurd hnil h.begins.1) fun o _ =>
    h.begins.next o

theorem ReadsMore.nil : ReadsMore p [] [] := ⟨[], rfl, rfl, .nil⟩

theorem ReadsMore.cons (h : ReadsSolid p t a) (hneeds : rules.AcceptsEmpty p false)
    (hw : Blank w) (hmore : ReadsMore p u as) : ReadsMore p (',' :: w ++ t ++ u) (a :: as) := by
  obtain ⟨items, rfl, rfl, hitems⟩ := hmore
  refine ⟨(',' :: w ++ t, a) :: items, rfl, rfl, ?_⟩
  exact .cons (reads_comma h hneeds hw) (List.cons_ne_nil _ _) (noSpace_of_mem (by decide)) hitems

theorem ReadsList.nil (h : rules.Refuses p (· = some closing))
    (hneeds : rules.AcceptsEmpty (p.sepBy1 (punctuation ',')) false) :
    ReadsList p closing [] [] :=
  ⟨.inl rfl, h.reads_sepBy hneeds⟩

theorem ReadsList.cons (hp : p.Everywhere rules.Premade) (hclosing : closing ≠ ',')
    (hspace : NoSpace (some closing)) (h : ReadsSolid p t a) (hmore : ReadsMore p u as) :
    ReadsList p closing (t ++ u) (a :: as) := by
  obtain ⟨items, rfl, rfl, hitems⟩ := hmore
  have hpremade : rules.Throughout rules.Premade ((punctuation ',').andR p) :=
    premade.beside ⟨⟨trivial, trivial⟩, ⟨trivial, trivial⟩, by repeat' constructor, hp⟩
  refine ⟨.inr (h.begins.append _), ?_⟩
  refine .sepBy hpremade h.reads h.begins.1 hitems ⟨rfl, rfl⟩
    (((refuses_punctuation ',').andR _).of_ne hclosing) ?_
  rintro _ rfl
  exact hspace

/-- A list in brackets. -/
theorem reads_enclosed (opening : Char) (h : ReadsList p closing t as)
    (hspace : NoSpace (some closing)) (hw : Blank w) (hw' : Blank w') :
    rules.Reads (enclosed opening closing p) NoSpace (opening :: w ++ t ++ closing :: w') as := by
  have hopened : rules.Reads ((punctuation opening).andR (p.sepBy (punctuation ',')))
      (· = some closing) (opening :: w ++ t) as := by
    refine (reads_punctuation opening hw).andR h.reads rfl (fun _ => rfl) ?_
    rintro _ rfl
    rcases h.begins with rfl | hbegins
    · exact hspace
    · exact hbegins.next _
  exact hopened.andL (reads_punctuation closing hw') rfl nofun fun _ _ => rfl

/-! ### Values -/

/-- Where a symbol stands with which no number begins. -/
def NoNumber (o : Option Char) : Prop := ∃ x, o = some x ∧ x ≠ '-' ∧ x.isDigit = false

theorem refuses_number : rules.Refuses ((token numberLiteral).map Json.number) NoNumber := by
  have hsign : rules.Reads (chr '-').optional NoNumber [] none := by
    refine Rules.Refuses.reads_optional ((Rules.refuses_value '-').mono ?_) rfl
    rintro _ ⟨x, rfl, hx, _⟩ heq
    exact hx (Option.some.inj heq)
  have hdigits : rules.Refuses digits NoNumber := by
    refine .many1 ((Rules.refuses_symbolWhere _).mono ?_) rfl
    rintro _ ⟨x, rfl, _, hx⟩ _ ⟨⟩
    exact hx
  have hwhole : rules.Refuses ((chr '-').optional.and digits) NoNumber :=
    .and_right hsign hdigits rfl nofun
  exact ((((hwhole.and _).and _).tryMap _).andL _).map _

theorem refuses_word {word : String} {x : Char} {xs : List Char} (hword : word.toList = x :: xs)
    (v : Json) : rules.Refuses ((token (Text.string word)).constant v) (· ≠ some x) :=
  ((refuses_string hword).andL _).map _

theorem refuses_str : rules.Refuses ((token stringLiteral).map Json.str) (· ≠ some '"') :=
  ((((Rules.refuses_value '"').between _ _).map _).andL _).map _

theorem refuses_enclosed (opening closing : Char) (p : Parser Char (fun _ => Json) α) :
    rules.Refuses (enclosed opening closing p) (· ≠ some opening) :=
  (refuses_punctuation opening).between _ _

/-- No value begins with a bracket that closes one. -/
theorem refuses_value {x : Char} (hx : x = ']' ∨ x = '\x7d') :
    rules.Refuses value (· = some x) := by
  have hne : x ∉ ['n', 't', 'f', '"', '[', '\x7b'] := by
    rcases hx with rfl | rfl
    · decide
    · decide
  have hnumber : NoNumber (some x) := by
    rcases hx with rfl | rfl
    · exact ⟨']', rfl, by decide, rfl⟩
    · exact ⟨'\x7d', rfl, by decide, rfl⟩
  refine .rule body?_value (.choice (List.cons_ne_nil _ _) ?_ nofun)
  simp only [List.mem_cons, List.not_mem_nil, or_false, not_or] at hne
  obtain ⟨hnull, htrue, hfalse, hstr, harray, hobject⟩ := hne
  simp only [kinds, List.forall_mem_cons, List.not_mem_nil, false_implies, implies_true, and_true]
  refine ⟨(refuses_word rfl _).of_ne hnull, (refuses_word rfl _).of_ne htrue,
    (refuses_word rfl _).of_ne hfalse, refuses_number.mono ?_, refuses_str.of_ne hstr,
    ((refuses_enclosed _ _ _).map _).of_ne harray, ((refuses_enclosed _ _ _).map _).of_ne hobject⟩
  rintro _ rfl
  exact hnumber

theorem refuses_member : rules.Refuses member (· ≠ some '"') :=
  (((((Rules.refuses_value '"').between _ _).map _).andL _).andL _).and _

/-! ### Printed documents -/

theorem reads_word {word : String} {x : Char} {xs : List Char} (hword : word.toList = x :: xs)
    (v : Json) (hw : Blank w) :
    rules.Reads ((token (Text.string word)).constant v) NoSpace (word.toList ++ w) v := by
  refine .map _ (reads_token (reads_string ?_) hw)
  rintro rfl
  cases hword

/-- What the first parser reads that does not refuse it is a value. -/
theorem readsSolid_value {x : Char} {v : Json}
    (hx : x ∈ ['n', 't', 'f', '"', '[', ']', '\x7b', '\x7d', ',', ':'])
    (h : rules.ReadsFirst NoSpace (x :: t) v kinds) : ReadsSolid value (x :: t) v :=
  ⟨begins_cons (noSpace_of_mem hx) t, .rule body?_value (.choice h (List.cons_ne_nil _ _))⟩

theorem readsSolid_null (hw : Blank w) : ReadsSolid value ("null".toList ++ w) .null :=
  readsSolid_value (by decide) (.here (reads_word rfl _ hw))

theorem readsSolid_bool (b : Bool) (hw : Blank w) :
    ReadsSolid value ((toString b).toList ++ w) (.bool b) := by
  cases b with
  | true =>
      refine readsSolid_value (by decide) (.later ((refuses_word rfl _).of_ne ?_)
        (.here (reads_word rfl _ hw)))
      decide
  | false =>
      refine readsSolid_value (by decide) (.later ((refuses_word rfl _).of_ne ?_)
        (.later ((refuses_word rfl _).of_ne ?_) (.here (reads_word rfl _ hw))))
      all_goals decide

/-- In front of the parsers of strings, arrays and objects stand those of words and numbers. -/
theorem readsSolid_of_drop {x : Char} {v : Json} (hx : x ∈ ['"', '[', '\x7b'])
    (h : rules.ReadsFirst NoSpace (x :: t) v (kinds.drop 4)) : ReadsSolid value (x :: t) v := by
  have hnone : x ∈ ['n', 't', 'f', '"', '[', ']', '\x7b', '\x7d', ',', ':'] ∧
      (x ≠ 'n' ∧ x ≠ 't' ∧ x ≠ 'f') ∧ x ≠ '-' ∧ x.isDigit = false := by
    simp only [List.mem_cons, List.not_mem_nil, or_false] at hx
    rcases hx with rfl | rfl | rfl
    all_goals decide
  obtain ⟨hbegins, ⟨hnull, htrue, hfalse⟩, hnumber⟩ := hnone
  refine readsSolid_value hbegins (.later ((refuses_word rfl _).of_ne hnull)
    (.later ((refuses_word rfl _).of_ne htrue)
      (.later ((refuses_word rfl _).of_ne hfalse) (.later (refuses_number.mono ?_) h))))
  rintro _ rfl
  exact ⟨x, rfl, hnumber⟩

theorem readsSolid_str {s : String} (h : Quoted t s) : ReadsSolid value t (.str s) := by
  have hreads := reads_quoted h
  cases h
  exact readsSolid_of_drop (by decide) (.here (hreads.map _))

theorem readsSolid_array {vs : List Json} (h : ReadsList value ']' t vs) (hw : Blank w)
    (hw' : Blank w') : ReadsSolid value ('[' :: w ++ t ++ ']' :: w') (.array vs) := by
  have hreads := reads_enclosed '[' h (noSpace_of_mem (by decide)) hw hw'
  refine readsSolid_of_drop (by decide) (.later (refuses_str.of_ne ?_) (.here (hreads.map _)))
  decide

theorem readsSolid_object {ms : List (String × Json)} (h : ReadsList member '\x7d' t ms)
    (hw : Blank w) (hw' : Blank w') :
    ReadsSolid value ('\x7b' :: w ++ t ++ '\x7d' :: w') (.object ms) := by
  have hreads := reads_enclosed '\x7b' h (noSpace_of_mem (by decide)) hw hw'
  refine readsSolid_of_drop (by decide) (.later (refuses_str.of_ne ?_)
    (.later (((refuses_enclosed _ _ _).map _).of_ne ?_) (.here (hreads.map _))))
  all_goals decide

theorem readsSolid_member {k : List Char} {s : String} {v : Json} (hs : Quoted k s)
    (hw : Blank w) (h : ReadsSolid value t v) :
    ReadsSolid member (k ++ ':' :: w ++ t) (s, v) := by
  have hname := reads_quoted hs
  have hcolon : rules.Reads ((token stringLiteral).andL (punctuation ':')) NoSpace
      (k ++ ':' :: w) s := by
    refine hname.andL (reads_punctuation ':' hw) rfl nofun ?_
    exact fun o _ => noSpace_of_mem (by decide)
  refine ⟨?_, hcolon.and h.reads rfl (fun hnil => absurd hnil h.begins.1)
    fun o _ => h.begins.next o⟩
  cases hs
  exact begins_cons (noSpace_of_mem (by decide)) _

/-- What a printed part says of the parsers: they read it. -/
def Readable : Part → List Char → Prop
  | .value v, t => ReadsSolid value t v
  | .items vs, t => ReadsList value ']' t vs
  | .moreItems vs, t => ReadsMore value t vs
  | .member m, t => ReadsSolid member t m
  | .members ms, t => ReadsList member '\x7d' t ms
  | .moreMembers ms, t => ReadsMore member t ms

theorem premade_member : member.Everywhere rules.Premade := by repeat' constructor

/-- Every printed part is there to be read. -/
theorem Printed.readable {part : Part} (h : Printed part t) : Readable part t := by
  induction h with
  | null hw => exact readsSolid_null hw
  | bool hw => exact readsSolid_bool _ hw
  | str hs => exact readsSolid_str hs
  | array hw _ hw' ih => exact readsSolid_array ih hw hw'
  | noItems => exact .nil (refuses_value (.inl rfl)) rfl
  | items _ _ ih ihmore =>
      exact .cons ⟨trivial, trivial⟩ (by decide) (noSpace_of_mem (by decide)) ih ihmore
  | lastItem => exact .nil
  | moreItems hw _ _ ih ihmore => exact .cons ih rfl hw ihmore
  | object hw _ hw' ih => exact readsSolid_object ih hw hw'
  | member hs hw _ ih => exact readsSolid_member hs hw ih
  | noMembers => exact .nil (refuses_member.of_ne (by decide)) rfl
  | members _ _ ih ihmore =>
      exact .cons premade_member (by decide) (noSpace_of_mem (by decide)) ih ihmore
  | lastMember => exact .nil
  | moreMembers hw _ _ ih ihmore => exact .cons ih rfl hw ihmore

theorem read_printed {v : Json} (h : Printed (.value v) t) (hw : Blank w) :
    read (String.ofList (w ++ t)) = .ok (.ok v) := by
  have hvalue : ReadsSolid value t v := h.readable
  have hjson : rules.Reads json NoSpace (w ++ t) v :=
    (reads_skipWs hw).andR hvalue.reads rfl (fun hnil => absurd hnil hvalue.begins.1)
      fun o _ => hvalue.begins.next o
  rw [← String.toList_ofList (l := w ++ t)] at hjson
  exact hjson.parseSymbols nofun isPremade founded ⟨rfl, rfl⟩

/-! ### Values without numbers -/

inductive NumberFree : Json → Prop where
  | null : NumberFree .null
  | bool (b : Bool) : NumberFree (.bool b)
  | str (s : String) : NumberFree (.str s)
  | array {vs : List Json} : (∀ v ∈ vs, NumberFree v) → NumberFree (.array vs)
  | object {ms : List (String × Json)} : (∀ m ∈ ms, NumberFree m.2) → NumberFree (.object ms)

theorem hexDigit?_digitChar {n : Nat} (h : n < 16) : hexDigit? n.digitChar = some n := by
  have hall : ∀ n < 16, hexDigit? n.digitChar = some n := by decide
  exact hall n h

theorem toNat_le_of_control {x : Char} (h : Unicode.control.contains x = true) :
    x.toNat ≤ 0x9F := by
  rw [control_eq] at h
  simp only [CharSet.contains, CharSet.containsCode, List.any_cons, List.any_nil, Bool.or_false,
    Bool.or_eq_true, Bool.and_eq_true, decide_eq_true_eq] at h
  omega

theorem exists_spelled (x : Char) : ∃ t, Spelled t x := by
  by_cases hquote : x = '"'
  · rw [hquote]
    exact ⟨_, .quote⟩
  by_cases hbackslash : x = '\\'
  · rw [hbackslash]
    exact ⟨_, .backslash⟩
  cases hcontrol : Unicode.control.contains x with
  | false => exact ⟨_, .raw hquote hbackslash hcontrol⟩
  | true =>
      have hle := toNat_le_of_control hcontrol
      refine ⟨_, .control hcontrol (hexDigit?_digitChar (n := 0) (by decide))
        (hexDigit?_digitChar (n := 0) (by decide))
        (hexDigit?_digitChar (n := x.toNat / 16) (by omega))
        (hexDigit?_digitChar (n := x.toNat % 16) (by omega)) (by omega)⟩

theorem exists_spelledAll (cs : List Char) : ∃ t, SpelledAll t cs := by
  induction cs with
  | nil => exact ⟨[], .nil⟩
  | cons x cs ih =>
      obtain ⟨t, hx⟩ := exists_spelled x
      obtain ⟨u, hcs⟩ := ih
      exact ⟨t ++ u, .cons hx hcs⟩

theorem exists_quoted (s : String) : ∃ t, Quoted t s := by
  obtain ⟨t, ht⟩ := exists_spelledAll s.toList
  exact ⟨_, .intro ht blank_nil⟩

theorem exists_moreItems {vs : List Json} (h : ∀ v ∈ vs, ∃ t, Printed (.value v) t) :
    ∃ t, Printed (.moreItems vs) t := by
  induction vs with
  | nil => exact ⟨[], .lastItem⟩
  | cons v vs ih =>
      rw [List.forall_mem_cons] at h
      obtain ⟨t, ht⟩ := h.1
      obtain ⟨u, hu⟩ := ih h.2
      exact ⟨_, .moreItems blank_nil ht hu⟩

theorem exists_member {m : String × Json} (h : ∃ t, Printed (.value m.2) t) :
    ∃ t, Printed (.member m) t := by
  obtain ⟨k, hk⟩ := exists_quoted m.1
  obtain ⟨t, ht⟩ := h
  exact ⟨_, .member hk blank_nil ht⟩

theorem exists_moreMembers {ms : List (String × Json)}
    (h : ∀ m ∈ ms, ∃ t, Printed (.value m.2) t) : ∃ t, Printed (.moreMembers ms) t := by
  induction ms with
  | nil => exact ⟨[], .lastMember⟩
  | cons m ms ih =>
      rw [List.forall_mem_cons] at h
      obtain ⟨t, ht⟩ := exists_member h.1
      obtain ⟨u, hu⟩ := ih h.2
      exact ⟨_, .moreMembers blank_nil ht hu⟩

/-- Every value without numbers has a printed form. -/
theorem NumberFree.exists_printed {v : Json} (h : NumberFree v) : ∃ t, Printed (.value v) t := by
  induction h with
  | null => exact ⟨_, .null blank_nil⟩
  | bool b => exact ⟨_, .bool blank_nil⟩
  | str s =>
      obtain ⟨t, ht⟩ := exists_quoted s
      exact ⟨t, .str ht⟩
  | @array vs _ ih =>
      have hitems : ∃ t, Printed (.items vs) t := by
        cases vs with
        | nil => exact ⟨[], .noItems⟩
        | cons v vs =>
            rw [List.forall_mem_cons] at ih
            obtain ⟨t, ht⟩ := ih.1
            obtain ⟨u, hu⟩ := exists_moreItems ih.2
            exact ⟨_, .items ht hu⟩
      obtain ⟨t, ht⟩ := hitems
      exact ⟨_, .array blank_nil ht blank_nil⟩
  | @object ms _ ih =>
      have hmembers : ∃ t, Printed (.members ms) t := by
        cases ms with
        | nil => exact ⟨[], .noMembers⟩
        | cons m ms =>
            rw [List.forall_mem_cons] at ih
            obtain ⟨t, ht⟩ := exists_member ih.1
            obtain ⟨u, hu⟩ := exists_moreMembers ih.2
            exact ⟨_, .members ht hu⟩
      obtain ⟨t, ht⟩ := hmembers
      exact ⟨_, .object blank_nil ht blank_nil⟩

/-- Every value without numbers has a printed form, and whatever form that is, and whatever white
space stands in front of it, exactly the value is read from the text. -/
theorem reads_back :
    (∀ v, NumberFree v → ∃ t, Printed (.value v) t) ∧
      ∀ v t w, Printed (.value v) t → Blank w →
        read (String.ofList (w ++ t)) = .ok (.ok v) :=
  ⟨fun _ h => h.exists_printed, fun _ _ _ h hw => read_printed h hw⟩

/-- A member of an object with a line break in its name, and white space around its value. -/
theorem reads_back_object :
    (∃ t, Printed (.value (.object [("\n", .array [.bool true])])) t) ∧
      read " \x7b\"\\u000A\":[ true]\x7d" =
        .ok (.ok (.object [("\n", .array [.bool true])])) := by
  have hfree : NumberFree (.object [("\n", .array [.bool true])]) := by
    refine .object (List.forall_mem_cons.mpr ⟨.array ?_, nofun⟩)
    exact List.forall_mem_cons.mpr ⟨.bool true, nofun⟩
  have hblank : Blank [' '] := by
    refine List.forall_mem_singleton.mpr ?_
    rw [whiteSpace_eq]
    decide
  have hbreak : Spelled ['\\', 'u', '0', '0', '0', 'A'] '\n' := by
    refine .control ?_ rfl rfl rfl rfl rfl
    rw [control_eq]
    decide
  have hname := Quoted.intro (s := "\n") (.cons hbreak .nil) blank_nil
  have harray := Printed.array hblank (.items (.bool (b := true) blank_nil) .lastItem) blank_nil
  have hmembers := Printed.members (.member hname blank_nil harray) .lastMember
  have hobject := Printed.object blank_nil hmembers blank_nil
  exact ⟨reads_back.1 _ hfree, reads_back.2 _ _ [' '] hobject hblank⟩

end PredictiveParsing.Json
