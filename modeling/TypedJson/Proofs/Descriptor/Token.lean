import Mathlib.Data.List.Chain
import Mathlib.Data.List.TakeWhile
import TypedJson.Descriptor.Parser
import TypedJson.Descriptor.Printer
import TypedJson.Proofs.Outcome
import TypedJson.Proofs.Text.Blank
import TypedJson.Proofs.Text.NameChar

/-!
Tokens of the textual form of descriptors: marks, bare names and quoted names, with blanks before,
between and behind them. Each step of the parser takes the token with which the text goes on;
where a bare name ends is seen from what follows it.
-/

namespace TypedJson.Descriptor

/-- The marks of the textual form. -/
def marks : List Char :=
  ['$', '<', '>', ',', '=']

/-- What the textual form is made of. -/
inductive Token where
  | mark (c : Char)
  | word (name : String)
  | quoted (name : String)
  deriving DecidableEq

/-- Between quotes a character stands for itself, and one behind a backslash does so even if it is
a quote or a backslash. -/
inductive Quoted : List Char → List Char → Prop where
  | nil : Quoted [] []
  | plain {c : Char} {text name : List Char} (quote : c ≠ '"') (backslash : c ≠ '\\')
    (more : Quoted text name)
    : Quoted (c :: text) (c :: name)
  | escaped {c : Char} {text name : List Char} (more : Quoted text name)
    : Quoted ('\\' :: c :: text) (c :: name)

namespace Token

/-- The token can be written so. -/
inductive Written : Token → List Char → Prop where
  | mark {c : Char} (known : c ∈ marks) : Written (.mark c) [c]
  | word {name : List Char} (nonempty : name ≠ []) (chars : ∀ c ∈ name, Text.isNameChar c = true)
    : Written (.word (String.ofList name)) name
  | quoted {text name : List Char} (inner : Quoted text name)
    : Written (.quoted (String.ofList name)) ('"' :: (text ++ ['"']))

/-- The token ends where the rest begins: a bare name is as long as name characters follow. -/
def EndsBefore : Token → List Char → Prop
  | .word _, rest => ∀ c, rest.head? = some c → Text.isNameChar c = false
  | _, _ => True

/-- Behind blanks the text begins with the token, and the rest follows. -/
def Begins (token : Token) (text rest : List Char) : Prop :=
  ∃ blanks written, (∀ c ∈ blanks, Text.isBlank c = true) ∧ token.Written written
    ∧ text = blanks ++ (written ++ rest) ∧ token.EndsBefore rest

/-- The token is a name. -/
inductive Names : Token → String → Prop where
  | word (name : String) : Names (.word name) name
  | quoted (name : String) : Names (.quoted name) name

end Token

/-- The text is the tokens, one after the other, with blanks before, between and behind them. -/
def Spells : List Token → List Char → Prop
  | [], text => ∀ c ∈ text, Text.isBlank c = true
  | token :: more, text => ∃ rest, token.Begins text rest ∧ Spells more rest

-----------------------------------------------------------------------------------------
-- Tokens behind blanks
-----------------------------------------------------------------------------------------

namespace Token

variable {token : Token} {written text rest : List Char}

theorem isBlank_of_mem_marks {c : Char} (known : c ∈ marks) : Text.isBlank c = false := by
  simp only [marks, List.mem_cons, List.not_mem_nil, or_false] at known
  rcases known with rfl | rfl | rfl | rfl | rfl <;> decide

theorem isNameChar_of_mem_marks {c : Char} (known : c ∈ marks) : Text.isNameChar c = false := by
  simp only [marks, List.mem_cons, List.not_mem_nil, or_false] at known
  rcases known with rfl | rfl | rfl | rfl | rfl <;> decide

theorem Written.of_all {name : String} (nonempty : name.toList ≠ [])
    (chars : name.toList.all Text.isNameChar = true)
    : (Token.word name).Written name.toList := by
  have h := Written.word nonempty (List.all_eq_true.mp chars)
  rwa [String.ofList_toList] at h

/-- No token begins with a blank. -/
theorem Written.exists_cons (h : token.Written written)
    : ∃ c tail, written = c :: tail ∧ Text.isBlank c = false := by
  cases h with
  | mark known => exact ⟨_, [], rfl, isBlank_of_mem_marks known⟩
  | word nonempty chars =>
      obtain ⟨c, tail, rfl⟩ := List.exists_cons_of_ne_nil nonempty
      exact ⟨c, tail, rfl, Text.isBlank_eq_false_of_isNameChar (chars c (by simp))⟩
  | quoted inner => exact ⟨'"', _, rfl, by decide⟩

theorem begins_iff
    : token.Begins text rest ↔
        ∃ written, token.Written written ∧ Text.dropBlanks text = written ++ rest
          ∧ token.EndsBefore rest := by
  constructor
  · intro given
    rcases given with ⟨blanks, written, hb, hw, rfl, he⟩
    obtain ⟨c, tail, rfl, hc⟩ := hw.exists_cons
    exact ⟨_, hw, by rw [Text.dropBlanks_append hb, List.cons_append, Text.dropBlanks_cons hc], he⟩
  · intro given
    rcases given with ⟨written, hw, ht, he⟩
    obtain ⟨blanks, hb, hd⟩ := Text.exists_eq_append_dropBlanks text
    exact ⟨blanks, written, hb, hw, ht ▸ hd, he⟩

theorem begins_mark_iff {c : Char}
    : (Token.mark c).Begins text rest ↔ c ∈ marks ∧ Text.dropBlanks text = c :: rest := by
  rw [begins_iff]
  constructor
  · intro given
    rcases given with ⟨_, hw, ht, _⟩
    cases hw with
    | mark known => exact ⟨known, ht⟩
  · intro given
    rcases given with ⟨known, ht⟩
    exact ⟨[c], .mark known, ht, trivial⟩

theorem begins_quoted_iff {name : String}
    : (Token.quoted name).Begins text rest ↔
        ∃ inner, Quoted inner name.toList
          ∧ Text.dropBlanks text = '"' :: (inner ++ '"' :: rest) := by
  rw [begins_iff]
  constructor
  · intro given
    rcases given with ⟨_, hw, ht, _⟩
    cases hw with
    | quoted inner => exact ⟨_, by simpa using inner, by simpa using ht⟩
  · intro given
    rcases given with ⟨inner, hq, ht⟩
    have hw := Written.quoted hq
    rw [String.ofList_toList] at hw
    exact ⟨_, hw, by simpa using ht, trivial⟩

/-- A bare name is all the name characters that come next. -/
theorem begins_word_iff {name : String}
    : (Token.word name).Begins text rest ↔
        name.toList ≠ [] ∧ (Text.dropBlanks text).takeWhile Text.isNameChar = name.toList
          ∧ (Text.dropBlanks text).dropWhile Text.isNameChar = rest := by
  rw [begins_iff]
  constructor
  · intro given
    rcases given with ⟨written, hw, ht, he⟩
    cases hw with
    | word nonempty chars =>
        have hrest : rest.takeWhile Text.isNameChar = []
            ∧ rest.dropWhile Text.isNameChar = rest := by
          cases rest with
          | nil => exact ⟨rfl, rfl⟩
          | cons c rest => simp [he c rfl]
        rw [ht, List.takeWhile_append_of_pos chars, List.dropWhile_append_of_pos chars, hrest.1,
          hrest.2, String.toList_ofList, List.append_nil]
        exact ⟨nonempty, rfl, rfl⟩
  · intro given
    rcases given with ⟨nonempty, hname, rfl⟩
    refine ⟨name.toList, ?_, ?_, ?_⟩
    · have hw := Written.word nonempty fun c hc => List.mem_takeWhile_imp (hname ▸ hc)
      rwa [String.ofList_toList] at hw
    · rw [← hname]
      exact List.takeWhile_append_dropWhile.symm
    · intro c hc
      have hnot := List.head?_dropWhile_not Text.isNameChar (Text.dropBlanks text)
      rw [hc] at hnot
      exact hnot

/-- The token begins with the character. -/
def Opens : Token → Char → Prop
  | .mark m, c => c = m ∧ m ∈ marks
  | .word _, c => Text.isNameChar c = true
  | .quoted _, c => c = '"'

theorem Begins.exists_opens (h : token.Begins text rest)
    : ∃ c tail, Text.dropBlanks text = c :: tail ∧ token.Opens c := by
  obtain ⟨written, hw, ht, _⟩ := begins_iff.mp h
  cases hw with
  | mark known => exact ⟨_, _, ht, rfl, known⟩
  | word nonempty chars =>
      obtain ⟨c, tail, rfl⟩ := List.exists_cons_of_ne_nil nonempty
      exact ⟨c, _, ht, chars c (by simp)⟩
  | quoted inner => exact ⟨'"', _, ht, rfl⟩

/-- A bare name begins with a name character. -/
theorem Begins.isNameChar_of_word {name : String} (h : (Token.word name).Begins text rest)
    {c : Char} {tail : List Char} (ht : Text.dropBlanks text = c :: tail)
    : Text.isNameChar c = true := by
  obtain ⟨_, _, ho, opens⟩ := h.exists_opens
  obtain ⟨rfl, rfl⟩ := List.cons.inj (ho.symm.trans ht)
  exact opens

theorem begins_dropBlanks_iff
    : token.Begins (Text.dropBlanks text) rest ↔ token.Begins text rest := by
  rw [begins_iff, begins_iff, Text.dropBlanks_dropBlanks]

end Token

theorem spells_dropBlanks_iff {tokens : List Token} {text : List Char}
    : Spells tokens (Text.dropBlanks text) ↔ Spells tokens text := by
  cases tokens with
  | nil => rw [Spells, Spells, ← List.dropWhile_eq_nil_iff, ← List.dropWhile_eq_nil_iff]
           exact iff_of_eq (congrArg (· = []) (Text.dropBlanks_dropBlanks text))
  | cons token more => simp only [Spells, Token.begins_dropBlanks_iff]

-----------------------------------------------------------------------------------------
-- Taking tokens
-----------------------------------------------------------------------------------------

namespace Parser

variable {cursor : Cursor} {rest : List Char}

namespace Cursor

/-- A run of characters is taken whole, by induction on the text. -/
theorem spanFrom_eq (test : Char → Bool) (offset : Nat) (text : List Char)
    : spanFrom test offset text
        = (text.takeWhile test,
          ⟨offset + Text.Utf8.size (text.takeWhile test), text.dropWhile test⟩) := by
  induction text generalizing offset with
  | nil => rfl
  | cons c text ih =>
      cases hc : test c with
      | true =>
          simp only [spanFrom, hc, if_true, ih, List.takeWhile_cons, List.dropWhile_cons,
            Text.Utf8.size, Nat.add_assoc]
      | false => simp [spanFrom, hc, Text.Utf8.size]

theorem rest_skipBlanks (cursor : Cursor)
    : cursor.skipBlanks.rest = Text.dropBlanks cursor.rest := by
  rw [skipBlanks, span, spanFrom_eq]
  rfl

theorem exists_eat?_iff {mark : Char}
    : (∃ next, cursor.eat? mark = some next ∧ next.rest = rest) ↔ cursor.rest = mark :: rest := by
  obtain ⟨offset, text⟩ := cursor
  cases text with
  | nil => simp [eat?]
  | cons c text =>
      by_cases hc : c = mark
      · simp [eat?, hc]
      · simp [eat?, hc]

theorem eat?_eq_none_iff {mark : Char}
    : cursor.eat? mark = none ↔ ∀ rest, cursor.rest ≠ mark :: rest := by
  obtain ⟨offset, text⟩ := cursor
  cases text with
  | nil => simp [eat?]
  | cons c text =>
      by_cases hc : c = mark
      · simp [eat?, hc]
      · simp [eat?, hc]

end Cursor

/-- The mark that is expected is the next token. -/
theorem exists_expect_iff {mark : Char} (known : mark ∈ marks)
    : (∃ next, expect mark cursor = .ok next ∧ next.rest = rest) ↔
        (Token.mark mark).Begins cursor.rest rest := by
  have heat : (∃ next, cursor.skipBlanks.eat? mark = some next ∧ next.rest = rest) ↔
      Text.dropBlanks cursor.rest = mark :: rest := by
    rw [← Cursor.rest_skipBlanks]
    exact Cursor.exists_eat?_iff
  rw [Token.begins_mark_iff, and_iff_right known, ← heat]
  simp only [expect]
  cases cursor.skipBlanks.eat? mark <;> simp

/-- A bare name that is taken is the next token. -/
theorem exists_bareName_iff (cursor : Cursor) (rest : List Char) (name : String)
    : (∃ next, bareName cursor = .ok (name, next) ∧ next.rest = rest) ↔
        (Token.word name).Begins cursor.rest rest := by
  rw [Token.begins_word_iff, ← Cursor.rest_skipBlanks]
  simp only [bareName, Cursor.span, Cursor.spanFrom_eq]
  cases cursor.skipBlanks.rest.takeWhile Text.isNameChar with
  | nil => simp +contextual
  | cons c taken =>
      simp only [Except.ok.injEq, Prod.mk.injEq]
      constructor
      · intro given
        rcases given with ⟨_, ⟨rfl, rfl⟩, rfl⟩
        simp
      · intro given
        rcases given with ⟨_, hn, rfl⟩
        exact ⟨_, ⟨by rw [hn, String.ofList_toList], rfl⟩, rfl⟩

theorem quotedFrom_plain {c : Char} (quote : c ≠ '"') (backslash : c ≠ '\\') (offset : Nat)
    (text : List Char)
    : quotedFrom offset (c :: text)
        = (quotedFrom (offset + c.utf8Size) text).map
            fun (name, cursor) => (c :: name, cursor) := by
  rw [quotedFrom]
  · exact quote
  · exact fun h _ => backslash h
  · exact fun _ _ h _ => backslash h

/-- What stands before the closing quote is the name between quotes, by induction on the steps of
the parser one way and on the quoted name the other way. -/
theorem exists_quotedFrom_iff (offset : Nat) {text name : List Char}
    : (∃ next, quotedFrom offset text = some (name, next) ∧ next.rest = rest) ↔
        ∃ inner, Quoted inner name ∧ text = inner ++ '"' :: rest := by
  constructor
  · intro given
    rcases given with ⟨next, h, rfl⟩
    induction offset, text using quotedFrom.induct generalizing name with
    | case1 => simp [quotedFrom] at h
    | case2 offset text =>
        simp only [quotedFrom, Option.some.injEq, Prod.mk.injEq] at h
        obtain ⟨rfl, rfl⟩ := h
        exact ⟨[], .nil, rfl⟩
    | case3 => simp [quotedFrom] at h
    | case4 offset c text ih =>
        simp only [quotedFrom, Option.map_eq_some_iff, Prod.mk.injEq] at h
        obtain ⟨⟨more, _⟩, hm, rfl, rfl⟩ := h
        obtain ⟨inner, hq, rfl⟩ := ih hm
        exact ⟨_, .escaped hq, rfl⟩
    | case5 offset c text hquote hend hescape ih =>
        have hbackslash : c ≠ '\\' := by
          intro hc
          cases text with
          | nil => exact hend hc rfl
          | cons d text => exact hescape d text hc rfl
        rw [quotedFrom_plain hquote hbackslash] at h
        simp only [Option.map_eq_some_iff, Prod.mk.injEq] at h
        obtain ⟨⟨more, _⟩, hm, rfl, rfl⟩ := h
        obtain ⟨inner, hq, rfl⟩ := ih hm
        exact ⟨_, .plain hquote hbackslash hq, rfl⟩
  · intro given
    rcases given with ⟨inner, hq, rfl⟩
    induction hq generalizing offset with
    | nil => exact ⟨_, rfl, rfl⟩
    | @plain c _ _ quote backslash more ih =>
        obtain ⟨next, hn, hr⟩ := ih (offset + c.utf8Size)
        refine ⟨next, ?_, hr⟩
        rw [List.cons_append, quotedFrom_plain quote backslash, hn]
        rfl
    | @escaped c _ _ more ih =>
        obtain ⟨next, hn, hr⟩ := ih (offset + 1 + c.utf8Size)
        refine ⟨next, ?_, hr⟩
        rw [List.cons_append, List.cons_append, quotedFrom, hn]
        rfl

/-- A quoted name that is taken is the next token. -/
theorem exists_quotedName?_iff {name : String}
    : (∃ next, quotedName? cursor.skipBlanks = .ok (some (name, next)) ∧ next.rest = rest) ↔
        (Token.quoted name).Begins cursor.rest rest := by
  rw [Token.begins_quoted_iff, ← Cursor.rest_skipBlanks]
  simp only [quotedName?]
  constructor
  · intro given
    rcases given with ⟨next, h, rfl⟩
    cases he : cursor.skipBlanks.eat? '"' with
    | none => simp [he] at h
    | some inside =>
        simp only [he] at h
        have hrest := Cursor.exists_eat?_iff.mp ⟨inside, he, rfl⟩
        cases hq : quotedFrom inside.offset inside.rest with
        | none => simp [hq] at h
        | some taken =>
            obtain ⟨found, after⟩ := taken
            simp only [hq, Except.ok.injEq, Option.some.injEq, Prod.mk.injEq] at h
            obtain ⟨rfl, rfl⟩ := h
            obtain ⟨inner, hi, ht⟩ := (exists_quotedFrom_iff _).mp ⟨after, hq, rfl⟩
            exact ⟨inner, by simpa using hi, hrest.trans (congrArg (List.cons '"') ht)⟩
  · intro given
    rcases given with ⟨inner, hi, ht⟩
    obtain ⟨inside, he, hr⟩ := Cursor.exists_eat?_iff.mpr ht
    obtain ⟨next, hn, hrest⟩ := (exists_quotedFrom_iff inside.offset).mpr ⟨inner, hi, hr⟩
    refine ⟨next, ?_, hrest⟩
    simp only [he, hn, String.ofList_toList]

theorem quotedName?_eq_none_iff
    : quotedName? cursor = .ok none ↔ ∀ rest, cursor.rest ≠ '"' :: rest := by
  rw [← Cursor.eat?_eq_none_iff]
  simp only [quotedName?]
  cases cursor.eat? '"' with
  | none => simp
  | some inside =>
      cases hq : quotedFrom inside.offset inside.rest <;> simp [hq]

/-- The name that is taken is the next token. -/
theorem exists_name_iff {found : String}
    : (∃ next, name cursor = .ok (found, next) ∧ next.rest = rest) ↔
        ∃ token : Token, token.Names found ∧ token.Begins cursor.rest rest := by
  have hbare := exists_bareName_iff (cursor.skipBlanks) rest found
  rw [Cursor.rest_skipBlanks, Token.begins_dropBlanks_iff] at hbare
  simp only [name]
  constructor
  · intro given
    rcases given with ⟨next, h, rfl⟩
    obtain ⟨taken, hq, h⟩ := bind_eq_ok_iff.mp h
    cases taken with
    | none => exact ⟨.word found, .word found, hbare.mp ⟨next, h, rfl⟩⟩
    | some taken =>
        obtain rfl := Except.ok.inj h
        exact ⟨.quoted found, .quoted found, exists_quotedName?_iff.mp ⟨next, hq, rfl⟩⟩
  · intro given
    rcases given with ⟨token, names, begins⟩
    cases names with
    | word =>
        have hq : quotedName? cursor.skipBlanks = .ok none := by
          rw [quotedName?_eq_none_iff, Cursor.rest_skipBlanks]
          exact fun rest h => absurd (begins.isNameChar_of_word h) (by decide)
        obtain ⟨next, hn, hr⟩ := hbare.mpr begins
        exact ⟨next, by rw [hq]; exact hn, hr⟩
    | quoted =>
        obtain ⟨next, hn, hr⟩ := exists_quotedName?_iff.mpr begins
        exact ⟨next, by rw [hn]; rfl, hr⟩

end Parser

-----------------------------------------------------------------------------------------
-- One way to spell
-----------------------------------------------------------------------------------------

/-- A text goes on with one token only: its first character tells the kind of token, and each
kind is taken by one function. -/
theorem Token.Begins.unique {token other : Token} {text rest more : List Char}
    (h : token.Begins text rest) (h' : other.Begins text more)
    : token = other ∧ rest = more := by
  obtain ⟨c, tail, ht, opens⟩ := h.exists_opens
  obtain ⟨_, _, ht', opens'⟩ := h'.exists_opens
  obtain ⟨rfl, rfl⟩ := List.cons.inj (ht.symm.trans ht')
  have hquote : '"' ∉ marks := by decide
  have hname : Text.isNameChar '"' ≠ true := by decide
  have hmark : ∀ {m : Char}, m ∈ marks → Text.isNameChar m ≠ true := fun known =>
    Bool.eq_false_iff.mp (isNameChar_of_mem_marks known)
  cases token with
  | mark m =>
      obtain ⟨rfl, known⟩ := opens
      cases other with
      | mark m' =>
          obtain ⟨rfl, _⟩ := opens'
          have hr := (begins_mark_iff.mp h).2.symm.trans (begins_mark_iff.mp h').2
          exact ⟨rfl, (List.cons.inj hr).2⟩
      | quoted name => exact absurd (opens' ▸ known) hquote
      | word name => exact absurd opens' (hmark known)
  | quoted name =>
      obtain rfl : c = '"' := opens
      cases other with
      | mark m => exact absurd (opens'.1 ▸ opens'.2) hquote
      | quoted name' =>
          obtain ⟨inner, hq, hi⟩ := begins_quoted_iff.mp h
          obtain ⟨inner', hq', hi'⟩ := begins_quoted_iff.mp h'
          obtain ⟨next, hn, hr⟩ := (Parser.exists_quotedFrom_iff 0).mpr ⟨inner, hq, rfl⟩
          obtain ⟨next', hn', hr'⟩ := (Parser.exists_quotedFrom_iff 0).mpr ⟨inner', hq', rfl⟩
          rw [(List.cons.inj (hi.symm.trans hi')).2] at hn
          obtain ⟨hsame, rfl⟩ := Prod.mk.inj (Option.some.inj (hn.symm.trans hn'))
          exact ⟨congrArg Token.quoted (String.toList_injective hsame), hr.symm.trans hr'⟩
      | word name => exact absurd opens' hname
  | word name =>
      cases other with
      | mark m =>
          obtain ⟨rfl, known⟩ := opens'
          exact absurd opens (hmark known)
      | quoted name' =>
          obtain rfl : c = '"' := opens'
          exact absurd opens hname
      | word name' =>
          obtain ⟨_, hw, hr⟩ := begins_word_iff.mp h
          obtain ⟨_, hw', hr'⟩ := begins_word_iff.mp h'
          exact ⟨congrArg Token.word (String.toList_injective (hw.symm.trans hw')),
            hr.symm.trans hr'⟩

/-- Where only blanks are left there is no token. -/
theorem Token.not_begins_of_blank {token : Token} {text rest : List Char}
    (blank : ∀ c ∈ text, Text.isBlank c = true)
    : ¬ token.Begins text rest := by
  intro begins
  obtain ⟨c, tail, ht, _⟩ := begins.exists_opens
  rw [Text.dropBlanks, List.dropWhile_eq_nil_iff.mpr blank] at ht
  cases ht

/-- A text spells one list of tokens, by induction on the tokens. -/
theorem Spells.unique {tokens others : List Token} {text : List Char} (h : Spells tokens text)
    (h' : Spells others text)
    : tokens = others := by
  induction tokens generalizing others text with
  | nil =>
      cases others with
      | nil => rfl
      | cons other more =>
          obtain ⟨rest, begins, _⟩ := h'
          exact absurd begins (Token.not_begins_of_blank h)
  | cons token more ih =>
      obtain ⟨rest, begins, hm⟩ := h
      cases others with
      | nil => exact absurd begins (Token.not_begins_of_blank h')
      | cons other others =>
          obtain ⟨_, begins', hm'⟩ := h'
          obtain ⟨rfl, rfl⟩ := begins.unique begins'
          rw [ih hm hm']

/-- The tokens do not begin with the mark. -/
def Apart (mark : Char) (tokens : List Token) : Prop :=
  ∀ more, tokens ≠ .mark mark :: more

theorem apart_mark {mark other : Char} (differ : mark ≠ other) (more : List Token)
    : Apart mark (.mark other :: more) := by
  intro _ h
  exact differ (Token.mark.inj (List.cons.inj h).1).symm

/-- A mark that is not spelled next does not stand behind the blanks. -/
theorem ne_of_apart {mark : Char} (known : mark ∈ marks) {tokens : List Token}
    {text : List Char} (spells : Spells tokens text) (apart : Apart mark tokens)
    (tail : List Char)
    : Text.dropBlanks text ≠ mark :: tail := by
  intro ht
  have hmark : (Token.mark mark).Begins text tail := Token.begins_mark_iff.mpr ⟨known, ht⟩
  cases tokens with
  | nil => exact Token.not_begins_of_blank spells hmark
  | cons token more =>
      obtain ⟨rest, begins, _⟩ := spells
      obtain ⟨rfl, _⟩ := begins.unique hmark
      exact apart more rfl

-----------------------------------------------------------------------------------------
-- Other blanks between the same tokens
-----------------------------------------------------------------------------------------

/-- The text is made of the tokens, with any blanks or none before, between and behind them. -/
def Spaced : List Token → List Char → Prop
  | [], text => ∀ c ∈ text, Text.isBlank c = true
  | token :: more, text => ∃ blanks written rest, (∀ c ∈ blanks, Text.isBlank c = true)
      ∧ token.Written written ∧ text = blanks ++ (written ++ rest) ∧ Spaced more rest

/-- One of the two tokens is a mark, so no blank is needed between them. -/
def Token.Parted (token other : Token) : Prop :=
  (∃ c, token = .mark c) ∨ ∃ c, other = .mark c

/-- No two names follow each other. -/
def Separated (tokens : List Token) : Prop :=
  tokens.IsChain Token.Parted

theorem separated_mark_cons_iff {c : Char} {tokens : List Token}
    : Separated (.mark c :: tokens) ↔ Separated tokens := by
  rw [Separated, List.isChain_cons, Separated]
  exact and_iff_right fun _ _ => .inl ⟨c, rfl⟩

theorem Separated.append_mark {c : Char} {tokens more : List Token} (left : Separated tokens)
    (right : Separated more)
    : Separated (tokens ++ .mark c :: more) := by
  refine List.isChain_append.mpr ⟨left, separated_mark_cons_iff.mpr right, ?_⟩
  intro _ _ other ho
  exact .inr ⟨c, (Option.some.inj ho).symm⟩

theorem separated_name_mark {token : Token} {c : Char} {tokens : List Token}
    (rest : Separated tokens)
    : Separated (token :: .mark c :: tokens) := by
  have alone : Separated [token] := List.isChain_singleton token
  exact alone.append_mark rest

/-- No name character stands where nothing, blanks or a mark come next. -/
theorem Spaced.isNameChar_eq_false {name : String} {more : List Token} {text : List Char}
    (spaced : Spaced more text) (separated : Separated (.word name :: more)) {c : Char}
    (first : text.head? = some c)
    : Text.isNameChar c = false := by
  cases more with
  | nil => exact Text.isNameChar_eq_false_of_isBlank (spaced c (List.mem_of_mem_head? first))
  | cons token more =>
      obtain ⟨blanks, written, rest, hb, hw, rfl, _⟩ := spaced
      rcases (List.isChain_cons_cons.mp separated).1 with ⟨_, h⟩ | ⟨m, rfl⟩
      · cases h
      cases blanks with
      | cons b blanks =>
          obtain rfl : b = c := Option.some.inj first
          exact Text.isNameChar_eq_false_of_isBlank (hb b (by simp))
      | nil =>
          cases hw with
          | mark known =>
              obtain rfl : m = c := Option.some.inj first
              exact Token.isNameChar_of_mem_marks known

/-- If no two names follow each other, blanks are never needed: each token ends where the next
one begins. By induction on the tokens. -/
theorem Spaced.spells {tokens : List Token} {text : List Char} (spaced : Spaced tokens text)
    (separated : Separated tokens)
    : Spells tokens text := by
  induction tokens generalizing text with
  | nil => exact spaced
  | cons token more ih =>
      obtain ⟨blanks, written, rest, hb, hw, rfl, hrest⟩ := spaced
      refine ⟨rest, ⟨blanks, written, hb, hw, rfl, ?_⟩, ih hrest (List.isChain_cons.mp separated).2⟩
      cases token with
      | word name => exact fun c hc => hrest.isNameChar_eq_false separated hc
      | mark c => trivial
      | quoted name => trivial

end TypedJson.Descriptor
