import TypedJson.Proofs.Descriptor.Token
import TypedJson.Proofs.Tree.Basic

/-!
Types by their first token. A type is a parameter behind a dollar mark, a word that means a type
of its own, a list, a map, or a name, with arguments when an opening mark follows. Which of these
the parser takes is decided by the next token alone.
-/

namespace TypedJson.Descriptor

/-- The words that mean a type of their own. -/
def primitives : List (String × Descriptor) :=
  [("bytes", .bytes), ("any", .any), ("bool", .bool), ("boolean", .bool), ("integer", .integer),
    ("int", .integer), ("long", .integer), ("float", .float), ("double", .float),
    ("number", .float), ("string", .string)]

theorem keywords_eq : keywords = primitives.map Prod.fst ++ ["list", "map"] :=
  rfl

theorem distinct_primitives : Members.Distinct primitives := by
  simp [Members.Distinct, primitives]

theorem primitive?_eq_lookup (word : String)
    : Parser.primitive? word = primitives.lookup word := by
  simp only [Parser.primitive?, primitives, Members.lookup_cons_ite, List.lookup_nil,
    Bool.or_eq_true, decide_eq_true_eq, ite_or]

theorem primitive?_eq_some_iff {word : String} {d : Descriptor}
    : Parser.primitive? word = some d ↔ (word, d) ∈ primitives := by
  rw [primitive?_eq_lookup, Members.lookup_eq_some_iff distinct_primitives]

theorem primitive?_eq_none_iff {word : String}
    : Parser.primitive? word = none ↔ word ∉ primitives.map Prod.fst := by
  rw [primitive?_eq_lookup, Members.lookup_eq_none_iff]

/-- The token names a type that is looked up: a quoted name, or a bare one that is no keyword. -/
inductive Token.Heads : Token → String → Prop where
  | word {name : String} (free : name ∉ keywords) : Heads (.word name) name
  | quoted (name : String) : Heads (.quoted name) name

namespace Parser

variable {inner : Parse Descriptor} {cursor : Cursor} {rest : List Char}

/-- Takes what follows a word that a type begins with, which stands at `start`. -/
def afterWord (inner : Parse Descriptor) (start : Cursor) (word : String) : Parse Descriptor :=
  fun cursor =>
    match primitive? word with
    | some descriptor => .ok (descriptor, cursor)
    | none =>
        if word = "list" then listTail inner cursor
        else if word = "map" then mapTail inner start cursor
        else afterName inner word cursor

theorem eat?_dollar_eq_none {c : Char} {tail : List Char} (hc : c ≠ '$')
    (h : Text.dropBlanks cursor.rest = c :: tail)
    : cursor.skipBlanks.eat? '$' = none := by
  rw [Cursor.eat?_eq_none_iff, Cursor.rest_skipBlanks, h]
  exact fun _ he => hc (List.cons.inj he).1

theorem typeOf_dollar (inner : Parse Descriptor)
    (h : (Token.mark '$').Begins cursor.rest rest)
    : ∃ next, next.rest = rest
        ∧ typeOf inner cursor
            = (name next >>= fun found => .ok (.var found.1, found.2)) := by
  obtain ⟨_, ht⟩ := Token.begins_mark_iff.mp h
  rw [← Cursor.rest_skipBlanks] at ht
  obtain ⟨next, hn, hr⟩ := Cursor.exists_eat?_iff.mpr ht
  refine ⟨next, hr, ?_⟩
  simp only [typeOf, hn]

theorem typeOf_quoted (inner : Parse Descriptor) {name : String}
    (h : (Token.quoted name).Begins cursor.rest rest)
    : ∃ next, next.rest = rest ∧ typeOf inner cursor = afterName inner name next := by
  obtain ⟨_, _, ht⟩ := Token.begins_quoted_iff.mp h
  obtain ⟨next, hn, hr⟩ := exists_quotedName?_iff.mpr h
  refine ⟨next, hr, ?_⟩
  simp only [typeOf, eat?_dollar_eq_none (by decide) ht, hn]
  rfl

theorem typeOf_word (inner : Parse Descriptor) {word : String}
    (h : (Token.word word).Begins cursor.rest rest)
    : ∃ next, next.rest = rest
        ∧ typeOf inner cursor = afterWord inner cursor.skipBlanks word next := by
  have hbare := exists_bareName_iff cursor.skipBlanks rest word
  rw [Cursor.rest_skipBlanks, Token.begins_dropBlanks_iff] at hbare
  obtain ⟨next, hn, hr⟩ := hbare.mpr h
  have hdollar : cursor.skipBlanks.eat? '$' = none := by
    rw [Cursor.eat?_eq_none_iff, Cursor.rest_skipBlanks]
    exact fun _ ht => absurd (h.isNameChar_of_word ht) (by decide)
  have hquote : quotedName? cursor.skipBlanks = .ok none := by
    rw [quotedName?_eq_none_iff, Cursor.rest_skipBlanks]
    exact fun _ ht => absurd (h.isNameChar_of_word ht) (by decide)
  refine ⟨next, hr, ?_⟩
  simp only [typeOf, hdollar, hquote, ok_bind, hn]
  rfl

/-- A type that is taken begins with a dollar mark or with a name. -/
theorem exists_begins_of_typeOf {d : Descriptor} {next : Cursor}
    (h : typeOf inner cursor = .ok (d, next))
    : (∃ rest, (Token.mark '$').Begins cursor.rest rest)
        ∨ (∃ name rest, (Token.quoted name).Begins cursor.rest rest)
        ∨ ∃ word rest, (Token.word word).Begins cursor.rest rest := by
  simp only [typeOf] at h
  cases he : cursor.skipBlanks.eat? '$' with
  | some inside =>
      have ht := Cursor.exists_eat?_iff.mp ⟨inside, he, rfl⟩
      rw [Cursor.rest_skipBlanks] at ht
      exact .inl ⟨_, Token.begins_mark_iff.mpr ⟨by decide, ht⟩⟩
  | none =>
      rw [he] at h
      obtain ⟨taken, hq, h⟩ := bind_eq_ok_iff.mp h
      cases taken with
      | some taken => exact .inr (.inl ⟨taken.1, _, exists_quotedName?_iff.mp ⟨taken.2, hq, rfl⟩⟩)
      | none =>
          obtain ⟨⟨word, after⟩, hw, _⟩ := bind_eq_ok_iff.mp h
          have hb := (exists_bareName_iff cursor.skipBlanks _ word).mp ⟨after, hw, rfl⟩
          rw [Cursor.rest_skipBlanks, Token.begins_dropBlanks_iff] at hb
          exact .inr (.inr ⟨word, _, hb⟩)

/-- A name that is no keyword is a type of its own, with or without quotes. -/
theorem typeOf_head (inner : Parse Descriptor) {token : Token} {name : String}
    (heads : token.Heads name) (h : token.Begins cursor.rest rest)
    : ∃ next, next.rest = rest ∧ typeOf inner cursor = afterName inner name next := by
  cases heads with
  | quoted => exact typeOf_quoted inner h
  | word free =>
      obtain ⟨next, hr, ht⟩ := typeOf_word inner h
      refine ⟨next, hr, ht.trans ?_⟩
      rw [keywords_eq, List.mem_append, not_or] at free
      simp only [List.mem_cons, List.not_mem_nil, or_false, not_or] at free
      simp only [afterWord, primitive?_eq_none_iff.mpr free.1, free.2.1, free.2.2, if_false]

theorem afterName_named {name : String} (plain : ∀ tail, Text.dropBlanks cursor.rest ≠ '<' :: tail)
    : afterName inner name cursor = .ok (.named name, cursor.skipBlanks) := by
  have he : cursor.skipBlanks.eat? '<' = none := by
    rw [Cursor.eat?_eq_none_iff, Cursor.rest_skipBlanks]
    exact plain
  simp only [afterName, he]

theorem afterName_generic (inner : Parse Descriptor) (name : String)
    (h : (Token.mark '<').Begins cursor.rest rest)
    : ∃ next, next.rest = rest
        ∧ afterName inner name cursor
            = (argumentsFrom inner (rest.length + 1) [] next >>= fun taken =>
                .ok (.generic name taken.1, taken.2)) := by
  obtain ⟨_, ht⟩ := Token.begins_mark_iff.mp h
  rw [← Cursor.rest_skipBlanks] at ht
  obtain ⟨next, hn, hr⟩ := Cursor.exists_eat?_iff.mpr ht
  refine ⟨next, hr, ?_⟩
  simp only [afterName, hn, hr]

end Parser

end TypedJson.Descriptor
