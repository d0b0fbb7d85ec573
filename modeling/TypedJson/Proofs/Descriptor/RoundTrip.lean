import TypedJson.Proofs.Descriptor.Grammar

/-!
The textual form of a descriptor and the parser meet at the tokens that the descriptor is written
with. They mean the descriptor if the grammar has a place for all of it, and nothing else if it
does not; so a text is read back as the descriptor it was written for, or refused.
-/

namespace TypedJson.Descriptor

/-- The grammar has a way to write what stands here: the key of a map is one that is allowed, and a
generic type has an argument. -/
def Expressible : Descriptor → Prop
  | .map key _ => key.isKey = true
  | .generic _ arguments => arguments ≠ []
  | _ => True

/-- The arguments that stand here are a directory. -/
def InOrder : Descriptor → Prop
  | .generic _ arguments => Directory.Ordered arguments
  | _ => True

/-- The descriptor has a text of its own: it is not nested too deeply, and the grammar has a way to
write all of it. -/
structure Printable (d : Descriptor) : Prop where
  height : d.height ≤ greatestNesting
  expressible : d.Everywhere Expressible

-----------------------------------------------------------------------------------------
-- The tokens of a descriptor
-----------------------------------------------------------------------------------------

/-- The token that a name is written as. -/
def nameToken (name : String) : Token :=
  if isBare name then .word name else .quoted name

mutual
/-- The tokens that a descriptor is written with. -/
def spelling : Descriptor → List Token
  | .bytes => [.word "bytes"]
  | .any => [.word "any"]
  | .bool => [.word "bool"]
  | .integer => [.word "integer"]
  | .float => [.word "float"]
  | .string => [.word "string"]
  | .list item => .word "list" :: .mark '<' :: (spelling item ++ [.mark '>'])
  | .map key value =>
      .word "map" :: .mark '<' :: (spelling key ++ .mark ',' :: (spelling value ++ [.mark '>']))
  | .named name => [nameToken name]
  | .generic name arguments =>
      nameToken name :: .mark '<' :: (argumentsSpelling arguments ++ [.mark '>'])
  | .var name => [.mark '$', nameToken name]

/-- The tokens that the arguments of a generic type are written with. -/
def argumentsSpelling : List (String × Descriptor) → List Token
  | [] => []
  | (name, argument) :: rest =>
      nameToken name :: .mark '=' :: (spelling argument ++ moreSpelling rest)

/-- The tokens that the arguments after the first are written with. -/
def moreSpelling : List (String × Descriptor) → List Token
  | [] => []
  | (name, argument) :: rest =>
      .mark ',' :: nameToken name :: .mark '=' :: (spelling argument ++ moreSpelling rest)
end

/-- The argument with the tokens that it is written with. -/
def Argument.ofPair (pair : String × Descriptor) : Argument where
  slot := nameToken pair.1
  name := pair.1
  tokens := pair.2.spelling
  type := pair.2

theorem moreSpelling_eq (arguments : List (String × Descriptor))
    : moreSpelling arguments = Argument.following (arguments.map Argument.ofPair) := by
  induction arguments with
  | nil => rfl
  | cons pair rest ih =>
      simp [moreSpelling, ih, Argument.following, Argument.spelling, Argument.ofPair]

theorem argumentsSpelling_cons (pair : String × Descriptor) (rest : List (String × Descriptor))
    : argumentsSpelling (pair :: rest)
        = (Argument.ofPair pair).spelling ++ Argument.following (rest.map Argument.ofPair) := by
  rw [argumentsSpelling, moreSpelling_eq]
  rfl

theorem map_pair_ofPair (arguments : List (String × Descriptor))
    : (arguments.map Argument.ofPair).map Argument.pair = arguments := by
  rw [List.map_map]
  exact List.map_id arguments

theorem names_nameToken (name : String) : (nameToken name).Names name := by
  unfold nameToken
  split
  · exact .word name
  · exact .quoted name

theorem heads_nameToken (name : String) : (nameToken name).Heads name := by
  unfold nameToken
  split
  · next bare =>
      simp only [isBare, Bool.and_eq_true, Bool.not_eq_true', List.contains_eq_mem,
        decide_eq_false_iff_not] at bare
      exact .word bare.2
  · exact .quoted name

-----------------------------------------------------------------------------------------
-- The written text is made of these tokens
-----------------------------------------------------------------------------------------

/-- Wherever it stands, the text is made of the tokens. -/
def Writes (tokens : List Token) (text : List Char) : Prop :=
  ∀ more rest, Spaced more rest → Spaced (tokens ++ more) (text ++ rest)

namespace Writes

variable {tokens others : List Token} {text other : List Char}

theorem nil : Writes [] [] :=
  fun _ _ spaced => spaced

theorem append (left : Writes tokens text) (right : Writes others other)
    : Writes (tokens ++ others) (text ++ other) := by
  intro more rest spaced
  simpa using left _ _ (right _ _ spaced)

theorem token {token : Token} (h : token.Written text) : Writes [token] text := by
  intro more rest spaced
  exact ⟨[], text, rest, fun _ hc => absurd hc List.not_mem_nil, h, rfl, spaced⟩

theorem mark (c : Char) (known : c ∈ marks) : Writes [.mark c] [c] :=
  token (.mark known)

theorem blank : Writes [] [' '] := by
  intro more rest spaced
  cases more with
  | nil =>
      intro c hc
      rcases List.mem_cons.mp hc with rfl | hc
      · decide
      · exact spaced c hc
  | cons token more =>
      obtain ⟨blanks, written, rest, hb, hw, rfl, spaced⟩ := spaced
      exact ⟨' ' :: blanks, written, rest, List.forall_mem_cons.mpr ⟨by decide, hb⟩, hw, rfl,
        spaced⟩

/-- Every keyword is a run of name characters, as a bare name is. -/
theorem keyword (name : String) (known : name ∈ keywords) : Writes [.word name] name.toList := by
  have h : keywords.all (fun name =>
      !name.toList.isEmpty && name.toList.all Text.isNameChar) = true := by decide
  have bare := List.all_eq_true.mp h name known
  simp only [Bool.and_eq_true, Bool.not_eq_true', List.isEmpty_eq_false_iff] at bare
  exact token (.of_all bare.1 bare.2)

theorem inBrackets (inside : Writes tokens text)
    : Writes (.mark '<' :: (tokens ++ [.mark '>'])) ('<' :: (text ++ ['>'])) :=
  (mark '<' (by decide)).append (inside.append (mark '>' (by decide)))

/-- A comma is written with a blank behind it. -/
theorem comma : Writes [.mark ','] ", ".toList :=
  (mark ',' (by decide)).append blank

end Writes

/-- Quotes and backslashes are written behind a backslash, by induction on the name. -/
theorem quoted_flatMap_writeQuotedChar (name : List Char)
    : Quoted (name.flatMap writeQuotedChar) name := by
  induction name with
  | nil => exact .nil
  | cons c name ih =>
      rw [List.flatMap_cons]
      by_cases hc : c = '"' ∨ c = '\\'
      · have hw : writeQuotedChar c = ['\\', c] := by rcases hc with rfl | rfl <;> rfl
        rw [hw]
        exact .escaped ih
      · have hw : writeQuotedChar c = [c] := by simpa [writeQuotedChar] using hc
        rw [hw]
        exact .plain (not_or.mp hc).1 (not_or.mp hc).2 ih

theorem writes_name (name : String) : Writes [nameToken name] (writeName name) := by
  unfold nameToken writeName
  split
  · next bare =>
      simp only [isBare, Bool.and_eq_true, Bool.not_eq_true', List.isEmpty_eq_false_iff] at bare
      exact .token (.of_all bare.1.1 bare.1.2)
  · have hw := Token.Written.quoted (quoted_flatMap_writeQuotedChar name.toList)
    rw [String.ofList_toList] at hw
    exact .token hw

theorem write_list (item : Descriptor)
    : write (.list item) = "list<".toList ++ (write item ++ ['>']) :=
  List.append_assoc _ _ _

theorem write_map (key value : Descriptor)
    : write (.map key value)
        = "map<".toList ++ (write key ++ (", ".toList ++ (write value ++ ['>']))) := by
  simp only [← List.append_assoc]
  rfl

theorem write_generic (name : String) (arguments : List (String × Descriptor))
    : write (.generic name arguments)
        = writeName name ++ (['<'] ++ (writeArguments arguments ++ ['>'])) :=
  List.append_assoc _ _ _

theorem writeMoreArguments_cons (pair : String × Descriptor) (rest : List (String × Descriptor))
    : writeMoreArguments (pair :: rest)
        = ", ".toList
          ++ ((writeName pair.1 ++ " = ".toList ++ pair.2.write) ++ writeMoreArguments rest) := by
  simp only [← List.append_assoc]
  rfl

/-- One argument, with blanks around its mark. -/
theorem writes_argument {pair : String × Descriptor} (type : Writes pair.2.spelling pair.2.write)
    : Writes (nameToken pair.1 :: .mark '=' :: pair.2.spelling)
        (writeName pair.1 ++ " = ".toList ++ pair.2.write) := by
  have h := (writes_name pair.1).append
    (Writes.blank.append ((Writes.mark '=' (by decide)).append (Writes.blank.append type)))
  rw [List.append_assoc]
  exact h

theorem writes_moreArguments {arguments : List (String × Descriptor)}
    (types : ∀ pair ∈ arguments, Writes pair.2.spelling pair.2.write)
    : Writes (moreSpelling arguments) (writeMoreArguments arguments) := by
  induction arguments with
  | nil => exact .nil
  | cons pair rest ih =>
      obtain ⟨type, types⟩ := List.forall_mem_cons.mp types
      rw [writeMoreArguments_cons]
      exact Writes.comma.append ((writes_argument type).append (ih types))

theorem writes_arguments {arguments : List (String × Descriptor)}
    (types : ∀ pair ∈ arguments, Writes pair.2.spelling pair.2.write)
    : Writes (argumentsSpelling arguments) (writeArguments arguments) := by
  cases arguments with
  | nil => exact .nil
  | cons pair rest =>
      obtain ⟨type, types⟩ := List.forall_mem_cons.mp types
      exact (writes_argument type).append (writes_moreArguments types)

/-- The written text is made of the tokens of the descriptor, by induction on what it is made
of. -/
theorem writes_write (d : Descriptor) : Writes d.spelling d.write := by
  induction d using byParts with
  | step d ih =>
      cases d with
      | list item =>
          have inside : Writes item.spelling item.write := ih item (by simp [parts])
          rw [write_list]
          exact (Writes.keyword "list" (by simp [keywords])).append inside.inBrackets
      | map key value =>
          have left : Writes key.spelling key.write := ih key (by simp [parts])
          have right : Writes value.spelling value.write := ih value (by simp [parts])
          have inside := (left.append (Writes.comma.append right)).inBrackets
          simp only [List.append_assoc] at inside
          rw [write_map]
          exact (Writes.keyword "map" (by simp [keywords])).append inside
      | named name => exact writes_name name
      | var name => exact (Writes.mark '$' (by decide)).append (writes_name name)
      | generic name arguments =>
          have htypes := writes_arguments fun pair hm => ih pair.2 (List.mem_map_of_mem hm)
          rw [write_generic]
          exact (writes_name name).append htypes.inBrackets
      | _ => exact .keyword _ (by simp [keywords])

/-- No two names follow each other in the tokens of a descriptor. -/
theorem separated_spelling (d : Descriptor) : Separated d.spelling := by
  induction d using byParts with
  | step d ih =>
      cases d with
      | list item =>
          exact separated_name_mark ((ih item (by simp [parts])).append_mark List.isChain_nil)
      | map key value =>
          exact separated_name_mark ((ih key (by simp [parts])).append_mark
            ((ih value (by simp [parts])).append_mark List.isChain_nil))
      | var name => exact separated_mark_cons_iff.mpr (List.isChain_singleton _)
      | generic name arguments =>
          cases arguments with
          | nil => exact separated_name_mark (separated_mark_cons_iff.mpr List.isChain_nil)
          | cons pair rest =>
              rw [spelling, argumentsSpelling_cons, List.append_assoc]
              refine separated_name_mark (separated_arguments fun argument hm => ?_)
              obtain ⟨pair, hp, rfl⟩ := List.mem_map.mp (List.map_cons ▸ hm)
              exact ih pair.2 (List.mem_map_of_mem hp)
      | _ => exact List.isChain_singleton _

theorem spells_text (d : Descriptor) : Spells d.spelling d.text.toList := by
  have spaced := writes_write d [] [] (fun _ hc => absurd hc List.not_mem_nil)
  rw [List.append_nil, List.append_nil] at spaced
  rw [text, String.toList_ofList]
  exact spaced.spells (separated_spelling d)

-----------------------------------------------------------------------------------------
-- These tokens mean the descriptor, if anything
-----------------------------------------------------------------------------------------

/-- The tokens of a descriptor mean the descriptor if the grammar has a way to write all of it. -/
theorem derives_spelling {d : Descriptor} (expressible : d.Everywhere Expressible)
    (ordered : d.Everywhere InOrder)
    : Derives d.spelling d := by
  induction d using byParts with
  | step d ih =>
      have htypes : ∀ part ∈ d.parts, Derives part.spelling part := fun part hm =>
        ih part hm (expressible.inside hm) (ordered.inside hm)
      cases d with
      | list item => exact .list (htypes item (by simp [parts]))
      | map key value =>
          exact .map (htypes key (by simp [parts])) (htypes value (by simp [parts]))
            expressible.here
      | named name => exact .named (heads_nameToken name)
      | var name => exact .var (names_nameToken name)
      | generic name arguments =>
          have hordered : Directory.Ordered arguments := ordered.here
          obtain ⟨pair, rest, rfl⟩ := List.exists_cons_of_ne_nil expressible.here
          have hpairs := map_pair_ofPair (pair :: rest)
          have hdistinct : Members.Distinct
              (((pair :: rest).map Argument.ofPair).map Argument.pair) :=
            hpairs.symm ▸ hordered.distinct
          have hall : ∀ argument ∈ (pair :: rest).map Argument.ofPair,
              argument.slot.Names argument.name ∧ Derives argument.tokens argument.type := by
            rw [List.forall_mem_map]
            exact fun pair hp => ⟨names_nameToken pair.1, htypes pair.2 (List.mem_map_of_mem hp)⟩
          have h := Derives.generic (heads_nameToken name) (fun argument hm => (hall argument hm).1)
            (fun argument hm => (hall argument hm).2) hdistinct
          rw [← List.map_cons, hpairs, Directory.ofList_of_ordered hordered] at h
          rw [spelling, argumentsSpelling_cons, List.append_assoc]
          exact h
      | _ => exact .primitive (by simp [primitives])

variable {tokens more rest : List Token} {d : Descriptor}

theorem Token.Heads.unique {token : Token} {name other : String} (h : token.Heads name)
    (h' : token.Heads other)
    : name = other := by
  cases h <;> cases h' <;> rfl

theorem Token.Names.unique {token : Token} {name other : String} (h : token.Names name)
    (h' : token.Names other)
    : name = other := by
  cases h <;> cases h' <;> rfl

theorem Token.not_heads_mark {c : Char} {name : String} : ¬ (Token.mark c).Heads name := by
  intro heads
  cases heads

theorem Token.not_heads_keyword {word name : String} (keyword : word ∈ keywords)
    : ¬ (Token.word word).Heads name := by
  intro heads
  cases heads with
  | word free => exact free keyword

theorem mem_keywords_of_primitive {word : String} {primitive : Descriptor}
    (known : (word, primitive) ∈ primitives)
    : word ∈ keywords ∧ word ≠ "list" ∧ word ≠ "map" := by
  have hword := List.mem_map_of_mem (f := Prod.fst) known
  have hkeyword : word ∈ keywords := keywords_eq ▸ List.mem_append_left _ hword
  have hlist : "list" ∉ primitives.map Prod.fst := by decide
  have hmap : "map" ∉ primitives.map Prod.fst := by decide
  exact ⟨hkeyword, fun h => hlist (h ▸ hword), fun h => hmap (h ▸ hword)⟩

theorem head_eq {token head : Token} {tail : List Token}
    (begins : head :: tail ++ more = token :: rest)
    : head = token :=
  (List.cons.inj begins).1

theorem derives_dollar (h : Derives tokens d) (begins : tokens ++ more = .mark '$' :: rest)
    : ∃ slot name, tokens = [.mark '$', slot] ∧ slot.Names name ∧ d = .var name := by
  cases h with
  | @var slot name names => exact ⟨slot, name, rfl, names, rfl⟩
  | named heads => exact absurd (head_eq begins ▸ heads) Token.not_heads_mark
  | generic heads => exact absurd (head_eq begins ▸ heads) Token.not_heads_mark
  | primitive => cases head_eq begins
  | list => cases head_eq begins
  | map => cases head_eq begins

theorem derives_primitive {word : String} {primitive : Descriptor}
    (known : (word, primitive) ∈ primitives) (h : Derives tokens d)
    (begins : tokens ++ more = .word word :: rest)
    : tokens = [.word word] ∧ d = primitive := by
  obtain ⟨keyword, hlist, hmap⟩ := mem_keywords_of_primitive known
  cases h with
  | primitive known' =>
      obtain rfl := Token.word.inj (head_eq begins)
      have hlookup := (Members.lookup_eq_some_iff distinct_primitives).mpr known
      rw [(Members.lookup_eq_some_iff distinct_primitives).mpr known'] at hlookup
      exact ⟨rfl, Option.some.inj hlookup⟩
  | var => cases head_eq begins
  | list => exact absurd (Token.word.inj (head_eq begins)).symm hlist
  | map => exact absurd (Token.word.inj (head_eq begins)).symm hmap
  | named heads => exact absurd (head_eq begins ▸ heads) (Token.not_heads_keyword keyword)
  | generic heads => exact absurd (head_eq begins ▸ heads) (Token.not_heads_keyword keyword)

theorem derives_list (h : Derives tokens d) (begins : tokens ++ more = .word "list" :: rest)
    : ∃ inside item, tokens = .word "list" :: .mark '<' :: (inside ++ [.mark '>'])
        ∧ Derives inside item ∧ d = .list item := by
  have keyword : "list" ∈ keywords := by decide
  cases h with
  | list inside => exact ⟨_, _, rfl, inside, rfl⟩
  | var => cases head_eq begins
  | map => exact absurd (Token.word.inj (head_eq begins)) (by decide)
  | primitive known =>
      exact absurd (Token.word.inj (head_eq begins)) (mem_keywords_of_primitive known).2.1
  | named heads => exact absurd (head_eq begins ▸ heads) (Token.not_heads_keyword keyword)
  | generic heads => exact absurd (head_eq begins ▸ heads) (Token.not_heads_keyword keyword)

theorem derives_map (h : Derives tokens d) (begins : tokens ++ more = .word "map" :: rest)
    : ∃ keyTokens valueTokens key value,
        tokens = .word "map" :: .mark '<' ::
          (keyTokens ++ .mark ',' :: (valueTokens ++ [.mark '>']))
        ∧ Derives keyTokens key ∧ Derives valueTokens value ∧ key.isKey = true
        ∧ d = .map key value := by
  have keyword : "map" ∈ keywords := by decide
  cases h with
  | map left right allowed => exact ⟨_, _, _, _, rfl, left, right, allowed, rfl⟩
  | var => cases head_eq begins
  | list => exact absurd (Token.word.inj (head_eq begins)) (by decide)
  | primitive known =>
      exact absurd (Token.word.inj (head_eq begins)) (mem_keywords_of_primitive known).2.2
  | named heads => exact absurd (head_eq begins ▸ heads) (Token.not_heads_keyword keyword)
  | generic heads => exact absurd (head_eq begins ▸ heads) (Token.not_heads_keyword keyword)

theorem derives_head {token : Token} {name : String} (heads : token.Heads name)
    (h : Derives tokens d) (begins : tokens ++ more = token :: rest)
    : (tokens = [token] ∧ d = .named name)
        ∨ ∃ first others, tokens = token :: .mark '<' ::
              (first.spelling ++ (Argument.following others ++ [.mark '>']))
            ∧ (∀ argument ∈ first :: others, argument.slot.Names argument.name
                ∧ Derives argument.tokens argument.type)
            ∧ d = .generic name (Directory.ofList ((first :: others).map Argument.pair)) := by
  cases h with
  | named heads' =>
      obtain rfl := head_eq begins
      exact .inl ⟨rfl, congrArg Descriptor.named (heads'.unique heads)⟩
  | generic heads' slots types =>
      obtain rfl := head_eq begins
      exact .inr ⟨_, _, rfl, fun argument hm => ⟨slots argument hm, types argument hm⟩,
        congrArg (Descriptor.generic · _) (heads'.unique heads)⟩
  | var => exact absurd (head_eq begins ▸ heads) Token.not_heads_mark
  | primitive known =>
      exact absurd (head_eq begins ▸ heads)
        (Token.not_heads_keyword (mem_keywords_of_primitive known).1)
  | list => exact absurd (head_eq begins ▸ heads) (Token.not_heads_keyword (by decide))
  | map => exact absurd (head_eq begins ▸ heads) (Token.not_heads_keyword (by decide))

/-- The descriptor is the only one that its tokens mean, wherever they stand, and they mean it
only if the grammar has a way to write all of it. -/
def Decoded (d : Descriptor) : Prop :=
  ∀ tokens found more rest, Derives tokens found → tokens ++ rest = d.spelling ++ more →
    Apart '<' more → Apart '<' rest →
      found = d ∧ d.Everywhere Expressible ∧ rest = more

theorem decoded_primitive {word : String} {primitive : Descriptor}
    (known : (word, primitive) ∈ primitives) (spelled : primitive.spelling = [.word word])
    (expressible : primitive.Everywhere Expressible)
    : Decoded primitive := by
  intro tokens found more rest derives h _ _
  rw [spelled] at h
  obtain ⟨rfl, rfl⟩ := derives_primitive known derives h
  exact ⟨rfl, expressible, List.append_cancel_left h⟩

theorem decoded_list {item : Descriptor} (inner : Decoded item) : Decoded (.list item) := by
  intro tokens found more rest derives h _ _
  obtain ⟨inside, item', rfl, hd, rfl⟩ := derives_list derives h
  have htail : inside ++ (.mark '>' :: rest) = item.spelling ++ (.mark '>' :: more) := by
    simpa [spelling] using h
  obtain ⟨rfl, expressible, hrest⟩ := inner _ _ _ _ hd htail (apart_mark (by decide) _)
    (apart_mark (by decide) _)
  exact ⟨rfl, .intro trivial (by simpa [parts] using expressible), (List.cons.inj hrest).2⟩

theorem decoded_map {key value : Descriptor} (left : Decoded key) (right : Decoded value)
    : Decoded (.map key value) := by
  intro tokens found more rest derives h _ _
  obtain ⟨keyTokens, valueTokens, key', value', rfl, hk, hv, allowed, rfl⟩ :=
    derives_map derives h
  have hkey : keyTokens ++ .mark ',' :: (valueTokens ++ (.mark '>' :: rest))
      = key.spelling ++ .mark ',' :: (value.spelling ++ (.mark '>' :: more)) := by
    simpa [spelling] using h
  obtain ⟨rfl, keyExpressible, hvalue⟩ := left _ _ _ _ hk hkey (apart_mark (by decide) _)
    (apart_mark (by decide) _)
  obtain ⟨rfl, valueExpressible, hrest⟩ := right _ _ _ _ hv (List.cons.inj hvalue).2
    (apart_mark (by decide) _) (apart_mark (by decide) _)
  refine ⟨rfl, .intro allowed ?_, (List.cons.inj hrest).2⟩
  simpa [parts] using ⟨keyExpressible, valueExpressible⟩

theorem apart_following (arguments : List Argument) (more : List Token)
    : Apart '<' (Argument.following arguments ++ .mark '>' :: more) := by
  cases arguments with
  | nil => exact apart_mark (by decide) _
  | cons argument rest => exact apart_mark (by decide) _

theorem decoded_argument {argument : Argument} {pair : String × Descriptor}
    {rest more : List Token} (inner : Decoded pair.2)
    (names : argument.slot.Names argument.name) (derives : Derives argument.tokens argument.type)
    (h : argument.spelling ++ rest = (Argument.ofPair pair).spelling ++ more)
    (written : Apart '<' more) (apart : Apart '<' rest)
    : argument.pair = pair ∧ pair.2.Everywhere Expressible ∧ rest = more := by
  obtain ⟨hslot, hbehind⟩ := List.cons.inj h
  have hname : argument.name = pair.1 := (hslot ▸ names).unique (names_nameToken pair.1)
  obtain ⟨htype, expressible, hrest⟩ :=
    inner _ _ _ _ derives (List.cons.inj hbehind).2 written apart
  exact ⟨Prod.ext hname htype, expressible, hrest⟩

/-- Arguments are decoded one after the other, by induction on those that were written. -/
theorem decoded_arguments {first : Argument} {others : List Argument}
    {pair : String × Descriptor} {pairs : List (String × Descriptor)} {rest more : List Token}
    (decoded : ∀ pair' ∈ pair :: pairs, Decoded pair'.2)
    (all : ∀ argument ∈ first :: others, argument.slot.Names argument.name
      ∧ Derives argument.tokens argument.type)
    (h : first.spelling ++ (Argument.following others ++ .mark '>' :: rest)
      = (Argument.ofPair pair).spelling
        ++ (Argument.following (pairs.map Argument.ofPair) ++ .mark '>' :: more))
    : (first :: others).map Argument.pair = pair :: pairs
        ∧ (∀ pair' ∈ pair :: pairs, pair'.2.Everywhere Expressible) ∧ rest = more := by
  induction pairs generalizing first others pair with
  | nil =>
      obtain ⟨names, derives⟩ := all first (by simp)
      obtain ⟨hpair, expressible, htail⟩ := decoded_argument (decoded pair (by simp)) names derives
        h (apart_following _ _) (apart_following _ _)
      cases others with
      | nil =>
          obtain rfl := (List.cons.inj htail).2
          exact ⟨congrArg ([·]) hpair, by simpa using expressible, rfl⟩
      | cons other others => cases (List.cons.inj htail).1
  | cons next pairs ih =>
      obtain ⟨names, derives⟩ := all first (by simp)
      obtain ⟨hpair, expressible, htail⟩ := decoded_argument (decoded pair (by simp)) names derives
        h (apart_following _ _) (apart_following _ _)
      cases others with
      | nil => cases (List.cons.inj htail).1
      | cons other others =>
          obtain ⟨hpairs, hall, hrest⟩ := ih (List.forall_mem_cons.mp decoded).2
            (List.forall_mem_cons.mp all).2 (by simpa [Argument.following] using htail)
          exact ⟨by rw [List.map_cons, hpair, hpairs],
            List.forall_mem_cons.mpr ⟨expressible, hall⟩, hrest⟩

/-- A name without arguments is all of a type where no mark that opens arguments follows. -/
theorem decoded_named (name : String) : Decoded (.named name) := by
  intro tokens found more rest derives h written _
  rcases derives_head (heads_nameToken name) derives h with
    ⟨rfl, rfl⟩ | ⟨first, others, rfl, _, rfl⟩
  · exact ⟨rfl, .leaf trivial rfl,
      List.append_cancel_left h⟩
  · exact absurd (List.cons.inj h).2.symm (written _)

theorem decoded_var (name : String) : Decoded (.var name) := by
  intro tokens found more rest derives h _ _
  obtain ⟨slot, name', rfl, names, rfl⟩ := derives_dollar derives h
  obtain ⟨hslot, hrest⟩ := List.cons.inj (List.cons.inj h).2
  obtain rfl : name' = name := (hslot ▸ names).unique (names_nameToken name)
  exact ⟨rfl, .leaf trivial rfl, hrest⟩

theorem decoded_generic {name : String} {arguments : List (String × Descriptor)}
    (ordered : Directory.Ordered arguments) (inner : ∀ pair ∈ arguments, Decoded pair.2)
    : Decoded (.generic name arguments) := by
  intro tokens found more rest derives h _ apart
  rcases derives_head (heads_nameToken name) derives h with
    ⟨rfl, rfl⟩ | ⟨first, others, rfl, all, rfl⟩
  · exact absurd (List.cons.inj h).2 (apart _)
  · have hinside := (List.cons.inj (List.cons.inj h).2).2
    cases arguments with
    | nil =>
        have names := (all first (by simp)).1
        rw [(List.cons.inj hinside).1] at names
        cases names
    | cons pair pairs =>
        rw [argumentsSpelling_cons] at hinside
        obtain ⟨hpairs, expressible, hrest⟩ :=
          decoded_arguments inner all (by simpa using hinside)
        rw [hpairs, Directory.ofList_of_ordered ordered]
        refine ⟨rfl, .intro (List.cons_ne_nil _ _) ?_, hrest⟩
        rwa [parts, List.forall_mem_map]

/-- The tokens of a descriptor mean no other one, and mean it only if the grammar has a way to
write all of it: by induction on what the descriptor is made of. -/
theorem decoded {d : Descriptor} (ordered : d.Everywhere InOrder) : Decoded d := by
  induction d using byParts with
  | step d ih =>
      have hparts : ∀ part ∈ d.parts, Decoded part := fun part hm => ih part hm (ordered.inside hm)
      cases d with
      | list item => exact decoded_list (hparts item (by simp [parts]))
      | map key value =>
          exact decoded_map (hparts key (by simp [parts])) (hparts value (by simp [parts]))
      | named name => exact decoded_named name
      | var name => exact decoded_var name
      | generic name arguments =>
          exact decoded_generic ordered.here fun pair hm => hparts _ (List.mem_map_of_mem hm)
      | _ =>
          exact decoded_primitive (by simp [primitives]) rfl (.leaf trivial rfl)

-----------------------------------------------------------------------------------------
-- Whole texts
-----------------------------------------------------------------------------------------

theorem writable_primitive {word : String} (known : (word, d) ∈ primitives)
    : InOrder d ∧ Expressible d := by
  have hall : ∀ pair ∈ primitives, InOrder pair.2 ∧ Expressible pair.2 := by
    simp [primitives, InOrder, Expressible]
  exact hall _ known

/-- Whatever the grammar gives a meaning is a directory where it has arguments, and can be
written. -/
theorem Derives.writable (h : Derives tokens d)
    : d.Everywhere InOrder ∧ d.Everywhere Expressible := by
  induction h with
  | var => exact ⟨.leaf trivial rfl, .leaf trivial rfl⟩
  | primitive known =>
      have empty := parts_of_mem_primitives known
      exact ⟨.leaf (writable_primitive known).1 empty, .leaf (writable_primitive known).2 empty⟩
  | list _ ih =>
      exact ⟨.intro trivial (by simpa [parts] using ih.1),
        .intro trivial (by simpa [parts] using ih.2)⟩
  | map _ _ allowed left right =>
      exact ⟨.intro trivial (by simpa [parts] using ⟨left.1, right.1⟩),
        .intro allowed (by simpa [parts] using ⟨left.2, right.2⟩)⟩
  | named => exact ⟨.leaf trivial rfl, .leaf trivial rfl⟩
  | @generic head name first others _ _ _ distinct types =>
      have hmem : ∀ pair, pair ∈ Directory.ofList ((first :: others).map Argument.pair) ↔
          pair ∈ (first :: others).map Argument.pair := fun _ => Directory.mem_ofList distinct
      have hparts : ∀ pair ∈ Directory.ofList ((first :: others).map Argument.pair),
          pair.2.Everywhere InOrder ∧ pair.2.Everywhere Expressible := by
        intro pair hp
        obtain ⟨argument, hm, rfl⟩ := List.mem_map.mp ((hmem pair).mp hp)
        exact types argument hm
      refine ⟨.intro (Directory.ordered_insertAll List.Pairwise.nil) ?_,
        .intro (List.ne_nil_of_mem ((hmem first.pair).mpr (by simp))) ?_⟩
      · rw [parts, List.forall_mem_map]
        exact fun pair hp => (hparts pair hp).1
      · rw [parts, List.forall_mem_map]
        exact fun pair hp => (hparts pair hp).2

theorem ofText_text_of_printable (ordered : d.Everywhere InOrder) (printable : d.Printable)
    : ofText d.text = .ok d :=
  ofText_eq_ok_iff.mpr
    ⟨_, spells_text d, derives_spelling printable.expressible ordered, printable.height⟩

theorem exists_error_of_not_printable (ordered : d.Everywhere InOrder) (unprintable : ¬ d.Printable)
    : ∃ e, ofText d.text = .error e := by
  cases h : ofText d.text with
  | error e => exact ⟨e, rfl⟩
  | ok found =>
      obtain ⟨tokens, spells, derives, height⟩ := ofText_eq_ok_iff.mp h
      obtain rfl := spells.unique (spells_text d)
      obtain ⟨rfl, expressible, _⟩ := decoded ordered _ _ [] [] derives rfl
        (fun _ h => nomatch h) (fun _ h => nomatch h)
      exact absurd ⟨height, expressible⟩ unprintable

/-- Text and descriptor go back and forth. The text of a descriptor is read as this descriptor if
the descriptor is printable, and refused otherwise; and what is read from any text is printable,
so that it is read again from its own text. -/
theorem ofText_text_iff_printable (d : Descriptor)
    : (d.Everywhere InOrder →
          (d.Printable → ofText d.text = .ok d)
            ∧ (¬ d.Printable → ∃ e, ofText d.text = .error e))
        ∧ ∀ text, ofText text = .ok d →
          d.Everywhere InOrder ∧ d.Printable ∧ ofText d.text = .ok d := by
  refine ⟨fun ordered => ⟨ofText_text_of_printable ordered,
    exists_error_of_not_printable ordered⟩, fun text given => ?_⟩
  obtain ⟨tokens, _, derives, height⟩ := ofText_eq_ok_iff.mp given
  obtain ⟨ordered, expressible⟩ := derives.writable
  exact ⟨ordered, ⟨height, expressible⟩, ofText_text_of_printable ordered ⟨height, expressible⟩⟩

/-- Lists inside each other, with anything in the innermost one. -/
def lists : Nat → Descriptor
  | 0 => .any
  | count + 1 => .list (lists count)

theorem height_lists (count : Nat) : (lists count).height = count + 1 := by
  induction count with
  | zero => rfl
  | succ count ih => rw [lists, height, ih]

theorem everywhere_lists {p : Descriptor → Prop} (any : p .any) (list : ∀ item, p (.list item))
    (count : Nat)
    : (lists count).Everywhere p := by
  induction count with
  | zero => exact .leaf any rfl
  | succ count ih => exact .intro (list _) (by simpa [lists, parts] using ih)

/-- As many lists as may be nested are read back, and one more is refused. -/
theorem ofText_text_lists
    : ofText (lists 63).text = .ok (lists 63) ∧ ∃ e, ofText (lists 64).text = .error e := by
  have ordered : ∀ count, (lists count).Everywhere InOrder :=
    everywhere_lists trivial fun _ => trivial
  have printable : (lists 63).Printable :=
    ⟨by rw [height_lists]; decide, everywhere_lists trivial (fun _ => trivial) 63⟩
  have unprintable : ¬ (lists 64).Printable := by
    intro given
    exact absurd given.height (by rw [height_lists]; decide)
  exact ⟨((ofText_text_iff_printable (lists 63)).1 (ordered 63)).1 printable,
    ((ofText_text_iff_printable (lists 64)).1 (ordered 64)).2 unprintable⟩

/-- Keywords, empty names and names with blanks or quotes in them stand in quotes. -/
example : text (.generic "list" [("", .var "a\"b"), ("int", .named "a b")])
    = "\"list\"<\"\" = $\"a\\\"b\", \"int\" = \"a b\">" := by
  decide +kernel

end TypedJson.Descriptor
