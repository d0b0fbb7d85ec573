import TypedJson.Proofs.Descriptor.Dispatch
import TypedJson.Proofs.Descriptor.Parts
import TypedJson.Proofs.Directory

/-!
The grammar of the textual form. The parser takes a text as a descriptor exactly when the text
spells tokens that the grammar derives the descriptor from, nested no deeper than is allowed; so
a text has one reading, and blanks between tokens change nothing.
-/

namespace TypedJson.Descriptor

/-- One argument of a generic type: the name of the parameter with its token, and the type with
the tokens of it. -/
structure Argument where
  slot : Token
  name : String
  tokens : List Token
  type : Descriptor

namespace Argument

/-- The argument as the descriptor holds it. -/
def pair (argument : Argument) : String × Descriptor :=
  (argument.name, argument.type)

/-- The tokens of the argument. -/
def spelling (argument : Argument) : List Token :=
  argument.slot :: .mark '=' :: argument.tokens

/-- The tokens of the arguments behind the first one. -/
def following (arguments : List Argument) : List Token :=
  arguments.flatMap fun argument => .mark ',' :: argument.spelling

end Argument

/-- The tokens have the meaning by the grammar of types. -/
inductive Derives : List Token → Descriptor → Prop where
  | var {slot : Token} {name : String} (names : slot.Names name)
    : Derives [.mark '$', slot] (.var name)
  | primitive {word : String} {d : Descriptor} (known : (word, d) ∈ primitives)
    : Derives [.word word] d
  | list {tokens : List Token} {item : Descriptor} (inside : Derives tokens item)
    : Derives (.word "list" :: .mark '<' :: (tokens ++ [.mark '>'])) (.list item)
  | map {keyTokens valueTokens : List Token} {key value : Descriptor}
    (left : Derives keyTokens key)
    (right : Derives valueTokens value)
    (allowed : key.isKey = true)
    : Derives
        (.word "map" :: .mark '<' ::
          (keyTokens ++ .mark ',' :: (valueTokens ++ [.mark '>'])))
        (.map key value)
  | named {head : Token} {name : String} (heads : head.Heads name) : Derives [head] (.named name)
  | generic {head : Token} {name : String} {first : Argument} {rest : List Argument}
    (heads : head.Heads name)
    (slots : ∀ argument ∈ first :: rest, argument.slot.Names argument.name)
    (types : ∀ argument ∈ first :: rest, Derives argument.tokens argument.type)
    (distinct : Members.Distinct ((first :: rest).map Argument.pair))
    : Derives
        (head :: .mark '<' :: (first.spelling ++ (Argument.following rest ++ [.mark '>'])))
        (.generic name (Directory.ofList ((first :: rest).map Argument.pair)))

/-- The words mean types that nothing is inside of. -/
theorem parts_of_mem_primitives {word : String} {d : Descriptor} (h : (word, d) ∈ primitives)
    : d.parts = [] := by
  have hall : ∀ pair ∈ primitives, pair.2.parts = [] := by simp [primitives, parts]
  exact hall _ h

namespace Parser

variable {n : Nat} {type : Parse Descriptor}

-----------------------------------------------------------------------------------------
-- What is taken is derived
-----------------------------------------------------------------------------------------

/-- Whatever is taken as a type spells tokens that the type is derived from, and it is no higher
than the given number of levels. -/
def Sound (n : Nat) (type : Parse Descriptor) : Prop :=
  ∀ cursor d next, type cursor = .ok (d, next) →
    ∃ tokens, Derives tokens d ∧ d.height ≤ n
      ∧ ∀ more, Spells more next.rest → Spells (tokens ++ more) cursor.rest

/-- A mark that was taken is spelled in front of whatever is spelled behind it. -/
theorem spells_of_expect {mark : Char} {cursor next : Cursor} (known : mark ∈ marks)
    (h : expect mark cursor = .ok next) {more : List Token} (spells : Spells more next.rest)
    : Spells (.mark mark :: more) cursor.rest :=
  ⟨_, (exists_expect_iff known).mp ⟨next, h, rfl⟩, spells⟩

theorem sound_listTail (sound : Sound n type) {cursor next : Cursor} {d : Descriptor}
    (h : listTail type cursor = .ok (d, next))
    : ∃ tokens item, d = .list item ∧ Derives tokens item ∧ item.height ≤ n
        ∧ ∀ more, Spells more next.rest →
          Spells (.mark '<' :: (tokens ++ .mark '>' :: more)) cursor.rest := by
  simp only [listTail, bind_eq_ok_iff, Except.ok.injEq, Prod.mk.injEq] at h
  obtain ⟨opened, ho, ⟨item, after⟩, hi, closed, hc, rfl, rfl⟩ := h
  obtain ⟨tokens, hd, hh, hs⟩ := sound _ _ _ hi
  refine ⟨tokens, item, rfl, hd, hh, fun more spells => ?_⟩
  exact spells_of_expect (by decide) ho (hs _ (spells_of_expect (by decide) hc spells))

theorem sound_mapTail (sound : Sound n type) {start cursor next : Cursor} {d : Descriptor}
    (h : mapTail type start cursor = .ok (d, next))
    : ∃ keyTokens valueTokens key value, d = .map key value
        ∧ Derives keyTokens key ∧ Derives valueTokens value ∧ key.isKey = true
        ∧ key.height ≤ n ∧ value.height ≤ n
        ∧ ∀ more, Spells more next.rest →
          Spells (.mark '<' :: (keyTokens ++ .mark ',' :: (valueTokens ++ .mark '>' :: more)))
            cursor.rest := by
  simp only [mapTail, bind_eq_ok_iff] at h
  obtain ⟨opened, ho, ⟨key, afterKey⟩, hk, middle, hm, ⟨value, after⟩, hv, closed, hc, h⟩ := h
  split at h
  · next allowed =>
      obtain ⟨rfl, rfl⟩ := Prod.mk.inj (Except.ok.inj h)
      obtain ⟨keyTokens, hkd, hkh, hks⟩ := sound _ _ _ hk
      obtain ⟨valueTokens, hvd, hvh, hvs⟩ := sound _ _ _ hv
      refine ⟨keyTokens, valueTokens, key, value, rfl, hkd, hvd, allowed, hkh, hvh, ?_⟩
      intro more spells
      have hvalue := hvs _ (spells_of_expect (by decide) hc spells)
      have hkey := hks _ (spells_of_expect (by decide) hm hvalue)
      exact spells_of_expect (by decide) ho hkey
  · cases h

/-- Each round takes one argument and the mark behind it, by induction on the rounds. -/
theorem sound_argumentsFrom (sound : Sound n type) {bound : Nat} {known taken : Bindings}
    {cursor next : Cursor}
    (h : argumentsFrom type bound known cursor = .ok (taken, next))
    : ∃ first rest, (∀ argument ∈ first :: rest, argument.slot.Names argument.name
          ∧ Derives argument.tokens argument.type ∧ argument.type.height ≤ n)
        ∧ Directory.Fresh ((first :: rest).map Argument.pair) known
        ∧ taken = Directory.insertAll ((first :: rest).map Argument.pair) known
        ∧ ∀ more, Spells more next.rest →
          Spells (first.spelling ++ (Argument.following rest ++ .mark '>' :: more))
            cursor.rest := by
  induction bound generalizing known cursor with
  | zero => cases h
  | succ bound ih =>
      simp only [argumentsFrom, bind_eq_ok_iff] at h
      obtain ⟨⟨name, afterName⟩, hname, equals, he, ⟨d, after⟩, hd, h⟩ := h
      obtain ⟨slot, names, begins⟩ := exists_name_iff.mp ⟨afterName, hname, rfl⟩
      obtain ⟨tokens, derives, height, spelled⟩ := sound _ _ _ hd
      split at h
      · cases h
      · next unbound =>
          have hfresh : known.lookup name = none := Option.not_isSome_iff_eq_none.mp unbound
          have hfirst : ∀ more, Spells more after.rest →
              Spells (slot :: .mark '=' :: (tokens ++ more)) cursor.rest := fun more spells =>
            ⟨_, begins, spells_of_expect (by decide) he (spelled more spells)⟩
          cases hclose : after.skipBlanks.eat? '>' with
          | some closed =>
              simp only [hclose, Except.ok.injEq, Prod.mk.injEq] at h
              obtain ⟨rfl, rfl⟩ := h
              have hc := Cursor.exists_eat?_iff.mp ⟨closed, hclose, rfl⟩
              rw [Cursor.rest_skipBlanks] at hc
              refine ⟨⟨slot, name, tokens, d⟩, [], by simpa using ⟨names, derives, height⟩,
                Directory.fresh_cons_iff.mpr ⟨hfresh, Directory.fresh_nil⟩, rfl, ?_⟩
              intro more spells
              exact hfirst _ ⟨_, Token.begins_mark_iff.mpr ⟨by decide, hc⟩, spells⟩
          | none =>
              simp only [hclose, bind_eq_ok_iff] at h
              obtain ⟨comma, hcomma, h⟩ := h
              obtain ⟨second, rest, hall, hf, rfl, hs⟩ := ih h
              refine ⟨⟨slot, name, tokens, d⟩, second :: rest,
                List.forall_mem_cons.mpr ⟨⟨names, derives, height⟩, hall⟩,
                Directory.fresh_cons_iff.mpr ⟨hfresh, hf⟩, rfl, ?_⟩
              intro more spells
              have hrest := spells_of_expect (by decide) hcomma (hs more spells)
              rw [Cursor.rest_skipBlanks, spells_dropBlanks_iff] at hrest
              simpa [Argument.spelling, Argument.following] using hfirst _ hrest

theorem sound_afterName (sound : Sound n type) {head : Token} {name : String}
    (heads : head.Heads name) {cursor next : Cursor} {d : Descriptor}
    (h : afterName type name cursor = .ok (d, next))
    : ∃ tokens, Derives (head :: tokens) d ∧ d.height ≤ n + 1
        ∧ ∀ more, Spells more next.rest → Spells (tokens ++ more) cursor.rest := by
  by_cases hopen : ∃ tail, Text.dropBlanks cursor.rest = '<' :: tail
  · obtain ⟨tail, ht⟩ := hopen
    have begins : (Token.mark '<').Begins cursor.rest tail :=
      Token.begins_mark_iff.mpr ⟨by decide, ht⟩
    obtain ⟨opened, rfl, hn⟩ := afterName_generic type name begins
    rw [hn] at h
    obtain ⟨⟨taken, closed⟩, ha, h⟩ := bind_eq_ok_iff.mp h
    obtain ⟨rfl, rfl⟩ := Prod.mk.inj (Except.ok.inj h)
    obtain ⟨first, rest, hall, hfresh, rfl, hs⟩ := sound_argumentsFrom sound ha
    have hdistinct := Directory.fresh_nil_iff.mp hfresh
    refine ⟨_, .generic heads (fun argument hm => (hall argument hm).1)
      (fun argument hm => (hall argument hm).2.1) hdistinct, ?_, ?_⟩
    · rw [height_le_succ_iff, parts, List.forall_mem_map]
      intro pair hp
      obtain ⟨argument, hm, rfl⟩ := List.mem_map.mp ((Directory.mem_ofList hdistinct).mp hp)
      exact (hall argument hm).2.2
    · intro more spells
      simpa using ⟨_, begins, hs more spells⟩
  · rw [afterName_named (fun tail ht => hopen ⟨tail, ht⟩)] at h
    obtain ⟨rfl, rfl⟩ := Prod.mk.inj (Except.ok.inj h)
    refine ⟨[], .named heads, by simp [height], fun more spells => ?_⟩
    rwa [Cursor.rest_skipBlanks, spells_dropBlanks_iff] at spells

theorem sound_afterWord (sound : Sound n type) {word : String} {start cursor next : Cursor}
    {d : Descriptor} (h : afterWord type start word cursor = .ok (d, next))
    : ∃ tokens, Derives (.word word :: tokens) d ∧ d.height ≤ n + 1
        ∧ ∀ more, Spells more next.rest → Spells (tokens ++ more) cursor.rest := by
  simp only [afterWord] at h
  cases hp : primitive? word with
  | some found =>
      simp only [hp, Except.ok.injEq, Prod.mk.injEq] at h
      obtain ⟨rfl, rfl⟩ := h
      have hm := primitive?_eq_some_iff.mp hp
      refine ⟨[], .primitive hm, ?_, fun _ spells => spells⟩
      rw [height_le_succ_iff, parts_of_mem_primitives hm]
      exact fun _ hp => absurd hp List.not_mem_nil
  | none =>
      simp only [hp] at h
      split at h
      · next hw =>
          subst hw
          obtain ⟨tokens, item, rfl, hd, hh, hs⟩ := sound_listTail sound h
          refine ⟨_, .list hd, by simpa [height] using hh, fun more spells => ?_⟩
          simpa using hs more spells
      split at h
      · next hw =>
          subst hw
          obtain ⟨ks, vs, key, value, rfl, hk, hv, allowed, hkh, hvh, hs⟩ := sound_mapTail sound h
          refine ⟨_, .map hk hv allowed, by simpa [height] using ⟨hkh, hvh⟩, fun more spells => ?_⟩
          simpa using hs more spells
      · next hlist hmap =>
          refine sound_afterName sound (.word ?_) h
          rw [keywords_eq, List.mem_append, not_or]
          exact ⟨primitive?_eq_none_iff.mp hp, by simp [hlist, hmap]⟩

theorem sound_typeOf (sound : Sound n type) : Sound (n + 1) (typeOf type) := by
  intro cursor d next h
  rcases exists_begins_of_typeOf h with ⟨rest, begins⟩ | ⟨name, rest, begins⟩ | ⟨word, rest, begins⟩
  · obtain ⟨inside, rfl, ht⟩ := typeOf_dollar type begins
    rw [ht] at h
    obtain ⟨⟨name, after⟩, hname, h⟩ := bind_eq_ok_iff.mp h
    obtain ⟨rfl, rfl⟩ := Prod.mk.inj (Except.ok.inj h)
    obtain ⟨slot, names, hslot⟩ := exists_name_iff.mp ⟨after, hname, rfl⟩
    exact ⟨_, .var names, by simp [height], fun more spells => ⟨_, begins, _, hslot, spells⟩⟩
  · obtain ⟨inside, rfl, ht⟩ := typeOf_quoted type begins
    obtain ⟨tokens, hd, hh, hs⟩ := sound_afterName sound (.quoted name) (ht ▸ h)
    exact ⟨_, hd, hh, fun more spells => ⟨_, begins, hs more spells⟩⟩
  · obtain ⟨inside, rfl, ht⟩ := typeOf_word type begins
    obtain ⟨tokens, hd, hh, hs⟩ := sound_afterWord sound (ht ▸ h)
    exact ⟨_, hd, hh, fun more spells => ⟨_, begins, hs more spells⟩⟩

/-- What is taken is derived, by induction on the levels that may be opened. -/
theorem sound_typeAt (levels : Nat) : Sound levels (typeAt levels) := by
  induction levels with
  | zero =>
      intro cursor d next h
      cases h
  | succ levels ih => exact sound_typeOf ih

-----------------------------------------------------------------------------------------
-- What is derived is taken
-----------------------------------------------------------------------------------------

theorem exists_eat?_of_spells {mark : Char} {cursor : Cursor} {more : List Token}
    (spells : Spells (.mark mark :: more) cursor.rest)
    : ∃ next, cursor.skipBlanks.eat? mark = some next ∧ Spells more next.rest := by
  obtain ⟨rest, begins, spells⟩ := spells
  have ht := (Token.begins_mark_iff.mp begins).2
  rw [← Cursor.rest_skipBlanks] at ht
  obtain ⟨next, hn, rfl⟩ := Cursor.exists_eat?_iff.mpr ht
  exact ⟨next, hn, spells⟩

theorem exists_expect_of_spells {mark : Char} {cursor : Cursor} {more : List Token}
    (spells : Spells (.mark mark :: more) cursor.rest)
    : ∃ next, expect mark cursor = .ok next ∧ Spells more next.rest := by
  obtain ⟨next, hn, spells⟩ := exists_eat?_of_spells spells
  exact ⟨next, by simp only [expect, hn], spells⟩

/-- A type is taken wherever tokens that it is derived from are spelled, if it is no higher than
the given number of levels and no mark that opens arguments follows. -/
def Complete (n : Nat) (type : Parse Descriptor) : Prop :=
  ∀ tokens d, Derives tokens d → d.height ≤ n →
    ∀ cursor more, Spells (tokens ++ more) cursor.rest → Apart '<' more →
      ∃ next, type cursor = .ok (d, next) ∧ Spells more next.rest

theorem complete_listTail (complete : Complete n type) {tokens more : List Token}
    {item : Descriptor} (derives : Derives tokens item) (height : item.height ≤ n)
    {cursor : Cursor}
    (spells : Spells (.mark '<' :: (tokens ++ .mark '>' :: more)) cursor.rest)
    : ∃ next, listTail type cursor = .ok (.list item, next) ∧ Spells more next.rest := by
  obtain ⟨opened, ho, spells⟩ := exists_expect_of_spells spells
  obtain ⟨after, hi, spells⟩ :=
    complete _ _ derives height _ _ spells (apart_mark (by decide) more)
  obtain ⟨closed, hc, spells⟩ := exists_expect_of_spells spells
  exact ⟨closed, by simp only [listTail, ho, hi, hc, ok_bind], spells⟩

theorem complete_mapTail (complete : Complete n type) {keyTokens valueTokens more : List Token}
    {key value : Descriptor} (left : Derives keyTokens key) (right : Derives valueTokens value)
    (allowed : key.isKey = true) (keyHeight : key.height ≤ n) (valueHeight : value.height ≤ n)
    {start cursor : Cursor}
    (spells : Spells
      (.mark '<' :: (keyTokens ++ .mark ',' :: (valueTokens ++ .mark '>' :: more))) cursor.rest)
    : ∃ next, mapTail type start cursor = .ok (.map key value, next) ∧ Spells more next.rest := by
  obtain ⟨opened, ho, spells⟩ := exists_expect_of_spells spells
  obtain ⟨afterKey, hk, spells⟩ :=
    complete _ _ left keyHeight _ _ spells (apart_mark (by decide) _)
  obtain ⟨middle, hm, spells⟩ := exists_expect_of_spells spells
  obtain ⟨after, hv, spells⟩ :=
    complete _ _ right valueHeight _ _ spells (apart_mark (by decide) more)
  obtain ⟨closed, hc, spells⟩ := exists_expect_of_spells spells
  exact ⟨closed, by simp only [mapTail, ho, hk, hm, hv, hc, ok_bind, allowed, if_true], spells⟩

/-- The first argument is taken up to the mark behind its type, which tells whether the arguments
end there. -/
theorem complete_argument (complete : Complete n type) {argument : Argument} {more : List Token}
    (names : argument.slot.Names argument.name) (derives : Derives argument.tokens argument.type)
    (height : argument.type.height ≤ n) (apart : Apart '<' more) {bound : Nat} {known : Bindings}
    (unbound : known.lookup argument.name = none) {cursor : Cursor}
    (spells : Spells (argument.spelling ++ more) cursor.rest)
    : ∃ next : Cursor, Spells more next.rest
        ∧ argumentsFrom type (bound + 1) known cursor
          = match next.skipBlanks.eat? '>' with
            | some closed => .ok (Directory.insert argument.name argument.type known, closed)
            | none => expect ',' next.skipBlanks >>= argumentsFrom type bound
                (Directory.insert argument.name argument.type known) := by
  obtain ⟨_, begins, spells⟩ := spells
  obtain ⟨afterName, hname, rfl⟩ := exists_name_iff.mpr ⟨_, names, begins⟩
  obtain ⟨equals, he, spells⟩ := exists_expect_of_spells spells
  obtain ⟨next, hd, spells⟩ := complete _ _ derives height _ _ spells apart
  refine ⟨next, spells, ?_⟩
  cases hclosed : next.skipBlanks.eat? '>' with
  | none | some _ =>
      simp only [argumentsFrom, hname, he, hd, hclosed, ok_bind, unbound, Option.isSome_none,
        Bool.false_eq_true, if_false]

/-- Arguments are taken one after the other, by induction on those behind the first one. -/
theorem complete_argumentsFrom (complete : Complete n type) {bound : Nat} {known : Bindings}
    {first : Argument} {rest : List Argument} {more : List Token}
    (slots : ∀ argument ∈ first :: rest, argument.slot.Names argument.name)
    (types : ∀ argument ∈ first :: rest, Derives argument.tokens argument.type)
    (heights : ∀ argument ∈ first :: rest, argument.type.height ≤ n)
    (fresh : Directory.Fresh ((first :: rest).map Argument.pair) known)
    (enough : rest.length < bound) {cursor : Cursor}
    (spells : Spells (first.spelling ++ (Argument.following rest ++ .mark '>' :: more))
      cursor.rest)
    : ∃ next, argumentsFrom type bound known cursor
          = .ok (Directory.insertAll ((first :: rest).map Argument.pair) known, next)
        ∧ Spells more next.rest := by
  induction rest generalizing first known bound cursor with
  | nil =>
      obtain ⟨bound, rfl⟩ := Nat.exists_eq_succ_of_ne_zero (Nat.ne_zero_of_lt enough)
      obtain ⟨unbound, _⟩ := Directory.fresh_cons_iff.mp fresh
      obtain ⟨after, spells, ha⟩ :=
        complete_argument complete (slots first (by simp)) (types first (by simp))
          (heights first (by simp)) (apart_mark (by decide) more) unbound spells
      obtain ⟨closed, hc, spells⟩ := exists_eat?_of_spells spells
      refine ⟨closed, ?_, spells⟩
      rw [ha, hc]
      rfl
  | cons second rest ih =>
      obtain ⟨bound, rfl⟩ := Nat.exists_eq_succ_of_ne_zero (Nat.ne_zero_of_lt enough)
      obtain ⟨unbound, fresh⟩ := Directory.fresh_cons_iff.mp fresh
      have hbehind : Argument.following (second :: rest) ++ .mark '>' :: more
          = .mark ',' :: (second.spelling ++ (Argument.following rest ++ .mark '>' :: more)) := by
        simp [Argument.following]
      rw [hbehind] at spells
      obtain ⟨after, spells, ha⟩ :=
        complete_argument complete (slots first (by simp)) (types first (by simp))
          (heights first (by simp)) (apart_mark (by decide) _) unbound spells
      have hclose : after.skipBlanks.eat? '>' = none := by
        rw [Cursor.eat?_eq_none_iff, Cursor.rest_skipBlanks]
        exact ne_of_apart (by decide) spells (apart_mark (by decide) _)
      rw [← spells_dropBlanks_iff, ← Cursor.rest_skipBlanks] at spells
      obtain ⟨comma, hcomma, spells⟩ := exists_expect_of_spells spells
      obtain ⟨next, hn, spells⟩ := ih (fun argument hm => slots argument (.tail _ hm))
        (fun argument hm => types argument (.tail _ hm))
        (fun argument hm => heights argument (.tail _ hm)) fresh (Nat.lt_of_succ_lt_succ enough)
        spells
      refine ⟨next, ?_, spells⟩
      rw [ha, hclose, hcomma]
      exact hn

/-- A text is at least as long as the tokens that it spells are many. -/
theorem length_le_of_spells {tokens : List Token} {text : List Char} (h : Spells tokens text)
    : tokens.length ≤ text.length := by
  induction tokens generalizing text with
  | nil => exact Nat.zero_le _
  | cons token more ih =>
      obtain ⟨rest, ⟨blanks, written, _, hw, rfl, _⟩, spells⟩ := h
      obtain ⟨c, tail, rfl, _⟩ := hw.exists_cons
      have hrest := ih spells
      simp only [List.length_append, List.length_cons]
      omega

theorem length_le_following (arguments : List Argument)
    : arguments.length ≤ (Argument.following arguments).length := by
  induction arguments with
  | nil => exact Nat.zero_le _
  | cons argument rest ih =>
      simp only [Argument.following, List.flatMap_cons, List.length_append, List.length_cons]
        at ih ⊢
      omega

theorem complete_generic (complete : Complete n type) {name : String} {first : Argument}
    {rest : List Argument} {more : List Token}
    (slots : ∀ argument ∈ first :: rest, argument.slot.Names argument.name)
    (types : ∀ argument ∈ first :: rest, Derives argument.tokens argument.type)
    (heights : ∀ argument ∈ first :: rest, argument.type.height ≤ n)
    (distinct : Members.Distinct ((first :: rest).map Argument.pair)) {cursor : Cursor}
    (spells : Spells
      (.mark '<' :: (first.spelling ++ (Argument.following rest ++ .mark '>' :: more)))
      cursor.rest)
    : ∃ next, afterName type name cursor
          = .ok (.generic name (Directory.ofList ((first :: rest).map Argument.pair)), next)
        ∧ Spells more next.rest := by
  obtain ⟨inside, begins, spells⟩ := spells
  obtain ⟨opened, rfl, ha⟩ := afterName_generic type name begins
  have enough : rest.length < opened.rest.length + 1 := by
    have hlength := length_le_of_spells spells
    have hrest := length_le_following rest
    simp only [List.length_append] at hlength
    omega
  obtain ⟨next, hn, spells⟩ := complete_argumentsFrom complete slots types heights
    (Directory.fresh_nil_iff.mpr distinct) enough spells
  exact ⟨next, by rw [ha, hn, ok_bind, Directory.ofList_eq_insertAll], spells⟩

/-- One level of types more, by the rule that the type is derived with. -/
theorem complete_typeOf (complete : Complete n type) : Complete (n + 1) (typeOf type) := by
  intro tokens d derives height cursor more spells apart
  rw [height_le_succ_iff] at height
  cases derives with
  | var names =>
      obtain ⟨_, dollar, _, begins, spells⟩ := spells
      obtain ⟨inside, rfl, ht⟩ := typeOf_dollar type dollar
      obtain ⟨next, hn, rfl⟩ := exists_name_iff.mpr ⟨_, names, begins⟩
      exact ⟨next, by rw [ht, hn, ok_bind], spells⟩
  | primitive known =>
      obtain ⟨_, begins, spells⟩ := spells
      obtain ⟨next, rfl, ht⟩ := typeOf_word type begins
      exact ⟨next, by simp only [ht, afterWord, primitive?_eq_some_iff.mpr known], spells⟩
  | list derives =>
      obtain ⟨_, begins, spells⟩ := spells
      obtain ⟨opened, rfl, ht⟩ := typeOf_word type begins
      obtain ⟨next, hn, spells⟩ := complete_listTail complete derives (height _ (by simp [parts]))
        (by simpa using spells)
      exact ⟨next, by rw [ht]; exact hn, spells⟩
  | map left right allowed =>
      obtain ⟨_, begins, spells⟩ := spells
      obtain ⟨opened, rfl, ht⟩ := typeOf_word type begins
      obtain ⟨next, hn, spells⟩ := complete_mapTail complete left right allowed
        (height _ (by simp [parts])) (height _ (by simp [parts])) (by simpa using spells)
      exact ⟨next, by rw [ht]; exact hn, spells⟩
  | named heads =>
      obtain ⟨_, begins, spells⟩ := spells
      obtain ⟨next, rfl, ht⟩ := typeOf_head type heads begins
      have hopen := ne_of_apart (by decide) spells apart
      rw [← spells_dropBlanks_iff, ← Cursor.rest_skipBlanks] at spells
      exact ⟨_, by rw [ht, afterName_named hopen], spells⟩
  | generic heads slots types distinct =>
      obtain ⟨_, begins, spells⟩ := spells
      obtain ⟨opened, rfl, ht⟩ := typeOf_head type heads begins
      rw [ht]
      refine complete_generic complete slots types ?_ distinct (by simpa using spells)
      intro argument hm
      exact height _ (List.mem_map_of_mem
        ((Directory.mem_ofList distinct).mpr (List.mem_map_of_mem hm)))

/-- What is derived is taken, by induction on the levels that may be opened. -/
theorem complete_typeAt (levels : Nat) : Complete levels (typeAt levels) := by
  induction levels with
  | zero =>
      intro tokens d _ height
      exact absurd height (Nat.not_le_of_lt (height_pos d))
  | succ levels ih => exact complete_typeOf ih

end Parser

-----------------------------------------------------------------------------------------
-- Whole texts
-----------------------------------------------------------------------------------------

/-- The text is in the grammar, with the descriptor as its meaning: it spells tokens that the
descriptor is derived from, which is not nested too deeply. -/
def Grammatical (text : String) (d : Descriptor) : Prop :=
  ∃ tokens, Spells tokens text.toList ∧ Derives tokens d ∧ d.height ≤ greatestNesting

theorem ofText_eq_ok_iff {text : String} {d : Descriptor}
    : ofText text = .ok d ↔ Grammatical text d := by
  simp only [ofText, bind_eq_ok_iff]
  constructor
  · intro given
    rcases given with ⟨⟨found, cursor⟩, ht, h⟩
    split at h
    · next hempty =>
        obtain rfl := Except.ok.inj h
        obtain ⟨tokens, derives, height, spelled⟩ := Parser.sound_typeAt _ _ _ _ ht
        have hrest : Spells [] cursor.rest := by
          rw [Parser.Cursor.rest_skipBlanks, List.isEmpty_iff] at hempty
          exact List.dropWhile_eq_nil_iff.mp hempty
        exact ⟨tokens, by simpa using spelled [] hrest, derives, height⟩
    · cases h
  · intro given
    rcases given with ⟨tokens, spells, derives, height⟩
    obtain ⟨next, hn, hrest⟩ := Parser.complete_typeAt _ tokens d derives height
      ⟨0, text.toList⟩ [] (by simpa using spells) (fun _ h => nomatch h)
    refine ⟨_, hn, ?_⟩
    have hempty : next.skipBlanks.rest = [] := by
      rw [Parser.Cursor.rest_skipBlanks]
      exact List.dropWhile_eq_nil_iff.mpr hrest
    simp [hempty]

theorem Grammatical.unique {text : String} {d d' : Descriptor} (h : Grammatical text d)
    (h' : Grammatical text d')
    : d = d' :=
  Except.ok.inj ((ofText_eq_ok_iff.mpr h).symm.trans (ofText_eq_ok_iff.mpr h'))

/-- What a text means depends on its tokens alone. -/
theorem grammatical_iff_of_spells {tokens : List Token} {text other : String} {d : Descriptor}
    (h : Spells tokens text.toList) (h' : Spells tokens other.toList)
    : Grammatical text d ↔ Grammatical other d := by
  constructor
  · intro given
    rcases given with ⟨found, spells, derives⟩
    obtain rfl := spells.unique h
    exact ⟨found, h', derives⟩
  · intro given
    rcases given with ⟨found, spells, derives⟩
    obtain rfl := spells.unique h'
    exact ⟨found, h, derives⟩

/-- The arguments of a generic type are separated if the tokens of each one's type are, by
induction on the arguments behind the first one. -/
theorem separated_arguments {first : Argument} {rest : List Argument}
    (types : ∀ argument ∈ first :: rest, Separated argument.tokens)
    : Separated (first.spelling ++ (Argument.following rest ++ [.mark '>'])) := by
  rw [Argument.spelling, List.cons_append, List.cons_append]
  apply separated_name_mark
  induction rest generalizing first with
  | nil => exact (types first (by simp)).append_mark (List.isChain_nil)
  | cons second rest ih =>
      have hrest := ih fun argument hm => types argument (.tail _ hm)
      have hbehind : Argument.following (second :: rest) ++ [.mark '>']
          = .mark ',' :: second.slot :: .mark '=' ::
              (second.tokens ++ (Argument.following rest ++ [.mark '>'])) := by
        simp [Argument.following, Argument.spelling]
      rw [hbehind]
      exact (types first (by simp)).append_mark (separated_name_mark hrest)

/-- In the tokens of a type no two names follow each other. -/
theorem Derives.separated {tokens : List Token} {d : Descriptor} (derives : Derives tokens d)
    : Separated tokens := by
  induction derives with
  | var => exact separated_mark_cons_iff.mpr (List.isChain_singleton _)
  | primitive => exact List.isChain_singleton _
  | list _ ih => exact separated_name_mark (ih.append_mark List.isChain_nil)
  | map _ _ _ left right =>
      exact separated_name_mark (left.append_mark (right.append_mark List.isChain_nil))
  | named => exact List.isChain_singleton _
  | generic _ _ _ _ types => exact separated_name_mark (separated_arguments types)

/-- The parser accepts exactly the grammar: a text is read as a descriptor if and only if it
spells tokens that the grammar derives the descriptor from. So no text has two readings. Texts
that spell the same tokens are read alike, and around the tokens of a text that is read blanks
may be put in or left out anywhere. -/
theorem ofText_reads_grammar (text : String) (d : Descriptor)
    : (ofText text = .ok d ↔ Grammatical text d)
        ∧ (∀ d', Grammatical text d → Grammatical text d' → d = d')
        ∧ ∀ tokens, Spells tokens text.toList → ∀ other : String,
          (Spells tokens other.toList → (ofText text = .ok d ↔ ofText other = .ok d))
            ∧ (ofText text = .ok d → Spaced tokens other.toList → ofText other = .ok d) := by
  refine ⟨ofText_eq_ok_iff, fun d' h h' => h.unique h', fun tokens spells other => ⟨?_, ?_⟩⟩
  · intro same
    rw [ofText_eq_ok_iff, ofText_eq_ok_iff]
    exact grammatical_iff_of_spells spells same
  · intro read spaced
    obtain ⟨found, spells', derives, height⟩ := ofText_eq_ok_iff.mp read
    obtain rfl := spells'.unique spells
    exact ofText_eq_ok_iff.mpr ⟨found, spaced.spells derives.separated, derives, height⟩

/-- `set<T=int>` is a type of the grammar, and blanks between its tokens change nothing. -/
theorem ofText_reads_grammar_set
    : Grammatical "set<T=int>" (.generic "set" [("T", .integer)])
        ∧ ofText " set < T =\tint>\n" = .ok (.generic "set" [("T", .integer)]) := by
  have set : (Token.word "set").Written "set".toList := .of_all (by decide) (by decide)
  have slot : (Token.word "T").Written "T".toList := .of_all (by decide) (by decide)
  have int : (Token.word "int").Written "int".toList := .of_all (by decide) (by decide)
  have mark : ∀ c ∈ marks, (Token.mark c).Written [c] := fun _ => .mark
  have none : ∀ c ∈ [], Text.isBlank c = true := by simp
  have blank : ∀ c ∈ [' ', '\t', '\n'], ∀ b ∈ [c], Text.isBlank b = true := by
    simp [Text.isBlank]
  have read : ofText "set<T=int>" = .ok (.generic "set" [("T", .integer)]) := by decide +kernel
  have spaced : Spaced [.word "set", .mark '<', .word "T", .mark '=', .word "int", .mark '>']
      "set<T=int>".toList :=
    ⟨[], _, _, none, set, rfl, [], _, _, none, mark '<' (by decide), rfl,
      [], _, _, none, slot, rfl, [], _, _, none, mark '=' (by decide), rfl,
      [], _, _, none, int, rfl, [], _, [], none, mark '>' (by decide), rfl, none⟩
  have respaced : Spaced [.word "set", .mark '<', .word "T", .mark '=', .word "int", .mark '>']
      " set < T =\tint>\n".toList :=
    ⟨[' '], _, _, blank ' ' (by simp), set, rfl,
      [' '], _, _, blank ' ' (by simp), mark '<' (by decide), rfl,
      [' '], _, _, blank ' ' (by simp), slot, rfl,
      [' '], _, _, blank ' ' (by simp), mark '=' (by decide), rfl,
      ['\t'], _, _, blank '\t' (by simp), int, rfl,
      [], _, ['\n'], none, mark '>' (by decide), rfl, blank '\n' (by simp)⟩
  have separated : Separated
      [.word "set", .mark '<', .word "T", .mark '=', .word "int", .mark '>'] :=
    separated_name_mark (separated_name_mark (separated_name_mark List.isChain_nil))
  have all := ofText_reads_grammar "set<T=int>" (.generic "set" [("T", .integer)])
  exact ⟨all.1.mp read,
    ((all.2.2 _ (spaced.spells separated) " set < T =\tint>\n").2 read) respaced⟩

end TypedJson.Descriptor
