import TypedJson.Proofs.Descriptor.Stepwise
import TypedJson.Proofs.Descriptor.Token

/-!
Where the parser of descriptors is in its text. The parser that goes step by step follows the one
with cursors: from an offset at a character it comes to the same result, at the offset of the
cursor behind it, or to the same complaint, at the offset that this is about. So it never asks for
a part of the text that does not begin and end with a character, its trail is of such offsets, and
the bounds that it is given do not cut it off.
-/

namespace TypedJson.Descriptor

-----------------------------------------------------------------------------------------
-- Cursors behind each other
-----------------------------------------------------------------------------------------

namespace Parser.Cursor

/-- The start of a text. -/
def start (text : String) : Cursor :=
  ⟨0, text.toList⟩

/-- The second cursor is behind the first one in the same text, and as many bytes further as stand
between them. -/
def Leads (cursor next : Cursor) : Prop :=
  ∃ taken, cursor.rest = taken ++ next.rest ∧ next.offset = cursor.offset + Text.Utf8.size taken

namespace Leads

variable {text : String} {cursor next last : Cursor}

theorem refl (cursor : Cursor) : cursor.Leads cursor :=
  ⟨[], rfl, rfl⟩

theorem trans (h : cursor.Leads next) (h' : next.Leads last) : cursor.Leads last := by
  obtain ⟨taken, ht, ho⟩ := h
  obtain ⟨more, hm, hl⟩ := h'
  refine ⟨taken ++ more, by rw [ht, hm, List.append_assoc], ?_⟩
  rw [Text.Utf8.size_append, hl, ho, Nat.add_assoc]

theorem length_le (h : cursor.Leads next) : next.rest.length ≤ cursor.rest.length := by
  obtain ⟨taken, ht, _⟩ := h
  rw [ht, List.length_append]
  exact Nat.le_add_left _ _

/-- The text can be taken from where a cursor is. -/
theorem split?_eq (h : (start text).Leads cursor)
    : ∃ front, Text.Utf8.split? cursor.offset text.toList = some (front, cursor.rest) := by
  obtain ⟨front, ht, ho⟩ := h
  exact ⟨front, Text.Utf8.split?_eq_some_iff.mpr ⟨ht, by rw [ho]; exact (Nat.zero_add _).symm⟩⟩

/-- The text goes on where the offset is less than its size. -/
theorem offset_lt_size_iff (h : (start text).Leads cursor)
    : cursor.offset < Text.Utf8.size text.toList ↔ cursor.rest.isEmpty = false := by
  obtain ⟨front, ht, ho⟩ := h
  have hoffset : cursor.offset = Text.Utf8.size front := ho.trans (Nat.zero_add _)
  have hsize : Text.Utf8.size text.toList = cursor.offset + Text.Utf8.size cursor.rest := by
    rw [hoffset, ← Text.Utf8.size_append, ← ht]
    rfl
  rw [hsize]
  cases cursor.rest with
  | nil => simp [Text.Utf8.size]
  | cons c rest =>
      have := c.utf8Size_pos
      simp only [Text.Utf8.size, List.isEmpty_cons, iff_true]
      omega

end Leads

end Parser.Cursor

open TypedJson.Descriptor.Parser (Cursor)

/-- The stand is at a character of the text or at its end, with no more types open than is
allowed. -/
structure Stand.Valid (text : String) (stand : Stand) : Prop where
  inside : stand.offset ≤ text.utf8ByteSize
  boundary : (⟨stand.offset⟩ : String.Pos.Raw).IsValid text
  depth : stand.depth ≤ greatestNesting

theorem Stand.valid_of_leads {text : String} {cursor : Cursor} {depth : Nat}
    (h : (Cursor.start text).Leads cursor) (hd : depth ≤ greatestNesting)
    : Stand.Valid text ⟨cursor.offset, depth⟩ := by
  obtain ⟨front, ht, ho⟩ := h
  have hoffset : cursor.offset = Text.Utf8.size front := ho.trans (Nat.zero_add _)
  have boundary : (⟨cursor.offset⟩ : String.Pos.Raw).IsValid text := by
    rw [hoffset]
    exact Text.Utf8.isValid_of_append ht
  exact ⟨boundary.le_utf8ByteSize, boundary, hd⟩

/-- No stand is before an earlier one. -/
def Rising (stands : List Stand) : Prop :=
  stands.Pairwise fun later earlier => earlier.offset ≤ later.offset

/-- A complaint about an offset that was passed already. -/
def Complaint.goesBack : Complaint → Bool
  | .unfinishedQuote | .keyNotAllowed => true
  | _ => false

namespace Trail

/-- All stands are valid, and none is before an earlier one. -/
structure Rises (text : String) (trail : Trail) : Prop where
  valid : ∀ stand ∈ trail.stands, stand.Valid text
  rising : Rising trail.stands

/-- All stands are valid, and none is before an earlier one up to those at the offset that is
complained about; but for two complaints none of these is before an earlier one either. -/
structure RisesUpTo (text : String) (e : SyntaxError) (trail : Trail) : Prop where
  valid : ∀ stand ∈ trail.stands, stand.Valid text
  settled : ∃ settled before, trail.stands = settled ++ before ∧ Rising before
    ∧ ∀ stand ∈ settled, stand.offset = e.position
  rising : e.complaint.goesBack = false → Rising trail.stands

variable {text : String} {trail : Trail} {stand : Stand} {e : SyntaxError}

theorem stands_step (trail : Trail) (stand : Stand)
    : (trail.step stand).stands = stand :: trail.stands :=
  rfl

theorem rising_step (rising : Rising trail.stands) (onward : trail.now.offset ≤ stand.offset)
    : Rising (trail.step stand).stands := by
  refine List.pairwise_cons.mpr ⟨fun earlier mem => ?_, rising⟩
  rcases List.mem_cons.mp mem with rfl | mem
  · exact onward
  · exact Nat.le_trans ((List.pairwise_cons.mp rising).1 earlier mem) onward

theorem Rises.step (rises : trail.Rises text) (valid : stand.Valid text)
    (onward : trail.now.offset ≤ stand.offset)
    : (trail.step stand).Rises text :=
  ⟨List.forall_mem_cons.mpr ⟨valid, rises.valid⟩, rising_step rises.rising onward⟩

theorem Rises.upTo (rises : trail.Rises text) (e : SyntaxError) : trail.RisesUpTo text e :=
  ⟨rises.valid, ⟨[], trail.stands, rfl, rises.rising, fun _ mem => nomatch mem⟩,
    fun _ => rises.rising⟩

theorem RisesUpTo.step (rises : trail.RisesUpTo text e) (valid : stand.Valid text)
    (onward : trail.now.offset ≤ stand.offset) (there : stand.offset = e.position)
    : (trail.step stand).RisesUpTo text e := by
  refine ⟨List.forall_mem_cons.mpr ⟨valid, rises.valid⟩, ?_, fun straight => ?_⟩
  · obtain ⟨settled, before, hs, rising, hall⟩ := rises.settled
    refine ⟨stand :: settled, before, by rw [stands_step, hs]; rfl, rising, ?_⟩
    exact List.forall_mem_cons.mpr ⟨there, hall⟩
  · exact rising_step (rises.rising straight) onward

end Trail

-----------------------------------------------------------------------------------------
-- Runs that follow the parser
-----------------------------------------------------------------------------------------

namespace Run

variable {α β : Type} {text : String} {depth : Nat} {cursor next : Cursor}

/-- A run has come to what the parser comes to from a cursor, with as many types open as at first:
to the same result, behind what was taken; or to the same complaint, at its offset. -/
inductive Ends (text : String) (depth : Nat) (cursor : Cursor)
    : Except SyntaxError (α × Cursor) → Except Halt α × Trail → Prop where
  | ok {a : α} {next : Cursor} {trail : Trail} (leads : cursor.Leads next)
    (here : trail.now = ⟨next.offset, depth⟩) (rises : trail.Rises text)
    : Ends text depth cursor (.ok (a, next)) (.ok a, trail)
  | error {e : SyntaxError} {trail : Trail} (here : trail.now = ⟨e.position, depth⟩)
    (rises : trail.RisesUpTo text e)
    : Ends text depth cursor (.error e) (.error (.refused e), trail)

/-- From the cursor's offset the run comes to what the parser comes to. -/
def Follows (text : String) (depth : Nat) (run : Run α) (cursor : Cursor)
    (x : Except SyntaxError (α × Cursor)) : Prop :=
  ∀ trail : Trail, (Cursor.start text).Leads cursor → trail.now = ⟨cursor.offset, depth⟩ →
    trail.Rises text → Ends text depth cursor x (run trail)

theorem Ends.of_leads {x : Except SyntaxError (α × Cursor)} {outcome : Except Halt α × Trail}
    (leads : cursor.Leads next) (h : Ends text depth next x outcome)
    : Ends text depth cursor x outcome := by
  cases h with
  | ok leads' here rises => exact .ok (leads.trans leads') here rises
  | error here rises => exact .error here rises

theorem Follows.pure (a : α) : Follows text depth (pure a) cursor (.ok (a, cursor)) :=
  fun _ _ here rises => .ok (.refl cursor) here rises

/-- What comes next follows from where the cursor is then. -/
theorem Follows.bind {run : Run α} {f : α → Run β} {x : Except SyntaxError (α × Cursor)}
    {g : α × Cursor → Except SyntaxError (β × Cursor)} (h : Follows text depth run cursor x)
    (next : ∀ a next, x = .ok (a, next) → cursor.Leads next →
      Follows text depth (f a) next (g (a, next)))
    : Follows text depth (run >>= f) cursor (x >>= g) := by
  intro trail inText here rises
  have ends := h trail inText here rises
  generalize hr : run trail = outcome at ends
  cases ends with
  | ok leads here' rises' =>
      rw [bind_eq_of_ok hr]
      exact (next _ _ rfl leads _ (inText.trans leads) here' rises').of_leads leads
  | error here' rises' =>
      rw [bind_eq_of_error hr]
      exact .error here' rises'

theorem Follows.now
    : Follows text depth Run.now cursor (.ok (⟨cursor.offset, depth⟩, cursor)) := by
  intro trail inText here rises
  rw [now_eq, here]
  exact .ok (.refl cursor) here rises

/-- A step that is always taken. -/
theorem Follows.step {run : Run α} {f : α → Run β} {a : α} {x : Except SyntaxError (β × Cursor)}
    (h : Follows text depth run cursor (.ok (a, next)))
    (rest : cursor.Leads next → Follows text depth (f a) next x)
    : Follows text depth (run >>= f) cursor x := by
  refine h.bind (g := fun _ => x) fun a' next' he leads => ?_
  obtain ⟨rfl, rfl⟩ := Prod.mk.inj (Except.ok.inj he)
  exact rest leads

theorem Follows.refuse (complaint : Complaint)
    : Follows text depth (Run.refuse complaint : Run α) cursor
        (.error (cursor.complain complaint)) := by
  intro trail inText here rises
  show Ends text depth cursor _ (.error (.refused ⟨trail.now.offset, complaint⟩), trail)
  rw [here]
  exact .error here (rises.upTo _)

/-- Going back to an offset that was passed, for a complaint that is about such an offset. -/
theorem Follows.refuseAt {start : Cursor} {complaint : Complaint}
    (inText : (Cursor.start text).Leads start) (back : complaint.goesBack = true)
    : Follows text depth (Run.refuseAt start.offset complaint : Run α) cursor
        (.error (start.complain complaint)) := by
  intro trail _ here rises
  have hdepth : trail.now.depth = depth := by rw [here]
  show Ends text depth cursor _ (.error (.refused ⟨start.offset, complaint⟩),
    trail.step ⟨start.offset, trail.now.depth⟩)
  have valid : Stand.Valid text ⟨start.offset, trail.now.depth⟩ :=
    Stand.valid_of_leads inText (rises.valid _ List.mem_cons_self).depth
  refine .error (by rw [hdepth]; rfl) ⟨List.forall_mem_cons.mpr ⟨valid, rises.valid⟩, ?_, ?_⟩
  · exact ⟨[_], trail.stands, rfl, rises.rising, fun stand mem => by
      rw [List.mem_singleton.mp mem]; rfl⟩
  · exact fun straight => nomatch back.symm.trans straight

/-- Going on behind a part of the text. -/
theorem Follows.advance (taken : List Char) {rest : List Char} {bytes : Nat}
    (h : cursor.rest = taken ++ rest) (size : bytes = Text.Utf8.size taken)
    : Follows text depth (Run.advance bytes) cursor (.ok ((), ⟨cursor.offset + bytes, rest⟩)) := by
  intro trail inText here rises
  have leads : cursor.Leads ⟨cursor.offset + bytes, rest⟩ := ⟨taken, h, by rw [size]⟩
  have hdepth : depth ≤ greatestNesting := by
    have valid := (rises.valid _ List.mem_cons_self).depth
    rwa [here] at valid
  show Ends text depth cursor _ (.ok (), trail.step ⟨trail.now.offset + bytes, trail.now.depth⟩)
  rw [here]
  refine .ok leads rfl (rises.step (Stand.valid_of_leads (inText.trans leads) hdepth) ?_)
  rw [here]
  exact Nat.le_add_right _ _

theorem Follows.advance_char (c : Char) {rest : List Char} (h : cursor.rest = c :: rest)
    : Follows text depth (Run.advance c.utf8Size) cursor
        (.ok ((), ⟨cursor.offset + c.utf8Size, rest⟩)) :=
  .advance [c] h (Nat.add_zero c.utf8Size).symm

theorem Follows.behind
    : Follows text depth (Run.behind text.toList) cursor (.ok (cursor.rest, cursor)) := by
  intro trail inText here rises
  obtain ⟨front, hs⟩ := inText.split?_eq
  have hrun : Run.behind text.toList trail = (.ok cursor.rest, trail) := by
    have hsplit : Run.split trail.now.offset text.toList = Pure.pure (front, cursor.rest) := by
      rw [here, Run.split, hs]
    show (Run.split trail.now.offset text.toList >>= fun parts => Pure.pure parts.2) trail = _
    rw [hsplit]
    rfl
  rw [hrun]
  exact .ok (.refl cursor) here rises

/-- A type that is open while a run goes on is closed again, whatever the run comes to. -/
theorem Follows.inType {run : Run α} {x : Except SyntaxError (α × Cursor)}
    (room : depth < greatestNesting) (h : Follows text (depth + 1) run cursor x)
    : Follows text depth (Run.inType run) cursor x := by
  intro trail inText here rises
  have opened : (trail.step ⟨cursor.offset, depth + 1⟩).Rises text :=
    rises.step (Stand.valid_of_leads inText room) (by rw [here])
  have ends := h _ inText rfl opened
  have hopen : trail.step ⟨cursor.offset, depth + 1⟩
      = trail.step ⟨trail.now.offset, trail.now.depth + 1⟩ := by rw [here]
  rw [hopen] at ends
  generalize hr : run (trail.step ⟨trail.now.offset, trail.now.depth + 1⟩) = outcome at ends
  cases ends with
  | ok leads here' rises' =>
      rw [inType_eq hr here']
      have valid := Stand.valid_of_leads (inText.trans leads) (Nat.le_of_lt room)
      exact .ok leads rfl (rises'.step valid (by rw [here']))
  | error here' rises' =>
      rw [inType_eq hr here']
      have before := rises'.valid _ List.mem_cons_self
      rw [here'] at before
      have valid : Stand.Valid text ⟨_, depth⟩ :=
        ⟨before.inside, before.boundary, Nat.le_of_lt room⟩
      exact .error rfl (rises'.step valid (by rw [here']) rfl)

-----------------------------------------------------------------------------------------
-- Blanks, marks and names
-----------------------------------------------------------------------------------------

variable {x : Except SyntaxError (β × Cursor)}

theorem Follows.skipBlanks
    : Follows text depth (Run.skipBlanks text.toList) cursor (.ok ((), cursor.skipBlanks)) := by
  have hparts : cursor.rest
      = cursor.rest.takeWhile Text.isBlank ++ Text.dropBlanks cursor.rest :=
    List.takeWhile_append_dropWhile.symm
  have hsize : Text.Utf8.size cursor.rest - Text.Utf8.size (Text.dropBlanks cursor.rest)
      = Text.Utf8.size (cursor.rest.takeWhile Text.isBlank) := by
    have h := congrArg Text.Utf8.size hparts
    rw [Text.Utf8.size_append] at h
    omega
  have hskip : cursor.skipBlanks
      = ⟨cursor.offset + (Text.Utf8.size cursor.rest
          - Text.Utf8.size (Text.dropBlanks cursor.rest)), Text.dropBlanks cursor.rest⟩ := by
    rw [hsize, Cursor.skipBlanks, Cursor.span, Cursor.spanFrom_eq]
    rfl
  rw [hskip]
  exact Follows.behind.step fun _ => .advance _ hparts hsize

/-- A run that asks for a mark follows what the parser does where the mark stands and where it does
not. -/
theorem Follows.eat_bind {mark : Char} {f : Bool → Run β}
    (found : ∀ next, cursor.eat? mark = some next → cursor.Leads next →
      Follows text depth (f true) next x)
    (missing : cursor.eat? mark = none → Follows text depth (f false) cursor x)
    : Follows text depth (Run.eat text.toList mark >>= f) cursor x := by
  have heat : Run.eat text.toList mark = (Run.behind text.toList >>= fun rest =>
      if rest.head? = some mark then (Run.advance mark.utf8Size >>= fun _ => Pure.pure true)
      else Pure.pure false) := rfl
  rw [heat, bind_assoc]
  refine Follows.behind.step fun _ => ?_
  obtain ⟨offset, rest⟩ := cursor
  cases rest with
  | nil => exact missing rfl
  | cons c rest =>
      by_cases hc : c = mark
      · subst hc
        simp only [List.head?_cons, if_true, bind_assoc, pure_bind]
        exact (Follows.advance_char c rfl).step fun leads =>
          found _ (by simp [Cursor.eat?]) leads
      · have hne : (c :: rest).head? ≠ some mark := by simpa using hc
        rw [if_neg hne, pure_bind]
        exact missing (by simp [Cursor.eat?, hc])

theorem Follows.expect (mark : Char)
    : Follows text depth (Run.expect text.toList mark) cursor
        ((Parser.expect mark cursor).map ((), ·)) := by
  refine Follows.skipBlanks.step fun _ => ?_
  refine Follows.eat_bind (fun next found _ => ?_) fun missing => ?_
  · simp only [Parser.expect, found]
    exact .pure ()
  · simp only [Parser.expect, missing]
    exact .refuse _

/-- A run that takes a mark and goes on follows what the parser does behind the mark. -/
theorem Follows.expect_bind {mark : Char} {f : Unit → Run β}
    {g : Cursor → Except SyntaxError (β × Cursor)}
    (next : ∀ next, Parser.expect mark cursor = .ok next → cursor.Leads next →
      Follows text depth (f ()) next (g next))
    : Follows text depth (Run.expect text.toList mark >>= f) cursor
        (Parser.expect mark cursor >>= g) := by
  have h : Follows text depth (Run.expect text.toList mark >>= f) cursor
      ((Parser.expect mark cursor).map ((), ·) >>= fun found => g found.2) := by
    refine (Follows.expect mark).bind fun _ after hx leads => ?_
    obtain ⟨next', hn, he⟩ := map_eq_ok_iff.mp hx
    obtain rfl := (Prod.mk.inj he).2
    exact next _ hn leads
  rwa [map_bind] at h

theorem Follows.split (front rest : List Char)
    : Follows text depth (Run.split (Text.Utf8.size front) (front ++ rest)) cursor
        (.ok ((front, rest), cursor)) := by
  rw [Run.split, Text.Utf8.split?_append]
  exact .pure _

theorem Follows.bareName
    : Follows text depth (Run.bareName text.toList) cursor (Parser.bareName cursor) := by
  refine Follows.skipBlanks.step fun _ => Follows.behind.step fun _ => ?_
  simp only [Parser.bareName, Cursor.span, Cursor.spanFrom_eq]
  have hparts := (List.takeWhile_append_dropWhile (p := Text.isNameChar)
    (l := cursor.skipBlanks.rest)).symm
  generalize cursor.skipBlanks.rest.takeWhile Text.isNameChar = taken at hparts
  cases taken with
  | nil => exact .refuse _
  | cons c taken =>
      have hsome : Text.Utf8.size (c :: taken) ≠ 0 := by
        have := c.utf8Size_pos
        rw [Text.Utf8.size]
        omega
      rw [if_neg hsome]
      refine (Follows.advance _ hparts rfl).step fun _ => ?_
      rw [hparts]
      exact (Follows.split _ _).step fun _ => .pure _

/-- What the characters up to the closing quote are taken as behind those that are taken already:
together they are the name, or if there is no such quote the text ends. -/
def quotedOutcome (taken : List Char) (start : Cursor)
    : Option (List Char × Cursor) → Option (List Char) × Cursor
  | some (name, next) => (some (taken ++ name), next)
  | none => (none, ⟨start.offset + Text.Utf8.size start.rest, []⟩)

theorem quotedOutcome_map {start later : Cursor} (taken : List Char) (c : Char)
    (same : later.offset + Text.Utf8.size later.rest = start.offset + Text.Utf8.size start.rest)
    (found : Option (List Char × Cursor))
    : quotedOutcome taken start (found.map fun (name, next) => (c :: name, next))
        = quotedOutcome (taken ++ [c]) later found := by
  cases found with
  | none => simp [quotedOutcome, same]
  | some found => simp [quotedOutcome]

/-- The characters of a quoted name are taken one by one, by induction on the steps of the
parser. -/
theorem Follows.quotedFrom (offset : Nat) (rest taken : List Char)
    : Follows text depth (Run.quotedFrom taken rest) ⟨offset, rest⟩
        (.ok (quotedOutcome taken ⟨offset, rest⟩ (Parser.quotedFrom offset rest))) := by
  induction offset, rest using Parser.quotedFrom.induct generalizing taken with
  | case1 offset => exact .pure _
  | case2 offset rest =>
      rw [Run.quotedFrom.eq_def, Parser.quotedFrom, quotedOutcome, List.append_nil]
      exact (Follows.advance_char '"' rfl).step fun _ => .pure _
  | case3 offset =>
      rw [Run.quotedFrom.eq_def, Parser.quotedFrom]
      exact (Follows.advance_char '\\' rfl).step fun _ => .pure _
  | case4 offset c rest ih =>
      rw [Run.quotedFrom.eq_def, Parser.quotedFrom]
      refine (Follows.advance_char '\\' rfl).step fun _ => ?_
      refine (Follows.advance_char c rfl).step fun _ => ?_
      rw [quotedOutcome_map taken c]
      · exact ih (taken ++ [c])
      · have hone : '\\'.utf8Size = 1 := rfl
        simp only [Text.Utf8.size]
        omega
  | case5 offset c rest quote last escape ih =>
      have hbackslash : c ≠ '\\' := by
        rintro rfl
        cases rest with
        | nil => exact last rfl rfl
        | cons d rest => exact escape d rest rfl rfl
      rw [Run.quotedFrom.eq_def, Parser.quotedFrom_plain quote hbackslash,
        quotedOutcome_map taken c]
      · refine (Follows.advance_char c rfl).step fun _ => ?_
        rw [if_neg quote, if_neg hbackslash]
        exact ih (taken ++ [c])
      · simp only [Text.Utf8.size]
        omega

theorem Follows.of_inText {run : Run α} {x : Except SyntaxError (α × Cursor)}
    (h : (Cursor.start text).Leads cursor → Follows text depth run cursor x)
    : Follows text depth run cursor x :=
  fun trail inText => h inText trail inText

/-- Where an opening quote stands, a quoted name is taken, or refused if it does not end. -/
theorem Follows.exists_quoted (quote : cursor.rest.head? = some '"')
    : ∃ y, Parser.quotedName? cursor = y.map some ∧
        Follows text depth (Run.quoted text.toList) cursor y := by
  obtain ⟨rest, hrest⟩ := List.head?_eq_some_iff.mp quote
  refine ⟨match Parser.quotedFrom (cursor.offset + 1) rest with
    | some (name, next) => .ok (String.ofList name, next)
    | none => .error (cursor.complain .unfinishedQuote), ?_, ?_⟩
  · have heat : cursor.eat? '"' = some ⟨cursor.offset + 1, rest⟩ := by
      rw [Cursor.eat?, hrest]
      rfl
    simp only [Parser.quotedName?, heat]
    cases Parser.quotedFrom (cursor.offset + 1) rest <;> rfl
  · refine Follows.of_inText fun inText => Follows.now.step fun _ => ?_
    have hsize : 1 = Text.Utf8.size ['"'] := rfl
    refine (Follows.advance ['"'] hrest hsize).step fun _ => Follows.behind.step fun _ => ?_
    refine (Follows.quotedFrom _ rest []).step fun _ => ?_
    cases Parser.quotedFrom (cursor.offset + 1) rest with
    | none => exact .refuseAt inText rfl
    | some found => exact .pure _

/-- A run that takes a quoted name where an opening quote stands next, and goes on otherwise where
none does. -/
theorem Follows.quoted_or {f : String → Run β} {otherwise : Run β}
    (named : ∀ name next, Parser.quotedName? cursor = .ok (some (name, next)) →
      cursor.Leads next → Follows text depth (f name) next x)
    (unfinished : ∀ e, Parser.quotedName? cursor = .error e → x = .error e)
    (bare : Parser.quotedName? cursor = .ok none → Follows text depth otherwise cursor x)
    : Follows text depth
        (Run.behind text.toList >>= fun rest =>
          if rest.head? = some '"' then Run.quoted text.toList >>= f else otherwise)
        cursor x := by
  refine Follows.behind.step fun _ => ?_
  by_cases quote : cursor.rest.head? = some '"'
  · rw [if_pos quote]
    obtain ⟨y, hname, follows⟩ := Follows.exists_quoted quote
    cases y with
    | ok found => exact follows.step (named found.1 found.2 hname)
    | error e =>
        rw [unfinished e hname]
        exact follows.bind (g := fun _ => .error e) fun _ _ he => nomatch he
  · rw [if_neg quote]
    refine bare (Parser.quotedName?_eq_none_iff.mpr fun rest hrest => quote ?_)
    rw [hrest]
    rfl

theorem Follows.name
    : Follows text depth (Run.name text.toList) cursor (Parser.name cursor) := by
  refine Follows.skipBlanks.step fun _ => ?_
  rw [← bind_pure (Run.quoted text.toList)]
  refine Follows.quoted_or (fun name next found _ => ?_) (fun e refused => ?_) fun none => ?_
  · simp only [Parser.name, found]
    exact .pure name
  · simp only [Parser.name, refused]
    rfl
  · simp only [Parser.name, none]
    exact .bareName

-----------------------------------------------------------------------------------------
-- Types
-----------------------------------------------------------------------------------------

variable {inside : Run Descriptor} {model : Parser.Parse Descriptor} {rounds : Nat}

theorem Follows.listTail (inner : ∀ cursor, Follows text depth inside cursor (model cursor))
    : Follows text depth (Run.listTail text.toList inside) cursor
        (Parser.listTail model cursor) := by
  refine Follows.expect_bind fun _ _ _ => (inner _).bind fun item _ _ _ => ?_
  exact Follows.expect_bind fun _ _ _ => .pure _

theorem Follows.mapTail (inner : ∀ cursor, Follows text depth inside cursor (model cursor))
    {start : Cursor} (inText : (Cursor.start text).Leads start)
    : Follows text depth (Run.mapTail text.toList inside start.offset) cursor
        (Parser.mapTail model start cursor) := by
  refine Follows.expect_bind fun _ _ _ => (inner _).bind fun key _ _ _ => ?_
  refine Follows.expect_bind fun _ _ _ => (inner _).bind fun value _ _ _ => ?_
  refine Follows.expect_bind fun _ _ _ => ?_
  cases hkey : key.isKey with
  | true => simpa only [hkey, if_true] using Follows.pure _
  | false =>
      simpa only [hkey, Bool.false_eq_true, if_false] using Follows.refuseAt inText rfl

/-- A mark that is taken leaves less of the text. -/
theorem length_lt_of_expect {mark : Char} (known : mark ∈ marks)
    (h : Parser.expect mark cursor = .ok next)
    : next.rest.length < cursor.rest.length := by
  obtain ⟨_, ht⟩ := Token.begins_mark_iff.mp ((Parser.exists_expect_iff known).mp ⟨next, h, rfl⟩)
  have hle : (Text.dropBlanks cursor.rest).length ≤ cursor.rest.length :=
    (List.dropWhile_sublist Text.isBlank).length_le
  rw [ht] at hle
  exact hle

/-- Arguments are taken in as many rounds as are needed, by induction on the rounds that the parser
has left; in each round at least one character is taken. -/
theorem Follows.argumentsFrom (inner : ∀ cursor, Follows text depth inside cursor (model cursor))
    {bound : Nat} (arguments : Bindings) (enough : cursor.rest.length < bound)
    (within : cursor.rest.length < rounds)
    : Follows text depth (Run.argumentsFrom text.toList inside rounds arguments) cursor
        (Parser.argumentsFrom model bound arguments cursor) := by
  induction bound generalizing rounds arguments cursor with
  | zero => exact absurd enough (Nat.not_lt_zero _)
  | succ bound ih =>
      obtain ⟨rounds, rfl⟩ := Nat.exists_eq_succ_of_ne_zero (Nat.ne_zero_of_lt within)
      refine Follows.name.bind fun parameter _ _ named => ?_
      refine Follows.expect_bind fun equals he _ => (inner _).bind fun argument _ _ taken => ?_
      cases hknown : (arguments.lookup parameter).isSome with
      | true => simpa only [hknown, if_true] using Follows.refuse _
      | false =>
          simp only [Bool.false_eq_true, if_false]
          refine Follows.skipBlanks.step fun blanks => ?_
          refine Follows.eat_bind (fun next found _ => ?_) fun missing => ?_
          · simp only [found, if_true]
            exact .pure _
          · simp only [missing, Bool.false_eq_true, if_false]
            refine Follows.expect_bind fun comma _ moved => ?_
            have hmark := length_lt_of_expect (by decide) he
            have hleft := (taken.trans (blanks.trans moved)).length_le
            have hname := named.length_le
            exact ih _ (by omega) (by omega)

theorem Follows.afterName (inner : ∀ cursor, Follows text depth inside cursor (model cursor))
    (within : cursor.rest.length < rounds) (name : String)
    : Follows text depth (Run.afterName text.toList rounds inside name) cursor
        (Parser.afterName model name cursor) := by
  refine Follows.skipBlanks.step fun blanks => ?_
  refine Follows.eat_bind (fun next found more => ?_) fun missing => ?_
  · simp only [Parser.afterName, found, if_true]
    have hleft := (blanks.trans more).length_le
    refine Follows.bind (.argumentsFrom inner [] (Nat.lt_succ_self _) (by omega)) ?_
    exact fun arguments _ _ _ => .pure _
  · simp only [Parser.afterName, missing, Bool.false_eq_true, if_false]
    exact .pure _

theorem Follows.typeOf (inner : ∀ cursor, Follows text depth inside cursor (model cursor))
    (within : text.toList.length < rounds)
    : Follows text depth (Run.typeOf text.toList rounds inside) cursor
        (Parser.typeOf model cursor) := by
  refine Follows.of_inText fun inText => Follows.skipBlanks.step fun blanks => ?_
  have hstart : cursor.skipBlanks.rest.length < rounds :=
    Nat.lt_of_le_of_lt (inText.trans blanks).length_le within
  refine Follows.eat_bind (fun next found _ => ?_) fun missing => ?_
  · simp only [Parser.typeOf, found, if_true]
    exact Follows.name.bind fun parameter _ _ _ => .pure _
  · simp only [Parser.typeOf, missing, Bool.false_eq_true, if_false]
    refine Follows.quoted_or (fun name next found leads => ?_) (fun e refused => ?_) fun none => ?_
    · simp only [found]
      exact .afterName inner (Nat.lt_of_le_of_lt leads.length_le hstart) name
    · simp only [refused]
      rfl
    simp only [none]
    refine Follows.now.step fun _ => Follows.bareName.bind fun word next _ leads => ?_
    cases hp : Parser.primitive? word with
    | some descriptor => exact .pure _
    | none =>
        by_cases hlist : word = "list"
        · simp only [hlist, if_true]
          exact .listTail inner
        by_cases hmap : word = "map"
        · simp only [hmap, if_true]
          exact .mapTail inner (inText.trans blanks)
        simp only [hlist, hmap, if_false]
        exact .afterName inner (Nat.lt_of_le_of_lt leads.length_le hstart) word

/-- Types inside each other, by induction on the nested calls that are allowed: there are enough if
the nesting reaches its limit first. -/
theorem Follows.type {calls : Nat} (within : text.toList.length < rounds)
    (room : depth ≤ greatestNesting) (enough : greatestNesting - depth < calls) (cursor : Cursor)
    : Follows text depth (Run.type text.toList rounds calls) cursor
        (Parser.typeAt (greatestNesting - depth) cursor) := by
  induction calls generalizing depth cursor with
  | zero => exact absurd enough (Nat.not_lt_zero _)
  | succ calls ih =>
      refine Follows.now.step fun _ => ?_
      by_cases full : depth = greatestNesting
      · rw [if_pos full, full, Nat.sub_self]
        exact .refuse _
      · have levels : greatestNesting - depth = greatestNesting - (depth + 1) + 1 := by omega
        rw [if_neg full, levels]
        exact .inType (by omega) (.typeOf (ih (by omega) (by omega)) within)

end Run

-----------------------------------------------------------------------------------------
-- The whole text
-----------------------------------------------------------------------------------------

/-- What the parser comes to behind the type that it has taken. -/
def Parser.toEnd (found : Descriptor × Cursor) : Except SyntaxError (Descriptor × Cursor) :=
  let cursor := found.2.skipBlanks
  if cursor.rest.isEmpty then .ok (found.1, cursor) else .error (cursor.complain .trailingText)

/-- The parser as it is, with the cursor that it ends at. -/
theorem ofText_eq_toEnd (text : String)
    : ofText text
        = (Parser.typeAt greatestNesting (Cursor.start text) >>= Parser.toEnd).map Prod.fst := by
  show (Parser.typeAt greatestNesting (Cursor.start text) >>= _) = _
  cases Parser.typeAt greatestNesting (Cursor.start text) with
  | error e => rfl
  | ok found =>
      show (if found.2.skipBlanks.rest.isEmpty then .ok found.1
        else .error (found.2.skipBlanks.complain .trailingText)) = (Parser.toEnd found).map Prod.fst
      simp only [Parser.toEnd]
      cases found.2.skipBlanks.rest.isEmpty <;> rfl

/-- The whole text is taken as the parser takes it. -/
theorem Run.Follows.descriptor {text : String} {rounds calls : Nat}
    (within : text.toList.length < rounds) (enough : greatestNesting < calls)
    : Follows text 0 (Run.descriptor text.toList rounds calls) (Cursor.start text)
        (Parser.typeAt greatestNesting (Cursor.start text) >>= Parser.toEnd) := by
  refine Follows.of_inText fun start => ?_
  refine (Follows.type within (Nat.zero_le _) enough _).bind fun descriptor next _ leads => ?_
  refine Follows.skipBlanks.step fun blanks => Follows.now.step fun _ => ?_
  have hend := (start.trans (leads.trans blanks)).offset_lt_size_iff
  simp only [Parser.toEnd, hend]
  cases next.skipBlanks.rest.isEmpty with
  | true => exact .pure _
  | false => exact .refuse _

theorem Trail.start_rises (text : String) : Trail.start.Rises text := by
  refine ⟨List.forall_mem_cons.mpr ⟨?_, fun _ mem => nomatch mem⟩, List.pairwise_singleton _ _⟩
  exact Stand.valid_of_leads (.refl (Cursor.start text)) (Nat.zero_le _)

/-- A text that is taken is taken to its end. -/
theorem offset_eq_of_toEnd {text : String} {d : Descriptor} {next : Cursor}
    (h : (Parser.typeAt greatestNesting (Cursor.start text) >>= Parser.toEnd) = .ok (d, next))
    (leads : (Cursor.start text).Leads next)
    : next.offset = text.utf8ByteSize := by
  obtain ⟨found, _, hend⟩ := bind_eq_ok_iff.mp h
  have empty : next.rest = [] := by
    simp only [Parser.toEnd] at hend
    split at hend
    · next hrest =>
        obtain rfl := (Prod.mk.inj (Except.ok.inj hend)).2
        exact List.isEmpty_iff.mp hrest
    · cases hend
  obtain ⟨taken, ht, ho⟩ := leads
  rw [empty, List.append_nil] at ht
  rw [ho, ← ht, ← Text.Utf8.size_toList]
  exact Nat.zero_add _

/-- With bounds that are great enough, a text is taken step by step as the parser takes it, to its
end or to what is complained about. All stands on the way are at characters of the text or at its
end, with no more types open than is allowed, and none is before an earlier one, but for two
complaints. And whatever it comes to, taking a type leaves as many types open as before. -/
theorem descriptor_stays_inside (text : String) {rounds calls : Nat}
    (within : text.length < rounds) (enough : greatestNesting < calls)
    : (∃ trail : Trail,
        Run.descriptor text.toList rounds calls Trail.start
          = ((ofText text).mapError Halt.refused, trail)
        ∧ (∀ stand ∈ trail.stands, stand.Valid text)
        ∧ (∀ d, ofText text = .ok d →
            trail.now = ⟨text.utf8ByteSize, 0⟩ ∧ Rising trail.stands)
        ∧ ∀ e, ofText text = .error e →
            trail.now = ⟨e.position, 0⟩ ∧ trail.RisesUpTo text e
            ∧ e.position ≤ text.utf8ByteSize ∧ (⟨e.position⟩ : String.Pos.Raw).IsValid text)
      ∧ ∀ (calls : Nat) (trail : Trail),
          trail.Extends (Run.type text.toList rounds calls trail).2 := by
  refine ⟨?_, fun calls => Run.Keeps.type rounds calls⟩
  have ends := Run.Follows.descriptor (String.length_toList ▸ within) enough Trail.start
    (.refl (Cursor.start text)) rfl (Trail.start_rises text)
  rw [ofText_eq_toEnd]
  generalize Run.descriptor text.toList rounds calls Trail.start = outcome at ends
  generalize hy : (Parser.typeAt greatestNesting (Cursor.start text) >>= Parser.toEnd) = y at ends
  cases ends with
  | ok leads here rises =>
      rw [offset_eq_of_toEnd hy leads] at here
      exact ⟨_, rfl, rises.valid, fun _ _ => ⟨here, rises.rising⟩, fun _ he => nomatch he⟩
  | @error e trail here rises =>
      refine ⟨_, rfl, rises.valid, fun _ hd => (nomatch hd), fun e' he => ?_⟩
      obtain rfl : e = e' := Except.error.inj he
      have valid := rises.valid _ List.mem_cons_self
      rw [here] at valid
      exact ⟨here, rises, valid.inside, valid.boundary⟩

/-- The quote that does not end is gone back to, behind which a character of two bytes stands. -/
theorem descriptor_stays_inside_quote
    : ∃ trail : Trail,
        Run.descriptor "list<\"é".toList 8 65 Trail.start
          = (.error (.refused ⟨5, .unfinishedQuote⟩), trail)
        ∧ (∀ stand ∈ trail.stands, stand.Valid "list<\"é")
        ∧ trail.now = ⟨5, 0⟩
        ∧ (trail.stands.map Stand.offset).reverse = [0, 0, 0, 0, 4, 4, 5, 5, 5, 6, 8, 5, 5, 5] := by
  obtain ⟨⟨trail, run, valid, -, refused⟩, -⟩ :=
    @descriptor_stays_inside "list<\"é" 8 65 (by decide) (by decide)
  have read : ofText "list<\"é" = .error ⟨5, .unfinishedQuote⟩ := by decide +kernel
  rw [read] at run
  have offsets : ((Run.descriptor "list<\"é".toList 8 65 Trail.start).2.stands.map
      Stand.offset).reverse = [0, 0, 0, 0, 4, 4, 5, 5, 5, 6, 8, 5, 5, 5] := by decide +kernel
  rw [run] at offsets
  exact ⟨trail, run, valid, (refused _ read).1, offsets⟩

end TypedJson.Descriptor
