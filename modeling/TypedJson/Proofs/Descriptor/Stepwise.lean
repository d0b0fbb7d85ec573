import TypedJson.Descriptor.Parser
import TypedJson.Proofs.Text.Utf8

/-!
The parser of descriptors step by step. Instead of the text behind the cursor it keeps a byte
offset, from which it looks the text up anew, and instead of a limit that becomes smaller it counts
the types that are open. It leaves a trail of all the places where it has been, and ends by itself
in as many nested calls and rounds as are given.
-/

namespace TypedJson.Descriptor

/-- How far a run of the parser has come: the byte offset reached, and how many types are open. -/
structure Stand where
  offset : Nat
  depth : Nat
  deriving DecidableEq, Repr

/-- Where a run has been: the stand that it has now, and those before, the last one first. -/
structure Trail where
  now : Stand
  past : List Stand
  deriving DecidableEq, Repr

namespace Trail

/-- Where a run begins. -/
def start : Trail :=
  ⟨⟨0, 0⟩, []⟩

/-- All stands, the last one first. -/
def stands (trail : Trail) : List Stand :=
  trail.now :: trail.past

/-- The trail one stand further. -/
def step (trail : Trail) (stand : Stand) : Trail :=
  ⟨stand, trail.stands⟩

end Trail

/-- The second trail begins with all of the first one, and at its end as many types are open. -/
structure Trail.Extends (trail next : Trail) : Prop where
  past : trail.stands <:+ next.stands
  depth : next.now.depth = trail.now.depth

/-- Why a run ends without a result: the text is refused; or a part of the text was asked for that
does not begin and end with a character, a type was closed that was not open, or more nested calls
or rounds were needed than were given. -/
inductive Halt where
  | refused (e : SyntaxError)
  | astray
  | unopened
  | cut
  deriving DecidableEq, Repr

/-- A run of the parser, which leaves its trail whether it has a result or not. -/
abbrev Run := ExceptT Halt (StateM Trail)

namespace Run

variable {α : Type}

/-- The present stand. -/
def now : Run Stand := do
  return (← get).now

/-- Goes to an offset. -/
def goTo (offset : Nat) : Run Unit :=
  modify fun trail => trail.step ⟨offset, trail.now.depth⟩

/-- Goes on by so many bytes. -/
def advance (bytes : Nat) : Run Unit := do
  goTo ((← now).offset + bytes)

/-- Opens a type. -/
def openType : Run Unit :=
  modify fun trail => trail.step ⟨trail.now.offset, trail.now.depth + 1⟩

/-- Closes the type that was opened last. -/
def closeType : Run Unit := do
  match (← now).depth with
  | 0 => throw .unopened
  | depth + 1 => modify fun trail => trail.step ⟨trail.now.offset, depth⟩

/-- Has a type open while the run goes on, and closes it whatever the run comes to. -/
def inType (run : Run α) : Run α := do
  openType
  try run finally closeType

/-- Complains about the offset reached. -/
def refuse (complaint : Complaint) : Run α := do
  throw (.refused ⟨(← now).offset, complaint⟩)

/-- Complains about an offset that was passed. -/
def refuseAt (offset : Nat) (complaint : Complaint) : Run α := do
  goTo offset
  refuse complaint

/-- The text in front of and behind so many bytes. -/
def split (bytes : Nat) (text : List Char) : Run (List Char × List Char) :=
  match Text.Utf8.split? bytes text with
  | some parts => pure parts
  | none => throw .astray

variable (text : List Char)

/-- The text behind the offset reached. -/
def behind : Run (List Char) := do
  return (← split (← now).offset text).2

/-- Goes on behind the blanks, which are as many bytes as the text is shorter without them. -/
def skipBlanks : Run Unit := do
  let rest ← behind text
  advance (Text.Utf8.size rest - Text.Utf8.size (Text.dropBlanks rest))

/-- Goes on behind the mark, if it stands next. -/
def eat (mark : Char) : Run Bool := do
  let rest ← behind text
  if rest.head? = some mark then
    advance mark.utf8Size
    return true
  else return false

/-- Takes a mark, with blanks before it. -/
def expect (mark : Char) : Run Unit := do
  skipBlanks text
  if ← eat text mark then return () else refuse (.expectedMark mark)

/-- Takes a bare name, with blanks before it. -/
def bareName : Run String := do
  skipBlanks text
  let rest ← behind text
  let bytes := Text.Utf8.size (rest.takeWhile Text.isNameChar)
  if bytes = 0 then refuse .expectedName
  else
    advance bytes
    return String.ofList (← split bytes rest).1

/-- Takes the characters up to a closing quote one by one, and gives those of the name with the
ones that are taken already in front; or nothing, if the text ends before. -/
def quotedFrom : List Char → List Char → Run (Option (List Char))
  | _, [] => return none
  | taken, c :: rest => do
      advance c.utf8Size
      if c = '"' then return some taken
      else if c = '\\' then
        match rest with
        | [] => return none
        | escaped :: rest => do
            advance escaped.utf8Size
            quotedFrom (taken ++ [escaped]) rest
      else quotedFrom (taken ++ [c]) rest

/-- Takes a quoted name, whose opening quote stands next. -/
def quoted : Run String := do
  let start ← now
  advance 1
  match ← quotedFrom [] (← behind text) with
  | some name => return String.ofList name
  | none => refuseAt start.offset .unfinishedQuote

/-- Takes a name, bare or quoted, with blanks before it. -/
def name : Run String := do
  skipBlanks text
  let rest ← behind text
  if rest.head? = some '"' then quoted text else bareName text

/-- Takes arguments up to and with the closing mark, in at most so many rounds. -/
def argumentsFrom (type : Run Descriptor) : Nat → Bindings → Run Bindings
  | 0, _ => throw .cut
  | rounds + 1, arguments => do
      let parameter ← name text
      expect text '='
      let argument ← type
      if (arguments.lookup parameter).isSome then refuse .boundTwice
      else
        let arguments := Directory.insert parameter argument arguments
        skipBlanks text
        if ← eat text '>' then return arguments
        else
          expect text ','
          argumentsFrom type rounds arguments

/-- Takes what follows the name of a type: arguments between angle brackets, or nothing. -/
def afterName (rounds : Nat) (type : Run Descriptor) (name : String) : Run Descriptor := do
  skipBlanks text
  if ← eat text '<' then return .generic name (← argumentsFrom text type rounds [])
  else return .named name

/-- Takes the item type of a list behind its keyword. -/
def listTail (type : Run Descriptor) : Run Descriptor := do
  expect text '<'
  let item ← type
  expect text '>'
  return .list item

/-- Takes the key and value types of a map behind its keyword, which stands at the offset. -/
def mapTail (type : Run Descriptor) (start : Nat) : Run Descriptor := do
  expect text '<'
  let key ← type
  expect text ','
  let value ← type
  expect text '>'
  if key.isKey then return .map key value else refuseAt start .keyNotAllowed

/-- Takes a type, given what takes the types inside it. -/
def typeOf (rounds : Nat) (inner : Run Descriptor) : Run Descriptor := do
  skipBlanks text
  if ← eat text '$' then return .var (← name text)
  else
    let rest ← behind text
    if rest.head? = some '"' then
      afterName text rounds inner (← quoted text)
    else
      let start ← now
      let word ← bareName text
      match Parser.primitive? word with
      | some descriptor => return descriptor
      | none =>
          if word = "list" then listTail text inner
          else if word = "map" then mapTail text inner start.offset
          else afterName text rounds inner word

/-- Takes a type with at most so many nested calls, this one among them. -/
def type (rounds : Nat) : Nat → Run Descriptor
  | 0 => throw .cut
  | calls + 1 => do
      if (← now).depth = greatestNesting then refuse .tooDeep
      else inType (typeOf text rounds (type rounds calls))

/-- Takes the whole text as a descriptor. -/
def descriptor (rounds calls : Nat) : Run Descriptor := do
  let d ← type text rounds calls
  skipBlanks text
  if (← now).offset < Text.Utf8.size text then refuse .trailingText else return d

end Run

-----------------------------------------------------------------------------------------
-- Runs one after the other
-----------------------------------------------------------------------------------------

namespace Run

variable {α β : Type} {depth : Nat}

theorem bind_eq_of_ok {run : Run α} {f : α → Run β} {trail trail' : Trail} {a : α}
    (h : run trail = (.ok a, trail'))
    : (run >>= f) trail = f a trail' := by
  show StateT.bind run (ExceptT.bindCont f) trail = _
  rw [StateT.bind, h]
  rfl

theorem bind_eq_of_error {run : Run α} {f : α → Run β} {trail trail' : Trail} {halt : Halt}
    (h : run trail = (.error halt, trail'))
    : (run >>= f) trail = (.error halt, trail') := by
  show StateT.bind run (ExceptT.bindCont f) trail = _
  rw [StateT.bind, h]
  rfl

theorem now_eq (trail : Trail) : Run.now trail = (.ok trail.now, trail) :=
  rfl

theorem closeType_eq {trail : Trail} {offset : Nat} (here : trail.now = ⟨offset, depth + 1⟩)
    : Run.closeType trail = (.ok (), trail.step ⟨offset, depth⟩) := by
  rw [Run.closeType, bind_eq_of_ok (now_eq trail), here]
  show (Except.ok (), trail.step ⟨trail.now.offset, depth⟩) = _
  rw [here]

/-- What is done at last is done whatever comes before, and hides nothing of it. -/
theorem finally_eq {run : Run α} {last : Run Unit} {trail middle finish : Trail}
    {outcome : Except Halt α} (h : run trail = (outcome, middle))
    (h' : last middle = (.ok (), finish))
    : (tryFinally run last : Run α) trail = (outcome, finish) := by
  cases outcome with
  | ok a | error halt =>
      simp only [tryFinally, tryFinally', ExceptT.mk, Functor.map, ExceptT.map, Bind.bind,
        StateT.bind, h, h']
      rfl

/-- A type that is open while a run goes on is closed again, whatever the run comes to. -/
theorem inType_eq {run : Run α} {trail middle : Trail} {outcome : Except Halt α} {offset : Nat}
    (h : run (trail.step ⟨trail.now.offset, trail.now.depth + 1⟩) = (outcome, middle))
    (here : middle.now = ⟨offset, depth + 1⟩)
    : Run.inType run trail = (outcome, middle.step ⟨offset, depth⟩) := by
  have hopen : Run.inType run trail
      = (tryFinally run Run.closeType : Run α)
        (trail.step ⟨trail.now.offset, trail.now.depth + 1⟩) := rfl
  rw [hopen, finally_eq h (closeType_eq here)]

-----------------------------------------------------------------------------------------
-- What a run leaves as it was
-----------------------------------------------------------------------------------------

/-- Whatever the run comes to, all of its trail is there, and as many types are open as before. -/
def Keeps (run : Run α) : Prop :=
  ∀ trail : Trail, trail.Extends (run trail).2

namespace Keeps

variable {run : Run α} {text : List Char}

theorem pure (a : α) : Keeps (pure a) :=
  fun _ => ⟨List.suffix_rfl, rfl⟩

theorem halt (halt : Halt) : Keeps (throw halt : Run α) :=
  fun _ => ⟨List.suffix_rfl, rfl⟩

theorem bind {f : α → Run β} (h : Keeps run) (next : ∀ a, Keeps (f a)) : Keeps (run >>= f) := by
  intro trail
  generalize hr : run trail = outcome
  obtain ⟨result, middle⟩ := outcome
  have first := h trail
  rw [hr] at first
  cases result with
  | ok a =>
      have second := next a middle
      rw [bind_eq_of_ok hr]
      exact ⟨first.past.trans second.past, second.depth.trans first.depth⟩
  | error halt =>
      rw [bind_eq_of_error hr]
      exact first

theorem now : Keeps Run.now :=
  fun _ => ⟨List.suffix_rfl, rfl⟩

theorem goTo (offset : Nat) : Keeps (Run.goTo offset) :=
  fun _ => ⟨List.suffix_cons _ _, rfl⟩

theorem advance (bytes : Nat) : Keeps (Run.advance bytes) :=
  now.bind fun _ => goTo _

theorem refuse (complaint : Complaint) : Keeps (Run.refuse complaint : Run α) :=
  now.bind fun _ => halt _

theorem refuseAt (offset : Nat) (complaint : Complaint)
    : Keeps (Run.refuseAt offset complaint : Run α) :=
  (goTo offset).bind fun _ => refuse complaint

/-- A type that was opened is there to be closed. -/
theorem inType (h : Keeps run) : Keeps (Run.inType run) := by
  intro trail
  have inside := h (trail.step ⟨trail.now.offset, trail.now.depth + 1⟩)
  generalize hr : run (trail.step ⟨trail.now.offset, trail.now.depth + 1⟩) = outcome at inside
  obtain ⟨result, ⟨⟨offset, depth⟩, past⟩⟩ := outcome
  obtain rfl : depth = trail.now.depth + 1 := inside.depth
  rw [inType_eq hr rfl]
  refine ⟨?_, rfl⟩
  exact ((List.suffix_cons _ trail.stands).trans inside.past).trans (List.suffix_cons _ _)

theorem split (bytes : Nat) : Keeps (Run.split bytes text) := by
  unfold Run.split
  split
  · exact pure _
  · exact halt _

theorem behind : Keeps (Run.behind text) :=
  now.bind fun _ => (split _).bind fun _ => pure _

theorem skipBlanks : Keeps (Run.skipBlanks text) :=
  behind.bind fun _ => advance _

theorem eat (mark : Char) : Keeps (Run.eat text mark) :=
  behind.bind fun _ => by
    split
    · exact (advance _).bind fun _ => pure _
    · exact pure _

theorem expect (mark : Char) : Keeps (Run.expect text mark) :=
  skipBlanks.bind fun _ => (eat mark).bind fun
    | true => pure _
    | false => refuse _

theorem bareName : Keeps (Run.bareName text) :=
  skipBlanks.bind fun _ => behind.bind fun _ => by
    dsimp only
    split
    · exact refuse _
    · exact (advance _).bind fun _ => (split _).bind fun _ => pure _

theorem quotedFrom (taken rest : List Char) : Keeps (Run.quotedFrom taken rest) := by
  induction taken, rest using Run.quotedFrom.induct with
  | case1 taken => exact pure _
  | case2 taken c rest ih ih' =>
      rw [Run.quotedFrom.eq_def]
      refine (advance _).bind fun _ => ?_
      split
      · exact pure _
      · split
        · cases rest with
          | nil => exact pure _
          | cons escaped rest => exact (advance _).bind fun _ => ih
        · exact ih'

theorem quoted : Keeps (Run.quoted text) :=
  now.bind fun _ => (advance _).bind fun _ => behind.bind fun _ => (quotedFrom _ _).bind fun
    | some _ => pure _
    | none => refuseAt _ _

theorem name : Keeps (Run.name text) :=
  skipBlanks.bind fun _ => behind.bind fun _ => by
    split
    · exact quoted
    · exact bareName

variable {inside : Run Descriptor}

theorem argumentsFrom (h : Keeps inside) (rounds : Nat) (arguments : Bindings)
    : Keeps (Run.argumentsFrom text inside rounds arguments) := by
  induction rounds generalizing arguments with
  | zero => exact halt _
  | succ rounds ih =>
      refine name.bind fun _ => (expect _).bind fun _ => h.bind fun _ => ?_
      split
      · exact refuse _
      · refine skipBlanks.bind fun _ => (eat _).bind fun
          | true => pure _
          | false => (expect _).bind fun _ => ih _

theorem afterName (h : Keeps inside) (rounds : Nat) (name : String)
    : Keeps (Run.afterName text rounds inside name) :=
  skipBlanks.bind fun _ => (eat _).bind fun
    | true => (argumentsFrom h _ _).bind fun _ => pure _
    | false => pure _

theorem listTail (h : Keeps inside) : Keeps (Run.listTail text inside) :=
  (expect _).bind fun _ => h.bind fun _ => (expect _).bind fun _ => pure _

theorem mapTail (h : Keeps inside) (start : Nat)
    : Keeps (Run.mapTail text inside start) := by
  refine (expect _).bind fun _ => h.bind fun _ => (expect _).bind fun _ => h.bind fun _ =>
    (expect _).bind fun _ => ?_
  split
  · exact pure _
  · exact refuseAt _ _

theorem typeOf (h : Keeps inside) (rounds : Nat)
    : Keeps (Run.typeOf text rounds inside) := by
  refine skipBlanks.bind fun _ => (eat _).bind fun
    | true => name.bind fun _ => pure _
    | false => behind.bind fun _ => ?_
  split
  · exact quoted.bind fun _ => afterName h _ _
  · refine now.bind fun _ => bareName.bind fun _ => ?_
    split
    · exact pure _
    · split
      · exact listTail h
      · split
        · exact mapTail h _
        · exact afterName h _ _

/-- By induction on the nested calls. -/
theorem type (rounds calls : Nat) : Keeps (Run.type text rounds calls) := by
  induction calls with
  | zero => exact halt _
  | succ calls ih =>
      refine now.bind fun _ => ?_
      split
      · exact refuse _
      · exact inType (typeOf ih rounds)

end Keeps

end Run

end TypedJson.Descriptor
