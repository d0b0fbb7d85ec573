import Mathlib.Data.List.Forall2

/-!
Outcomes of what may fail: when a computation that is put together from others succeeds, when it
fails, and when two of them come to the same.
-/

namespace TypedJson

variable {α β γ ε ε' : Type} {x y : Except ε α}

-----------------------------------------------------------------------------------------
-- Success
-----------------------------------------------------------------------------------------

theorem ok_bind (a : α) (f : α → Except ε β) : ((.ok a : Except ε α) >>= f) = f a :=
  rfl

theorem map_bind (f : α → β) (g : β → Except ε γ) : (x.map f >>= g) = (x >>= fun a => g (f a)) := by
  cases x <;> rfl

theorem bind_eq_ok_iff {f : α → Except ε β} {b : β}
    : (x >>= f) = .ok b ↔ ∃ a, x = .ok a ∧ f a = .ok b := by
  cases x <;> simp [bind, Except.bind]

theorem map_eq_ok_iff {f : α → β} {b : β}
    : x.map f = .ok b ↔ ∃ a, x = .ok a ∧ f a = b := by
  cases x <;> simp [Except.map]

theorem mapError_eq_ok_iff {f : ε → ε'} {a : α} : x.mapError f = .ok a ↔ x = .ok a := by
  cases x <;> simp [Except.mapError]

/-- A walk over a list, which may count the members, succeeds when its step does so at every member,
by induction on the list. -/
theorem walk_eq_ok_iff (walk : List α → Nat → Except ε (List β)) {step : α → Nat → Except ε β}
    {holds : α → β → Prop} (stop : ∀ index, walk [] index = .ok [])
    (go : ∀ a rest index, walk (a :: rest) index
      = step a index >>= fun b => walk rest (index + 1) >>= fun bs => .ok (b :: bs))
    (ok : ∀ a index b, step a index = .ok b ↔ holds a b) (as : List α) (index : Nat) (bs : List β)
    : walk as index = .ok bs ↔ List.Forall₂ holds as bs := by
  induction as generalizing index bs with
  | nil => simp [stop, eq_comm]
  | cons a rest ih =>
      simp only [go, bind_eq_ok_iff, ok, ih, List.forall₂_cons_left_iff, Except.ok.injEq]
      constructor
      · rintro ⟨b, hb, others, ho, rfl⟩
        exact ⟨b, others, hb, ho, rfl⟩
      · rintro ⟨b, others, hb, ho, rfl⟩
        exact ⟨b, hb, others, ho, rfl⟩

/-- The same of a run over a list, which counts nothing. -/
theorem run_eq_ok_iff (run : List α → Except ε (List β)) {step : α → Except ε β}
    {holds : α → β → Prop} (stop : run [] = .ok [])
    (go : ∀ a rest, run (a :: rest) = step a >>= fun b => run rest >>= fun bs => .ok (b :: bs))
    (ok : ∀ a b, step a = .ok b ↔ holds a b) (as : List α) (bs : List β)
    : run as = .ok bs ↔ List.Forall₂ holds as bs :=
  walk_eq_ok_iff (fun as _ => run as) (fun _ => stop) (fun a rest _ => go a rest)
    (fun a _ b => ok a b) as 0 bs

/-- A run over entries with names keeps the names. -/
theorem entries_eq_ok_iff (run : List (String × α) → Except ε (List (String × β)))
    {step : String → α → Except ε β} {holds : String → α → β → Prop} (stop : run [] = .ok [])
    (go : ∀ name a rest, run ((name, a) :: rest)
      = step name a >>= fun b => run rest >>= fun bs => .ok ((name, b) :: bs))
    (ok : ∀ name a b, step name a = .ok b ↔ holds name a b) (as : List (String × α))
    (bs : List (String × β))
    : run as = .ok bs
        ↔ List.Forall₂ (fun a b => b.1 = a.1 ∧ holds a.1 a.2 b.2) as bs := by
  have goes : ∀ a rest, run (a :: rest)
      = (step a.1 a.2).map (a.1, ·) >>= fun b => run rest >>= fun bs => .ok (b :: bs) := by
    intro a rest
    rw [map_bind]
    exact go a.1 a.2 rest
  refine run_eq_ok_iff run stop goes (fun a b => ?_) as bs
  rw [map_eq_ok_iff]
  constructor
  · rintro ⟨b, hb, rfl⟩
    exact ⟨rfl, (ok _ _ _).mp hb⟩
  · obtain ⟨name, b⟩ := b
    rintro ⟨rfl, hb⟩
    exact ⟨b, (ok _ _ _).mpr hb, rfl⟩

theorem mapM_eq_ok_iff {f : α → Except ε β} {as : List α} {bs : List β}
    : as.mapM f = .ok bs ↔ List.Forall₂ (fun a b => f a = .ok b) as bs :=
  run_eq_ok_iff (List.mapM f) rfl (fun _ _ => List.mapM_cons) (fun _ _ => Iff.rfl) as bs

-----------------------------------------------------------------------------------------
-- Failure
-----------------------------------------------------------------------------------------

theorem bind_eq_error_iff {f : α → Except ε β} {e : ε}
    : (x >>= f) = .error e ↔ x = .error e ∨ ∃ a, x = .ok a ∧ f a = .error e := by
  cases x <;> simp [bind, Except.bind]

theorem map_eq_error_iff {f : α → β} {e : ε} : x.map f = .error e ↔ x = .error e := by
  cases x <;> simp [Except.map]

theorem mapError_eq_error_iff {f : ε → ε'} {e : ε'}
    : x.mapError f = .error e ↔ ∃ e', x = .error e' ∧ f e' = e := by
  cases x <;> simp [Except.mapError]

/-- A run over a list fails at one of the list's members. -/
theorem exists_of_mapM_eq_error {f : α → Except ε β} {as : List α} {e : ε}
    (h : as.mapM f = .error e)
    : ∃ a ∈ as, f a = .error e := by
  induction as with
  | nil => cases h
  | cons a rest ih =>
      rw [List.mapM_cons, bind_eq_error_iff] at h
      rcases h with h | ⟨b, _, h⟩
      · exact ⟨a, by simp, h⟩
      · rcases bind_eq_error_iff.mp h with h | ⟨bs, _, h⟩
        · obtain ⟨a', hm, he⟩ := ih h
          exact ⟨a', by simp [hm], he⟩
        · cases h

/-- Where a computation succeeds with one value under a condition and fails otherwise, it succeeds
with this value just under the condition, and never with another one. -/
theorem ok_iff_of_settled {a : α} {condition : Prop} {reason : ε → Prop}
    (free : condition → x = .ok a) (barred : ¬ condition → ∃ e, x = .error e ∧ reason e)
    : (x = .ok a ↔ condition) ∧ ∀ b, x = .ok b → b = a := by
  by_cases h : condition
  · have ok := free h
    exact ⟨⟨fun _ => h, free⟩, fun b hb => Except.ok.inj (hb.symm.trans ok)⟩
  · obtain ⟨e, error, _⟩ := barred h
    have never : ∀ b, x ≠ .ok b := fun b hb => nomatch hb.symm.trans error
    exact ⟨⟨fun ok => absurd ok (never a), free⟩, fun b hb => absurd hb (never b)⟩

-----------------------------------------------------------------------------------------
-- Agreement
-----------------------------------------------------------------------------------------

/-- Both succeed with the same result, or both fail with errors that are alike. -/
inductive Agrees (alike : ε → ε → Prop) : Except ε α → Except ε α → Prop where
  | ok (a : α) : Agrees alike (.ok a) (.ok a)
  | error {e e' : ε} (h : alike e e') : Agrees alike (.error e) (.error e')

namespace Agrees

variable {alike : ε → ε → Prop}

theorem refl (same : ∀ e, alike e e) (x : Except ε α) : Agrees alike x x := by
  cases x with
  | ok a => exact .ok a
  | error e => exact .error (same e)

theorem eq (h : Agrees (· = ·) x y) : x = y := by
  cases h with
  | ok => rfl
  | error h => rw [h]

theorem of_eq (same : ∀ e, alike e e) (h : x = y) : Agrees alike x y :=
  h ▸ refl same x

theorem map (f : α → β) (h : Agrees alike x y) : Agrees alike (x.map f) (y.map f) := by
  cases h with
  | ok a => exact .ok (f a)
  | error h => exact .error h

theorem mapError {alike' : ε' → ε' → Prop} {f : ε → ε'}
    (step : ∀ e e', alike e e' → alike' (f e) (f e')) (h : Agrees alike x y)
    : Agrees alike' (x.mapError f) (y.mapError f) := by
  cases h with
  | ok a => exact .ok a
  | error h => exact .error (step _ _ h)

theorem bind {f g : α → Except ε β} (h : Agrees alike x y) (next : ∀ a, Agrees alike (f a) (g a))
    : Agrees alike (x >>= f) (y >>= g) := by
  cases h with
  | ok a => exact next a
  | error h => exact .error h

/-- Runs over two lists agree if they agree at each two members, by induction on the lists. -/
theorem mapM {f : α → Except ε γ} {g : β → Except ε γ} {as : List α} {bs : List β}
    (h : List.Forall₂ (fun a b => Agrees alike (f a) (g b)) as bs)
    : Agrees alike (as.mapM f) (bs.mapM g) := by
  induction h with
  | nil => exact .ok []
  | cons head _ ih =>
      rw [List.mapM_cons, List.mapM_cons]
      exact head.bind fun c => ih.bind fun cs => .ok (c :: cs)

end Agrees

end TypedJson
