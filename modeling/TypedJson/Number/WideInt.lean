/-!
Integers that one 64-bit word can hold, read either as signed or as unsigned.
-/

namespace TypedJson

/-- An integer from `-2 ^ 63` up to, not including, `2 ^ 64`. -/
structure WideInt where
  val : Int
  lower : -0x8000000000000000 ≤ val := by omega
  upper : val < 0x10000000000000000 := by omega
  deriving DecidableEq, Repr

namespace WideInt

/-- The integer, if a word has room for it. -/
def ofInt? (n : Int) : Option WideInt :=
  if h : -0x8000000000000000 ≤ n ∧ n < 0x10000000000000000 then some ⟨n, h.1, h.2⟩ else none

/-- The integer that an unsigned word holds. -/
def ofUInt64 (n : UInt64) : WideInt :=
  ⟨n.toNat, by have := n.toNat_lt; omega, by have := n.toNat_lt; omega⟩

/-- The integer that a signed word holds. -/
def ofInt64 (n : Int64) : WideInt :=
  ⟨n.toInt, n.le_toInt, by have := n.toInt_lt; omega⟩

/-- The value fits a signed word. -/
def isSigned (n : WideInt) : Bool :=
  n.val < 0x8000000000000000

theorem ofInt?_eq_some_iff (n : Int) (w : WideInt) : ofInt? n = some w ↔ w.val = n := by
  simp only [ofInt?]
  constructor
  · intro h
    split at h
    · cases h; rfl
    · cases h
  · intro h
    subst h
    exact dif_pos ⟨w.lower, w.upper⟩

end WideInt

end TypedJson
