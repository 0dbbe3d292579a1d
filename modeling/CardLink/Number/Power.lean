/-!
# Powers

Powers of two and of ten, the bounds of machine words, and sums.
-/

namespace CardLink.Number

def twoTo (n : Nat) : Nat := Nat.pow 2 n

def tenTo (n : Nat) : Nat := Nat.pow 10 n

/-- The number of values of a word of 64 bits. -/
def word64 : Nat := twoTo 64

/-- The number of values of a word of 16 bits. -/
def word16 : Nat := twoTo 16

/-- The sum of a list. -/
def total (ns : List Nat) : Nat := ns.foldr Nat.add 0

theorem total_cons (n : Nat) (ns : List Nat) : total (n :: ns) = n + total ns := rfl

theorem total_append (ms ns : List Nat) : total (ms ++ ns) = total ms + total ns := by
  induction ms with
  | nil => exact (Nat.zero_add _).symm
  | cons m ms ih => rw [List.cons_append, total_cons, total_cons, ih, Nat.add_assoc]

/-- One number is replaced by another one. -/
theorem total_set {ns : List Nat} {k n : Nat} (hn : ns[k]? = some n) (m : Nat) :
    total (ns.set k m) + n = total ns + m := by
  induction ns generalizing k with
  | nil => cases hn
  | cons first rest ih =>
    cases k with
    | zero =>
      obtain rfl : first = n := by simpa using hn
      rw [List.set_cons_zero, total_cons, total_cons]
      omega
    | succ k =>
      have hrest := ih (k := k) (by simpa using hn)
      rw [List.set_cons_succ, total_cons, total_cons]
      omega

end CardLink.Number
