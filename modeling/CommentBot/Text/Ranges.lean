/-!
# Sets of code points

A property of characters is kept as the list of the runs of code points that have it.
-/

namespace CommentBot.Text

/-- Runs of code points, each given by its first and its last member. -/
abbrev Ranges := List (Nat × Nat)

/-- Whether a run of the table holds the character. -/
def Ranges.contains (table : Ranges) (c : Char) : Bool :=
  table.any fun run => run.1 ≤ c.toNat && c.toNat ≤ run.2

/-- What holds of the characters of all numbers below a bound holds of all characters below it. -/
@[elab_as_elim]
theorem of_forall_ofNat {motive : Char → Prop} {bound : Nat} {c : Char} (hc : c.toNat < bound)
    (h : ∀ n < bound, motive (Char.ofNat n)) : motive c := by
  have hmotive := h c.toNat hc
  rwa [Char.ofNat_toNat] at hmotive

end CommentBot.Text
