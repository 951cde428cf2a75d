/-!
# Trimming both ends of a list

`trimEnds p` drops the longest run of `p` at the front of a list and at its end. What remains is a
contiguous part of the list, and neither of its ends satisfies `p`.
-/

set_option autoImplicit false
set_option relaxedAutoImplicit false

namespace WebGateway.Text

variable {α : Type}

/-- The list without its trailing run of `p`. -/
def trimRight (p : α → Bool) (word : List α) : List α :=
  (word.reverse.dropWhile p).reverse

/-- The list without its leading and trailing runs of `p`. -/
def trimEnds (p : α → Bool) (word : List α) : List α :=
  trimRight p (word.dropWhile p)

/-- Trimming keeps only elements of the list. -/
theorem mem_of_mem_trimEnds {p : α → Bool} {word : List α} {x : α} (hx : x ∈ trimEnds p word) :
    x ∈ word := by
  rw [trimEnds, trimRight, List.mem_reverse] at hx
  have hfront := List.mem_reverse.mp ((List.dropWhile_sublist p).subset hx)
  exact (List.dropWhile_sublist p).subset hfront

end WebGateway.Text
