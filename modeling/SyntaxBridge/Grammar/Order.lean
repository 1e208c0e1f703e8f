/-!
# Names in order

Names are listed in the order of their code points, each of them once.
-/

namespace SyntaxBridge

/-- The distinct names of a list, in order. -/
def ordered (names : List String) : List String :=
  names.eraseDups.mergeSort fun a b => a ≤ b

/-- A name is listed exactly if it was given. -/
theorem mem_ordered {name : String} {names : List String} :
    name ∈ ordered names ↔ name ∈ names := by
  simp [ordered, List.mem_mergeSort, List.mem_eraseDups]

end SyntaxBridge
