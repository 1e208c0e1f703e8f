/-!
# Names of categories

A grammar names its syntactic categories. The name `[T]` stands for lists of the category `T`, and
`T` may be such a name again. The brackets must hold something: `[]` names no list category.
-/

namespace SyntaxBridge.Category

/-- The characters between the brackets of a list category. -/
def inner? : List Char → Option (List Char)
  | '[' :: cs => if cs.length > 1 ∧ cs.getLast? = some ']' then some cs.dropLast else none
  | _ => none

/-- The text between the brackets is shorter than the name. -/
theorem inner?_length_lt {cs inner : List Char} (h : inner? cs = some inner) :
    inner.length < cs.length := by
  unfold inner? at h
  split at h
  · split at h
    · cases h
      rw [List.length_dropLast, List.length_cons]
      omega
    · cases h
  · cases h

/-- The category whose lists a name stands for, if it is the name of a list category. -/
def element? (name : String) : Option String :=
  (inner? name.toList).map String.ofList

/-- Whether a name is that of a list category. -/
def isList (name : String) : Bool :=
  (element? name).isSome

/-- The list category of a category. -/
def listOf (name : String) : String :=
  "[" ++ name ++ "]"

/-- The category that the elements of a list have; the category itself for any other name. -/
def element (name : String) : String :=
  (element? name).getD name

/-- The name of the type generated for a category: lists of `T` have the type `ListT`. -/
def listName (name : String) : String :=
  match element? name with
  | some inner => "List" ++ inner
  | none => name

/-- The category of identifiers, which every grammar may refer to without declaring it. -/
def ident : String := "Ident"

end SyntaxBridge.Category
