/-!
# Fields of a text

Cutting a text at a separator character.
-/

namespace SpectroRemote.Text

/-- What stands before the first `c` in a text and, if there is a `c`, what stands after it. -/
def cut (c : Char) : List Char → List Char × Option (List Char)
  | [] => ([], none)
  | x :: s => if x = c then ([], some s) else ((x :: (cut c s).1), (cut c s).2)

@[simp] theorem cut_nil (c : Char) : cut c [] = ([], none) := rfl

theorem cut_cons_self (c : Char) (s : List Char) : cut c (c :: s) = ([], some s) := by simp [cut]

theorem cut_cons_of_ne {x c : Char} (h : x ≠ c) (s : List Char) :
    cut c (x :: s) = (x :: (cut c s).1, (cut c s).2) := by simp [cut, h]

/-- The fields of a text: what stands between the separators. There is always at least one. -/
def fields (c : Char) : List Char → List (List Char)
  | [] => [[]]
  | x :: s =>
    if x = c then [] :: fields c s
    else match fields c s with
      | f :: fs => (x :: f) :: fs
      | [] => [[x]]

end SpectroRemote.Text
