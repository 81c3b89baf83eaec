/-! Cutting a text at a character. -/

namespace Gatehouse.Text

/-- The pieces between the separators, one more than there are separators. -/
def pieces {α : Type} (isSeparator : α → Bool) : List α → List (List α)
  | [] => [[]]
  | c :: rest =>
    if isSeparator c then [] :: pieces isSeparator rest
    else match pieces isSeparator rest with
      | piece :: more => (c :: piece) :: more
      | [] => [[c]]

/-- What stands before the first separator, and what stands after it if there is one. -/
def cutAt {α : Type} (isSeparator : α → Bool) (xs : List α) : List α × Option (List α) :=
  match xs.span (fun x => !isSeparator x) with
  | (front, []) => (front, none)
  | (front, _ :: back) => (front, some back)

end Gatehouse.Text
