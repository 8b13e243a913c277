/-
# Splitting at separators

The pieces of a list between the places of one element: there is one piece more than there are
separators, and a piece may be empty.
-/

namespace SoilWatch
namespace Text

/-- The pieces between separators. -/
def split {α : Type} [DecidableEq α] (sep : α) (xs : List α) : List (List α) :=
  xs.foldr (fun x pieces =>
    if x = sep then [] :: pieces
    else
      match pieces with
      | p :: ps => (x :: p) :: ps
      | [] => [[x]]) [[]]

example : split ',' ['a', ',', ',', 'b'] = [['a'], [], ['b']] := by decide

end Text
end SoilWatch
