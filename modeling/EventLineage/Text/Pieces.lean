/-! # Pieces of a text

Characters are cut wherever a mark stands; the mark belongs to none of the pieces. There is always
one piece more than there are marks. -/
namespace EventLineage.Text

def pieces (mark : Char) : List Char → List (List Char)
  | [] => [[]]
  | c :: cs =>
    if c = mark then [] :: pieces mark cs
    else match pieces mark cs with
      | piece :: rest => (c :: piece) :: rest
      | [] => [[c]]

end EventLineage.Text
