/-
**Lines and columns.**

* `lines`: a text from its lines;
* `padded`: a text filled up to the width of a column.
-/

namespace AsmTarget.Text

/-- Lines put together, each with its end. -/
def lines (list : List String) : String :=
  String.ofList (list.flatMap fun line => line.toList ++ ['\n'])

/-- A text filled up with blanks to a width. -/
def padded (width : Nat) (text : String) : String :=
  text ++ String.ofList (List.replicate (width - text.length) ' ')

end AsmTarget.Text
