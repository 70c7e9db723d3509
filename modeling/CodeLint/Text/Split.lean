/-!
A text cut at every place where a character stands.
-/

namespace CodeLint.Text

/-- The stretches of a text between the separators, which may be empty. There is always one. -/
def splitAt (sep : Char) : List Char → List (List Char)
  | [] => [[]]
  | c :: cs =>
    if c == sep then [] :: splitAt sep cs
    else match splitAt sep cs with
      | [] => [[c]]
      | part :: parts => (c :: part) :: parts

end CodeLint.Text
