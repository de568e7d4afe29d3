/-!
# Splitting texts

## Main definitions

* `splitAt`: the parts of a text between the occurrences of a character.
-/

namespace MailMerge.Text

/-- The parts of a text between the occurrences of a character. -/
def splitAt (sep : Char) : List Char → List (List Char)
  | [] => [[]]
  | c :: cs =>
    if c = sep then [] :: splitAt sep cs
    else
      match splitAt sep cs with
      | part :: parts => (c :: part) :: parts
      | [] => [[c]]

end MailMerge.Text
