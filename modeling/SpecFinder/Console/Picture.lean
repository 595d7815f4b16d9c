import SpecFinder.Console.PictureTable
import SpecFinder.Text.LetterCase

/-!
# Pictures

In a message, the name of a picture between colons stands for the picture.
-/

namespace SpecFinder.Console

/-- Put words together by twos. -/
def pairUp : List Text → List (Text × Text)
  | first :: second :: words => (first, second) :: pairUp words
  | _ => []

/-- The pictures by name. A picture may take several characters. -/
def pictures : List (Text × Text) :=
  pictureLines.flatMap fun line => pairUp (Text.splitWhere (· == ' ') line.toList)

/-- The picture of a name, without regard to case. -/
def picture? (name : Text) : Option Text := pictures.lookup (Text.lower name)

/-- The endings of a name that choose how the picture is drawn, each with the
selector for it. -/
def pictureStyles : List (String × Char) := [("-emoji", '\uFE0F'), ("-text", '\uFE0E')]

/-- What a name between colons stands for: the picture, or itself. -/
def namedPicture (name : Text) : Text :=
  let style := pictureStyles.find? fun (ending, _) => ending.toList.isSuffixOf name
  let plainName := (style.map fun (ending, _) => name.take (name.length - ending.length)).getD name
  match picture? plainName with
  | some picture => picture ++ (style.map (·.2)).toList
  | none => ':' :: name ++ [':']

/-- Replace the names between colons, each of them a single word, by the pictures
that they stand for. -/
def withPictures : Text → Text
  | [] => []
  | char :: rest =>
      let name := rest.takeWhile (· != ':')
      if char == ':' && (rest.drop name.length).head? == some ':' && !name.any Text.isBlank then
        namedPicture name ++ withPictures (rest.drop (name.length + 1))
      else
        char :: withPictures rest
termination_by text => text.length
decreasing_by
  · simp only [List.length_drop, List.length_cons]; omega
  · simp

end SpecFinder.Console
