/-!
# Pieces of a text

A text taken apart at separators. Nothing is dropped but the separators themselves, so that two
separators side by side have an empty piece between them.
-/

namespace PulseBridge.Text

/-- The pieces of a text between separators. -/
def pieces (isSeparator : Char → Bool) : List Char → List (List Char)
  | [] => [[]]
  | c :: cs =>
      if isSeparator c then [] :: pieces isSeparator cs
      else
        match pieces isSeparator cs with
        | [] => [[c]]
        | piece :: more => (c :: piece) :: more

/-- The pieces of a text between blanks and ends of lines, those without characters left out. -/
def words (cs : List Char) : List (List Char) :=
  (pieces (fun c => c == ' ' || c == '\n') cs).filter (!·.isEmpty)

end PulseBridge.Text
