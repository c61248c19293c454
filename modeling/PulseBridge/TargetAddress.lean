/-!
# Addresses of targets

The provider has one address per target, made from a template: every placeholder is replaced by
the target. A template without a placeholder gets the target as a last step of its path.
-/

namespace PulseBridge.TargetAddress

/-- What stands for the target in a template. -/
def placeholder : List Char := ['\x7b', 'i', 'd', '\x7d']

/-- Put a character in front of the first piece. -/
def extendFirst (c : Char) : List (List Char) → List (List Char)
  | [] => [[c]]
  | piece :: pieces => (c :: piece) :: pieces

/-- The pieces of a template between its placeholders. -/
def pieces : List Char → List (List Char)
  | [] => [[]]
  | '\x7b' :: 'i' :: 'd' :: '\x7d' :: rest => [] :: pieces rest
  | c :: rest => extendFirst c (pieces rest)

/-- The text without slashes at its end. -/
def trimSlashes (cs : List Char) : List Char := (cs.reverse.dropWhile (· == '/')).reverse

/-- The address of a target. -/
def fillChars (template target : List Char) : List Char :=
  match pieces template with
  | [whole] => trimSlashes whole ++ '/' :: target
  | several => target.intercalate several

/-- The address of a target. -/
def fill (template target : String) : String :=
  String.ofList (fillChars template.toList target.toList)

end PulseBridge.TargetAddress
