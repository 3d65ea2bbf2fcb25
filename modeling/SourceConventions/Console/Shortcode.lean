import SourceConventions.Console.Emoji
import SourceConventions.Text.Blank

/-!
# Pictograms by name

A name between two colons stands for a pictogram. A hyphen with `text` or `emoji` behind the name
asks for its plain or its coloured form. What no pictogram is called stays as it is.
-/

namespace SourceConventions.Shortcode

/-- The forms that can be asked for, with their variation selectors. -/
def forms : List (List Char × Char) :=
  [(['-', 't', 'e', 'x', 't'], '\ufe0e'), (['-', 'e', 'm', 'o', 'j', 'i'], '\ufe0f')]

/-- What a text between colons stands for. -/
def pictogram? (code : List Char) : Option (List Char) :=
  match forms.find? fun (ending, _) => ending.isSuffixOf code with
  | some (ending, selector) =>
    (Emoji.ofName? (String.ofList (code.take (code.length - ending.length)))).map
      fun glyph => glyph.toList ++ [selector]
  | none => (Emoji.ofName? (String.ofList code)).map String.toList

/-- A text with pictograms for their names. -/
def replaceFrom : Nat → List Char → List Char
  | 0, cs => cs
  | _, [] => []
  | fuel + 1, ':' :: rest =>
    let code := rest.takeWhile fun c => c != ':' && !Text.isBlank c
    match rest.drop code.length with
    | ':' :: others => (pictogram? code).getD (':' :: code ++ [':']) ++ replaceFrom fuel others
    | _ => ':' :: replaceFrom fuel rest
  | fuel + 1, c :: rest => c :: replaceFrom fuel rest

def replace (cs : List Char) : List Char := replaceFrom cs.length cs

end SourceConventions.Shortcode
