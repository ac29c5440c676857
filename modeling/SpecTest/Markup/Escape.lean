/-!
Text inside markup: the characters that markup uses are written as entities.
-/

namespace SpecTest.Markup

def replaceChar (c : Char) (entity : String) (cs : List Char) : List Char :=
  cs.flatMap fun d => if d = c then entity.toList else [d]

/-- Text as it stands in an attribute or element.  The ampersand comes first, because the entities
put in later hold ampersands that have to stay. -/
def escapeChars (cs : List Char) : List Char :=
  cs |> replaceChar '&' "&amp;"
    |> replaceChar '<' "&lt;"
    |> replaceChar '>' "&gt;"
    |> replaceChar '"' "&quot;"
    |> replaceChar '\'' "&apos;"

def escape (s : String) : String := String.ofList (escapeChars s.toList)

/-- Text as it stands in preformatted source, where only the brackets of tags are replaced. -/
def escapeTags (cs : List Char) : List Char :=
  cs |> replaceChar '<' "&lt;" |> replaceChar '>' "&gt;"

def attr (name value : String) : String := " " ++ name ++ "=\"" ++ escape value ++ "\""

def declaration : String := "<?xml version=\"1.0\" encoding=\"UTF-8\"?>\n"

end SpecTest.Markup
