import Gamebook.Text.AsciiFold
import Gamebook.Text.Blank
import Gamebook.Text.Quoted

namespace Gamebook
namespace Slug

def isSlugChar (c : Char) : Bool :=
  ('a' ≤ c && c ≤ 'z') || ('0' ≤ c && c ≤ '9')

-- Runs of other characters become one hyphen each. `gap` is set within such a run.
def join (gap : Bool) : List Char → List Char
  | []      => []
  | c :: cs =>
    if isSlugChar c then c :: join false cs
    else if gap then join true cs
    else '-' :: join true cs

-- Quotation marks vanish, so that what they belong to is not torn apart.
def isQuote (c : Char) : Bool :=
  c = Text.apostrophe || c = Text.quotation

def untitled : String := "untitled"

-- The name under which something is filed: lower case ASCII letters and digits, and hyphens
-- between them.
def ofText (text : String) : String :=
  let cs := (Text.asciiFold text).toList.map Char.toLower
  let cs := Text.stripBy (· = '-') (join false (cs.filter (!isQuote ·)))
  if cs.isEmpty then untitled else String.ofList cs

end Slug
end Gamebook
