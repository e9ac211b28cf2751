import Gamebook.Datum
import Gamebook.Story.Response

namespace Gamebook
namespace Speech

-- The elements of a spoken document.
inductive Element
  | paragraph (text : String)
  | pause (milliseconds : Int)
  | audio (source : String)
deriving DecidableEq, Repr

-- Characters that would be taken for markup are replaced by entities.
def escapeText (c : Char) : List Char :=
  if c = '&' then "&amp;".toList
  else if c = '<' then "&lt;".toList
  else if c = '>' then "&gt;".toList
  else [c]

-- In attributes also quotation marks and what a reader would take for a space.
def escapeAttribute (c : Char) : List Char :=
  if c = Text.quotation then "&quot;".toList
  else if c = '\r' then "&#13;".toList
  else if c = '\n' then "&#10;".toList
  else if c = '\t' then "&#09;".toList
  else escapeText c

def emptyElement (name : String) (attributes : List (String × String)) : List Char :=
  '<' :: name.toList ++ attributes.flatMap chars ++ " />".toList
where
  chars (a : String × String) : List Char :=
    ' ' :: a.1.toList ++ '=' :: Text.quotation :: a.2.toList.flatMap escapeAttribute ++ [Text.quotation]

-- An element without content has the short form.
def element (name : String) (content : List Char) : List Char :=
  if content.isEmpty then emptyElement name []
  else '<' :: name.toList ++ '>' :: content ++ '<' :: '/' :: name.toList ++ ['>']

def Element.chars : Element → List Char
  | paragraph s => element "p" (s.toList.flatMap escapeText)
  | pause ms    => emptyElement "break" [("time", Scalar.intText ms ++ "ms")]
  | audio src   => emptyElement "audio" [("src", src)]

def document (es : List Element) : String :=
  String.ofList (element "speak" (es.flatMap Element.chars))

def notUnderstood : String := "Sorry, I don't know what that means."

def goodBye : String := "Good bye."

-- Why a number of seconds is no number of milliseconds.
inductive Unmeasured
  | nan
  | infinite
deriving DecidableEq, Repr

-- Whole milliseconds, the rest being cut off. The product is rounded before that.
def milliseconds (seconds : Binary64) : Except Unmeasured Int :=
  match seconds.mul (.ofInt 1000) with
  | .nan        => .error .nan
  | .infinite _ => .error .infinite
  | f           => .ok ((f.truncate?).getD 0)

-- Sounds are found by their ids under an address.
def elements (address : String) : Directive → Except Unmeasured (List Element)
  | .say s         => .ok [.paragraph s]
  | .delay f       => do return [.pause (← milliseconds f)]
  | .play s        => .ok [.audio (address ++ s)]
  | .notUnderstood => .ok [.paragraph notUnderstood]
  | .bye           => .ok [.paragraph goodBye]
  | .finished      => .ok []

end Speech

-- A document to be spoken, and whether it is the last one.
structure Speech where
  text  : String
  ended : Bool
deriving DecidableEq, Repr

namespace Speech

def ofResponse (address : String) (r : Response) : Except Unmeasured Speech := do
  let es ← r.flatten.mapM (elements address)
  return ⟨document es.flatten, r.flatten.contains .bye⟩

end Speech
end Gamebook
