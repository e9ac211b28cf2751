import Gamebook.Files.Basic
import Gamebook.Files.Text
import Gamebook.Json.Reader
import Gamebook.Json.Writer

namespace Gamebook

-- What is kept between requests: files in a folder of their own.
@[ext]
structure Store where
  files  : Files
  folder : PathName

namespace Store

-- Why something cannot be got from the store or put into it.
inductive Fault
  | file (e : FileError)
  | notText
  | notJson
  | numberTooLong
  | notObject
deriving DecidableEq, Repr

def playersFolder (s : Store) : PathName :=
  s.folder ++ .ofNames ["players"]

-- Makes the folders of the store. What is already there is kept.
def setUp (s : Store) : Except FileError Store := do
  let files ← s.files.makeFolder s.folder
  let files ← files.makeFolder s.playersFolder
  return { s with files }

def readText (s : Store) (p : PathName) : Except Fault String := do
  let content ← (s.files.read p).mapError .file
  match FileText.decode content with
  | some text => .ok text
  | none      => .error .notText

def readJson (s : Store) (p : PathName) : Except Fault Json := do
  match Json.read (← s.readText p) with
  | .ok j                 => .ok j
  | .error .numberTooLong => .error .numberTooLong
  | .error (.malformed ..) => .error .notJson

def writeJson (s : Store) (p : PathName) (j : Json) : Except Fault Store := do
  if j.IsWritable then
    let files ← (s.files.write p (FileText.encode j.render)).mapError .file
    return { s with files }
  else .error .numberTooLong

-- The value in a file, if there is such a file.
def readJson? (s : Store) (p : PathName) : Except Fault (Option Json) := do
  if ← (s.files.isFile p).mapError .file then return some (← s.readJson p) else return none

end Store
end Gamebook
