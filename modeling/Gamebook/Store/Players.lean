import Gamebook.Store.Basic
import Gamebook.Store.Slug

namespace Gamebook
namespace Store

def extension : String := ".json"

def playerPath (s : Store) (recordId : String) : PathName :=
  s.playersFolder ++ .ofNames [Slug.ofText recordId ++ extension]

def player? (s : Store) (recordId : String) : Except Fault (Option Json) :=
  s.readJson? (s.playerPath recordId)

-- Stores a player in place of the one that was stored under the same name.
def savePlayer (s : Store) (recordId : String) (player : Json) : Except Fault Store :=
  s.writeJson (s.playerPath recordId) player

-- Removes a stored player. Was there one?
def deletePlayer (s : Store) (recordId : String) : Except Fault (Store × Bool) := do
  let p := s.playerPath recordId
  if ← (s.files.isFile p).mapError .file then
    return ({ s with files := ← (s.files.remove p).mapError .file }, true)
  else return (s, false)

def sorted (names : List String) : List String :=
  names.mergeSort fun m n => decide (m ≤ n)

-- The names of the files among the players, in the order of their characters.
def playerFiles (s : Store) : List String :=
  sorted (s.files.names s.playersFolder)

def isPlayerFile (name : String) : Bool :=
  extension.toList.isSuffixOf name.toList

def players (s : Store) : Except Fault (List Json) :=
  (s.playerFiles.filter isPlayerFile).mapM fun n => s.readJson (s.playersFolder ++ .ofNames [n])

end Store
end Gamebook
