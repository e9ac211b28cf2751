import Gamebook.Files.PathName
import Gamebook.Launcher.Arguments

namespace Gamebook

-- What the program is asked to do: to play a game at the terminal, or to serve voice assistants.
inductive Invocation
  | play (file : PathName) (typing : Bool)
  | serve (dataFolder adventure : Option PathName) (reload : Bool)
deriving DecidableEq, Repr

namespace Invocation

inductive Key
  | verbose
  | noTyping
  | dataFolder
  | adventure
  | reload
deriving DecidableEq, Repr

def named (role : Role Key) (name : String) : OptionName Key :=
  ⟨name.toList, role⟩

def helpNames : List (OptionName Key) :=
  [named .help "-h", named .help "--help"]

def names : List (OptionName Key) :=
  helpNames ++ [named (.flag .verbose) "--verbose", named (.flag .verbose) "-v"]

def playNames : List (OptionName Key) :=
  helpNames ++ [named (.flag .noTyping) "--no-typing"]

def serveNames : List (OptionName Key) :=
  helpNames ++ [
    named (.value .dataFolder) "--data-dir",
    named (.value .adventure) "--adventure-file",
    named (.flag .reload) "--reload"
  ]

def read (names : List (OptionName Key)) (words : Nat) (args : List String) :
    Except Usage (Argument.Parsed Key) := do
  Argument.parse names words (← Argument.ofTexts names args)

-- A command with its own arguments. Were any left over?
def ofCommand (command : String) (args : List String) : Except Usage (Invocation × Bool) :=
  match command with
  | "play" => do
    let p ← read playNames 1 args
    match p.words with
    | [w] => .ok (.play (.ofText w) (!p.has .noTyping), p.extra)
    | _   => .error .wrong
  | "serve" => do
    let p ← read serveNames 0 args
    let path (k : Key) : Option PathName := (p.value? k).map PathName.ofText
    .ok (.serve (path .dataFolder) (path .adventure) (p.has .reload), p.extra)
  | _ => .error .wrong

-- Reads the arguments of the program. None may be left over.
def parse (args : List String) : Except Usage Invocation := do
  let all ← Argument.ofTexts names args
  let start ← Argument.parseStart names all
  let rest := args.drop ((all.takeWhile (!·.isWord)).length + 1)
  let (invocation, extra) ← ofCommand (start.words.headD "") rest
  if start.extra || extra then .error .wrong else .ok invocation

end Invocation
end Gamebook
