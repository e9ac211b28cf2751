import Gamebook.Text.Pattern

namespace Gamebook
namespace Yaml
namespace Implicit

-- The plain texts that YAML 1.1 reads as something else than text.

open Pattern

def bool : Pattern :=
  words ["yes", "Yes", "YES", "no", "No", "NO", "true", "True", "TRUE", "false", "False", "FALSE",
    "on", "On", "ON", "off", "Off", "OFF"]

def sign : Pattern := opt (oneOf "+-")

def place : Pattern := oneOf "0123456789_"

-- Parts in base sixty after the first one.
def sixties : Pattern :=
  plus (all [char ':', opt (oneOf "012345"), digit])

def exponent : Pattern :=
  opt (all [oneOf "eE", oneOf "+-", plus digit])

def float : Pattern :=
  any [
    all [sign, digit, star place, char '.', star place, exponent],
    all [char '.', digit, star place, exponent],
    all [sign, digit, star place, sixties, char '.', star place],
    all [sign, words [".inf", ".Inf", ".INF"]],
    words [".nan", ".NaN", ".NAN"]]

def int : Pattern :=
  all [sign, any [
    all [word "0b", plus (oneOf "01_")],
    all [char '0', plus (oneOf "01234567_")],
    char '0',
    all [oneOf "123456789", star place],
    all [word "0x", plus (oneOf "0123456789abcdefABCDEF_")],
    all [oneOf "123456789", star place, sixties]]]

def null : Pattern :=
  words ["~", "null", "Null", "NULL", ""]

def blanks : Pattern := oneOf " \t"

def timestamp : Pattern :=
  any [
    all [times digit 4 0, char '-', times digit 2 0, char '-', times digit 2 0],
    all [
      times digit 4 0, char '-', times digit 1 1, char '-', times digit 1 1,
      alt (oneOf "Tt") (plus blanks),
      times digit 1 1, char ':', times digit 2 0, char ':', times digit 2 0,
      opt (all [char '.', star digit]),
      opt (all [star blanks, alt (char 'Z')
        (all [oneOf "+-", times digit 1 1, opt (all [char ':', times digit 2 0])])])]]

-- The merge key, the default key and the signs of tags, anchors and aliases.
def marks : Pattern :=
  words ["<<", "=", "!", "&", "*"]

def types : List Pattern :=
  [bool, float, int, null, timestamp, marks]

def isText (cs : List Char) : Bool :=
  !types.any fun r => r.matchesAll cs

end Implicit
end Yaml
end Gamebook
