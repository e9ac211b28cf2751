import Gamebook.Text.Lower
import Gamebook.Text.Pattern
import Gamebook.Web.Domain
import Gamebook.Web.Percent

namespace Gamebook
namespace Host

-- Four numbers with any one character between them. Such a host has to be an address.
def ipv4Style : Pattern :=
  let n := Pattern.plus Pattern.digit
  let dot := Pattern.one fun _ => true
  .all [n, dot, n, dot, n, dot, n]

def isOctet (cs : List Char) : Bool :=
  !cs.isEmpty && cs.all Char.isDigit && cs.length ≤ 3 && (cs.head? ≠ some '0' || cs.length = 1) &&
    Nat.ofDigitChars 10 cs 0 ≤ 255

def isIpv4 (cs : List Char) : Bool :=
  let parts := cs.splitOn '.'
  parts.length = 4 && parts.all isOctet

def isGroup (cs : List Char) : Bool :=
  !cs.isEmpty && cs.length ≤ 4 && cs.all fun c => (Text.hexValue? c).isSome

-- An IPv4 address at the end takes the place of two groups.
def groups? (cs : List Char) : Option (List (List Char)) :=
  let parts := cs.splitOn ':'
  let last := parts.getLastD []
  if parts.length < 3 then none
  else if last.contains '.' then
    if isIpv4 last then some (parts.dropLast ++ [['0'], ['0']]) else none
  else some parts

-- The groups on one side of a gap. Next to the end of the text there is an empty one.
def isSide (outer : Option (List Char)) (side : List (List Char)) : Bool :=
  if outer = some [] then side.length = 1 else side.all isGroup

-- Eight groups, where a gap stands for one or more of them.
def areGroups (parts : List (List Char)) : Bool :=
  let inner := parts.tail.dropLast
  match inner.idxOf? [] with
  | none   => parts.length = 8 && parts.all isGroup
  | some i =>
    let before := parts.take (i + 1)
    let after := parts.drop (i + 2)
    let kept := (before ++ after).filter (!·.isEmpty)
    !(inner.drop (i + 1)).contains [] && isSide before.head? before && isSide after.getLast? after &&
      kept.length < 8

-- An address in groups. A zone may follow a percent sign.
def isIpv6 (cs : List Char) : Bool :=
  let address := cs.takeWhile (· ≠ '%')
  let zone := (cs.dropWhile (· ≠ '%')).drop 1
  (address.length = cs.length || (!zone.isEmpty && !zone.contains '%')) && (groups? address).any areGroups

def isBracketed (cs : List Char) : Bool :=
  cs.head? = some '[' && cs.getLast? = some ']' && 2 ≤ cs.length

-- Letters, digits and these signs stand for themselves.
def isUnreserved (c : Char) : Bool :=
  c.isAlphanum || "-._~".toList.contains c

def isNameChar (c : Char) : Bool :=
  isUnreserved c || "!$&'()*+,;=`\x7b\x7d%|\\".toList.contains c || c = Text.quotation

-- Why a text is no host.
inductive Problem
  | ipv4 (host : String)
  | ipv6 (host : String)
  | name (host : String)
deriving DecidableEq, Repr

-- The canonical form of a host.
def ofChars (cs : List Char) : Except Problem (List Char) :=
  if cs.isEmpty then .ok []
  else if ipv4Style.matchesAll cs then
    if isIpv4 cs then .ok cs else .error (.ipv4 (String.ofList cs))
  else if isBracketed cs then
    let inner := cs.tail.dropLast
    if isIpv6 inner then .ok inner else .error (.ipv6 (String.ofList cs))
  else
    let lower := (Text.lower (String.ofList cs)).toList
    if cs.all (·.toNat < 128) then .ok (Percent.encode isNameChar lower)
    else (Domain.encode? lower).elim (.error (.name (String.ofList cs))) .ok

end Host
end Gamebook
