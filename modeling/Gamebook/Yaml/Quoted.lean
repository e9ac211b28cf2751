import Gamebook.Json.Reader
import Gamebook.Yaml.Cursor
import Gamebook.Yaml.Fault

namespace Gamebook
namespace Yaml
namespace Quoted

-- What one character after a backslash stands for.
def escapes : List (Char × Char) := [
  ('0', '\x00'), ('a', '\x07'), ('b', '\x08'), ('t', '\t'), ('\t', '\t'), ('n', '\n'),
  ('v', '\x0b'), ('f', '\x0c'), ('r', '\r'), ('e', '\x1b'), (' ', ' '),
  (Text.quotation, Text.quotation), (Text.backslash, Text.backslash), ('/', '/'),
  ('N', '\x85'), ('_', '\xa0'), ('L', '\u2028'), ('P', '\u2029')
]

-- How many hexadecimal digits follow.
def escapeWidth? (c : Char) : Option Nat :=
  if c = 'x' then some 2 else if c = 'u' then some 4 else if c = 'U' then some 8 else none

-- The number that exactly `width` hexadecimal digits stand for, and what follows them.
def hex? : Nat → Nat → List Char → Option (Nat × List Char)
  | 0,         acc, cs      => some (acc, cs)
  | width + 1, acc, c :: cs => do hex? width (acc * 16 + (← Text.hexValue? c)) cs
  | _ + 1,     _,   []      => none

theorem length_of_hex? {width acc n : Nat} {cs rest : List Char}
    (h : hex? width acc cs = some (n, rest)) : rest.length ≤ cs.length := by
  induction width generalizing acc cs with
  | zero => simp [hex?] at h; simp [h]
  | succ width ih =>
    cases cs with
    | nil => simp [hex?] at h
    | cons c cs =>
      simp only [hex?, Option.bind_eq_bind, Option.bind_eq_some_iff] at h
      obtain ⟨v, _, h⟩ := h
      have := ih h
      simp; omega

-- The character of a code. A surrogate has none.
def codeChar (n : Nat) : Except Fault Char :=
  if n < 0x110000 then .ok (if n < 0x10000 then Json.unitChar n else Char.ofNat n)
  else .error (.unfit (if n < 0x80000000 then .codePoint else .hugeCodePoint))

-- Breaks with blanks around them, and what follows. No document may start or end here.
def breaks (cs : List Char) : Except Fault (List Char × List Char) :=
  if isSeparator cs then .error .malformed
  else
    have := Json.length_dropWhile_le isWhite cs
    match h : splitBreak? (cs.dropWhile isWhite) with
    | some (b, rest) => do
      have := length_of_splitBreak? h
      let (bs, rest) ← breaks rest
      return (b :: bs, rest)
    | none => .ok ([], cs.dropWhile isWhite)
termination_by cs.length

theorem length_of_breaks {cs bs rest : List Char} (h : breaks cs = .ok (bs, rest)) :
    rest.length ≤ cs.length := by
  fun_induction breaks cs generalizing bs with
  | case1 => contradiction
  | case2 cs _ hd b rest' hb hl ih =>
    cases hr : breaks rest' with
    | error e => simp [hr, bind, Except.bind] at h
    | ok r =>
      simp only [hr, bind, Except.bind, pure, Except.pure, Except.ok.injEq, Prod.mk.injEq] at h
      have := @ih r.1 (by rw [hr, ← h.2])
      omega
  | case3 cs _ hd _ =>
    cases h
    exact hd

-- A single break is folded into a space, unless it is a separator of lines or paragraphs.
def folded (first : Char) (more : List Char) : List Char :=
  if first ≠ '\n' then first :: more else if more.isEmpty then [' '] else more

-- The characters up to the closing mark, and what follows it.
def read (double : Bool) (cs : List Char) : Except Fault (List Char × List Char) :=
  match cs with
  | []      => .error .malformed
  | c :: cs =>
    if isWhite c || isBreak c then
      let blanks := (c :: cs).takeWhile isWhite
      have hw := Json.length_dropWhile_le isWhite (c :: cs)
      match hd : (c :: cs).dropWhile isWhite with
      | [] => .error .malformed
      | cs' => match hb : splitBreak? cs' with
        | some (b, rest) =>
          have hl := length_of_splitBreak? hb
          match hr : breaks rest with
          | .error e        => .error e
          | .ok (bs, rest') => do
            have hl' := length_of_breaks hr
            have : rest'.length < (c :: cs).length := Nat.lt_of_le_of_lt hl' (Nat.lt_of_lt_of_le hl (hd ▸ hw))
            let (s, rest'') ← read double rest'
            return (folded b bs ++ s, rest'')
        | none =>
          if _h : cs'.length < cs.length + 1 then do
            let (s, rest) ← read double cs'
            return (blanks ++ s, rest)
          else .error .malformed
    else if double then
      if c = Text.quotation then .ok ([], cs)
      else if c = Text.backslash then
        match cs with
        | []       => .error .malformed
        | e :: cs' =>
          match escapes.find? (·.1 = e) with
          | some (_, c) => do
            let (s, rest) ← read double cs'
            return (c :: s, rest)
          | none => match escapeWidth? e with
            | some width => match hh : hex? width 0 cs' with
              | none           => .error .malformed
              | some (n, rest) => do
                have := length_of_hex? hh
                let c ← codeChar n
                let (s, rest) ← read double rest
                return (c :: s, rest)
            | none => match hb : splitBreak? (e :: cs') with
              | none           => .error .malformed
              | some (_, rest) =>
                have hl := length_of_splitBreak? hb
                match hr : breaks rest with
                | .error e        => .error e
                | .ok (bs, rest') => do
                  have := Nat.lt_of_le_of_lt (length_of_breaks hr) hl
                  let (s, rest'') ← read double rest'
                  return (bs ++ s, rest'')
      else do
        let (s, rest) ← read double cs
        return (c :: s, rest)
    else if c = Text.apostrophe then
      match cs with
      | d :: cs' =>
        if d = Text.apostrophe then do
          let (s, rest) ← read double cs'
          return (c :: s, rest)
        else .ok ([], d :: cs')
      | [] => .ok ([], [])
    else do
      let (s, rest) ← read double cs
      return (c :: s, rest)
termination_by cs.length
decreasing_by
  · exact this
  · exact _h
  · exact Json.length_lt_cons _ (Nat.lt_succ_self _)
  · exact Json.length_lt_cons _ (Nat.lt_succ_of_le this)
  · exact Json.length_lt_cons _ this
  · exact Nat.lt_succ_self _
  · exact Json.length_lt_cons _ (Nat.lt_succ_self _)
  · exact Nat.lt_succ_self _

end Quoted
end Yaml
end Gamebook
