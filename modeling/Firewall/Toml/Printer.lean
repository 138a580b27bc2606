import Firewall.Text.Hex
import Firewall.Toml.Text

/-!
Writing texts in TOML: between single marks on one line if nothing needs an
escape then, else between apostrophes, else on several lines, and with escapes
only if no other way is left.
-/

namespace Firewall.Toml

open Text

def needsEscape (c : Char) : Bool := !isPlain c && c != '\n'

def longestRun (c : Char) : List Char → Nat
  | [] => 0
  | d :: r => max (runLength c (d :: r)) (longestRun c r)

inductive Style
  | basic
  | literal
  | longBasic
  | longLiteral
  deriving DecidableEq, Repr

def styleOf (s : List Char) : Style :=
  let escapes := s.any needsEscape
  let backslash := s.contains '\\'
  let newline := s.contains '\n'
  let marks := longestRun mark s
  let ticks := longestRun tick s
  if !escapes && !backslash && marks == 0 && !newline then .basic
  else if !escapes && ticks == 0 && !newline then .literal
  else if !escapes && !backslash && marks ≤ 2 then .longBasic
  else if !escapes && ticks ≤ 2 then .longLiteral
  else if newline then .longBasic
  else .basic

def escaped (long : Bool) (c : Char) : List Char :=
  if c.toNat = 8 then ['\\', 'b']
  else if c = '\t' then ['\\', 't']
  else if c = '\n' then (if long then ['\n'] else ['\\', 'n'])
  else if c.toNat = 12 then ['\\', 'f']
  else if c = '\r' then ['\\', 'r']
  else if c = '\\' then ['\\', '\\']
  else if isPlain c then [c]
  else "\\u00".toList ++ [Hex.upperDigit (c.toNat / 16 % 16), Hex.upperDigit (c.toNat % 16)]

/-- Characters between quotation marks of which so many in a row, `most`, may
stand in the text; `run` of them stand in front. -/
def escapedFrom (long : Bool) (most run : Nat) : List Char → List Char
  | [] => []
  | c :: r =>
    if c = mark then
      if run < most then c :: escapedFrom long most (run + 1) r
      else '\\' :: c :: escapedFrom long most 0 r
    else escaped long c ++ escapedFrom long most 0 r

/-- A text between three quotes each; a line break in front does not count, and is
there if the text has more of them. -/
def between (quotes : List Char) (s body : List Char) : List Char :=
  quotes ++ (if s.contains '\n' then ['\n'] else []) ++ body ++ quotes

def quote (s : List Char) : List Char :=
  match styleOf s with
  | .basic => mark :: escapedFrom false 0 0 s ++ [mark]
  | .literal => tick :: s ++ [tick]
  | .longBasic => between [mark, mark, mark] s (escapedFrom true 2 0 s)
  | .longLiteral => between [tick, tick, tick] s s

end Firewall.Toml
