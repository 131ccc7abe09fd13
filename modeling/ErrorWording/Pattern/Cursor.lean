import ErrorWording.Pattern.Written
import ErrorWording.Text.Blank

set_option autoImplicit false

namespace ErrorWording.Pattern

structure Cursor where
  rest : List Char
  offset : Nat
  loose : Bool
deriving DecidableEq, Repr

abbrev Reading (α : Type) := Except Flaw (α × Cursor)

namespace Cursor

def atStart (written : List Char) : Cursor := ⟨written, 0, false⟩

def isAtEnd (c : Cursor) : Bool := c.rest.isEmpty

def next (c : Cursor) : Cursor :=
  match c.rest with
  | [] => c
  | _ :: rest => { c with rest := rest, offset := c.offset + 1 }

def past (c : Cursor) (text : List Char) : Cursor :=
  { c with rest := c.rest.drop text.length, offset := c.offset + text.length }

def behindBlanks (inComment : Bool) : List Char → List Char
  | [] => []
  | c :: rest =>
      if inComment then behindBlanks (c != '\n') rest
      else if Blank.isBlank c then behindBlanks false rest
      else if c = '#' then behindBlanks true rest
      else c :: rest

def passBlanks (c : Cursor) : Cursor :=
  if c.loose then
    let rest := behindBlanks false c.rest
    { c with rest := rest, offset := c.offset + (c.rest.length - rest.length) }
  else c

def advance (c : Cursor) : Cursor := c.next.passBlanks

def dropBlanks (c : Cursor) : Cursor :=
  c.past (c.rest.takeWhile Blank.isBlank)

def peek? (c : Cursor) : Option Char := c.rest.tail.head?

def peekPastBlanks? (c : Cursor) : Option Char :=
  if c.loose then
    match c.rest.tail.dropWhile Blank.isBlank with
    | [] => c.peek?
    -- One number sign is taken for a blank too.
    | '#' :: rest => (rest.dropWhile Blank.isBlank).head?.or c.peek?
    | d :: _ => some d
  else c.peek?

def here (c : Cursor) : Stretch := ⟨c.offset, c.offset⟩

def character (c : Cursor) : Stretch := ⟨c.offset, c.offset + 1⟩

def flawFrom (c : Cursor) (problem : Problem) (start : Nat) : Flaw :=
  .spanning problem start c.offset

def flawHere (c : Cursor) (problem : Problem) : Flaw := ⟨problem, c.here, none⟩

def flawAtCharacter (c : Cursor) (problem : Problem) : Flaw := ⟨problem, c.character, none⟩

def collect (accept : Char → Bool) : Nat → List Literal → Cursor → List Literal × Cursor
  | 0, taken, c => (taken.reverse, c)
  | fuel + 1, taken, c =>
      match c.rest with
      | [] => (taken.reverse, c)
      | d :: _ =>
          if accept d then collect accept fuel (⟨c.character, d, false⟩ :: taken) c.advance
          else (taken.reverse, c)

def takeAll (c : Cursor) (accept : Char → Bool) : List Literal × Cursor :=
  collect accept c.rest.length [] c

end Cursor

end ErrorWording.Pattern
