import ErrorWording.Text.Lines

set_option autoImplicit false

namespace ErrorWording

structure Stretch where
  start : Nat
  stop : Nat
deriving DecidableEq, Repr

namespace Pattern

def nestingLimit : Nat := 250

inductive Problem where
  | unclosedGroup
  | unopenedGroup
  | unclosedName
  | emptyName
  | invalidName
  | repeatedName
  | unknownFlag
  | cutFlags
  | repeatedFlag
  | repeatedNegation
  | danglingNegation
  | lookAround
  | backReference
  | unclosedClass
  | reversedRange
  | rangeOfClass
  | assertionInClass
  | cutEscape
  | unknownEscape
  | invalidDigit
  | emptyNumber
  | noCharacter
  | invalidProperty
  | unknownProperty
  | unknownPropertyValue
  | cutBoundary
  | unclosedBoundary
  | unknownBoundary
  | nothingToRepeat
  | unclosedCount
  | countWithoutNumber
  | countTooLarge
  | reversedCount
  | tooDeep
  | beyondAscii
  | noText
deriving DecidableEq, Repr

def Problem.text : Problem → String
  | .unclosedGroup => "unclosed group"
  | .unopenedGroup => "unopened group"
  | .unclosedName => "unclosed capture group name"
  | .emptyName => "empty capture group name"
  | .invalidName => "invalid capture group character"
  | .repeatedName => "duplicate capture group name"
  | .unknownFlag => "unrecognized flag"
  | .cutFlags => "expected flag but got end of regex"
  | .repeatedFlag => "duplicate flag"
  | .repeatedNegation => "flag negation operator repeated"
  | .danglingNegation => "dangling flag negation operator"
  | .lookAround => "look-around, including look-ahead and look-behind, is not supported"
  | .backReference => "backreferences are not supported"
  | .unclosedClass => "unclosed character class"
  | .reversedRange => "invalid character class range, the start must be <= the end"
  | .rangeOfClass => "invalid range boundary, must be a literal"
  | .assertionInClass => "invalid escape sequence found in character class"
  | .cutEscape => "incomplete escape sequence, reached end of pattern prematurely"
  | .unknownEscape => "unrecognized escape sequence"
  | .invalidDigit => "invalid hexadecimal digit"
  | .emptyNumber => "hexadecimal literal empty"
  | .noCharacter => "hexadecimal literal is not a Unicode scalar value"
  | .invalidProperty => "invalid Unicode character class"
  | .unknownProperty => "Unicode property not found"
  | .unknownPropertyValue => "Unicode property value not found"
  | .cutBoundary =>
      "found either the beginning of a special word boundary or a bounded repetition on a \\b " ++
        "with an opening brace, but no closing brace"
  | .unclosedBoundary =>
      "special word boundary assertion is either unclosed or contains an invalid character"
  | .unknownBoundary =>
      "unrecognized special word boundary assertion, valid choices are: start, end, " ++
        "start-half or end-half"
  | .nothingToRepeat => "repetition operator missing expression"
  | .unclosedCount => "unclosed counted repetition"
  | .countWithoutNumber => "repetition quantifier expects a valid decimal"
  | .countTooLarge => "decimal literal invalid"
  | .reversedCount => "invalid repetition count range, the start must be <= the end"
  | .tooDeep =>
      "exceed the maximum number of nested parentheses/brackets (" ++ toString nestingLimit ++ ")"
  | .beyondAscii => "Unicode not allowed here"
  | .noText => "pattern can match invalid UTF-8"

structure Flaw where
  problem : Problem
  place : Stretch
  earlier : Option Stretch
deriving DecidableEq, Repr

namespace Flaw

def spanning (problem : Problem) (start stop : Nat) : Flaw := ⟨problem, ⟨start, stop⟩, none⟩

structure Position where
  line : Nat
  column : Nat
deriving DecidableEq, Repr

def positionOf (written : List Char) (place : Nat) : Position :=
  let before := written.take place
  ⟨before.count '\n', (before.reverse.takeWhile (· != '\n')).length⟩

def ends (written : List Char) (f : Flaw) : List (Position × Position) :=
  let stretches := (f.earlier.toList ++ [f.place]).mergeSort fun a b =>
    a.start < b.start || (a.start == b.start && a.stop ≤ b.stop)
  stretches.map fun s => (positionOf written s.start, positionOf written s.stop)

def marksBehind (column : Nat) : List (Nat × Nat) → List Char
  | [] => []
  | (first, last) :: rest =>
      let width := max 1 (last - first)
      List.replicate (first - column) ' ' ++ List.replicate width '^' ++
        marksBehind (max column first + width) rest

def numberWidth (written : List Char) : Nat :=
  let count := (linesOf written).length + if written.getLast? = some '\n' then 1 else 0
  if count ≤ 1 then 0 else (toString count).length

def label (width line : Nat) : String :=
  if width = 0 then "    "
  else
    let number := toString (line + 1)
    String.ofList (List.replicate (width - number.length) ' ') ++ number ++ ": "

def notedLine (ends : List (Position × Position)) (width line : Nat) (text : List Char) : String :=
  let here := ends.filter fun (first, last) => first.line = line ∧ last.line = line
  let marks := marksBehind 0 (here.map fun (first, last) => (first.column, last.column))
  let margin := List.replicate (if width = 0 then 4 else width + 2) ' '
  label width line ++ String.ofList text ++ "\n" ++
    if marks = [] then "" else String.ofList (margin ++ marks) ++ "\n"

def rangeNote (first last : Position) : String :=
  "on line " ++ toString (first.line + 1) ++ " (column " ++ toString (first.column + 1) ++
    ") through line " ++ toString (last.line + 1) ++ " (column " ++ toString last.column ++ ")\n"

def divider : String := String.ofList (List.replicate 79 '~') ++ "\n"

def render (written : List Char) (f : Flaw) : String :=
  let ends := f.ends written
  let width := numberWidth written
  let noted := String.join ((linesOf written).zipIdx.map fun (text, line) =>
    notedLine ends width line text)
  let body :=
    if '\n' ∈ written then
      let wide := ends.filter fun (first, last) => first.line ≠ last.line
      divider ++ noted ++ divider ++
        String.join (wide.map fun (first, last) => rangeNote first last)
    else noted
  "regex parse error:\n" ++ body ++ "error: " ++ f.problem.text

end Flaw

end Pattern

end ErrorWording
