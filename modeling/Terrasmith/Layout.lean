import Terrasmith.Text.Basic

/-!
The canonical layout of a file. Every line that starts in plain code is indented by its nesting depth, two
blanks per level, and the `=` of adjacent assignments of equal indentation are aligned. Lines that start
inside a heredoc, a block comment, a string or an interpolation stay as they are.
-/
namespace Terrasmith.Layout

open Terrasmith.Text

/-- What encloses a position besides plain code. -/
inductive Context where
  | string
  /-- An interpolation or directive with the number of brackets open inside it. -/
  | interpolation (depth : Nat)
  deriving Repr, DecidableEq

/-- What is open between two lines. An empty stack is plain code. -/
structure Scanner where
  stack : List Context := []
  depth : Nat := 0
  blockComment : Bool := false
  heredoc : Option (List Char) := none
  deriving Repr, DecidableEq

/-- Only lines that start in plain code are laid out. -/
def Scanner.atCodeStart (s : Scanner) : Bool :=
  s.heredoc.isNone && !s.blockComment && s.stack.isEmpty

def isOpening (c : Char) : Bool := c = '{' || c = '[' || c = '('

def isClosing (c : Char) : Bool := c = '}' || c = ']' || c = ')'

def Scanner.onOpening (s : Scanner) : Scanner :=
  match s.stack with
  | .interpolation depth :: outer => { s with stack := .interpolation (depth + 1) :: outer }
  | _ => { s with depth := s.depth + 1 }

def Scanner.onClosing (s : Scanner) : Scanner :=
  match s.stack with
  | .interpolation 0 :: outer => { s with stack := outer }
  | .interpolation (depth + 1) :: outer => { s with stack := .interpolation depth :: outer }
  | _ => { s with depth := s.depth - 1 }

/-- The marker of a heredoc whose `<<` is followed by `rest` up to the end of the line. -/
def heredocMarker? (rest : List Char) : Option (List Char) :=
  let marker := trimChars (rest.dropWhile (· = '-'))
  if !marker.isEmpty && marker.all (fun c => isAlphanumeric c || c = '_') then some marker else none

/-- How far a character carries the scan: to the end of the line, past itself, or past its successor too. -/
inductive Reach where
  | line
  | self
  | pair
  deriving Repr, DecidableEq

/-- What a character `c`, followed by `rest` on its line, opens and closes. -/
def Scanner.step (s : Scanner) (c : Char) (rest : List Char) : Scanner × Reach :=
  let next := rest.head?
  if s.blockComment then
    if c = '*' ∧ next = some '/' then ({ s with blockComment := false }, .pair) else (s, .self)
  else match s.stack with
  | .string :: outer =>
    if c = '\\' then (s, .pair)
    else if c = '"' then ({ s with stack := outer }, .self)
    else if (c = '$' ∨ c = '%') ∧ next = some '{' then
      ({ s with stack := .interpolation 0 :: s.stack }, .pair)
    else (s, .self)
  | stack =>
    if c = '#' then (s, .line)
    else if c = '/' ∧ next = some '/' then (s, .line)
    else if c = '/' ∧ next = some '*' then ({ s with blockComment := true }, .pair)
    else if c = '"' then ({ s with stack := .string :: stack }, .self)
    else if c = '<' ∧ next = some '<' ∧ stack.isEmpty then
      match heredocMarker? rest.tail with
      | some marker => ({ s with heredoc := some marker }, .line)
      | none => (s, .pair)
    else if isOpening c then (s.onOpening, .self)
    else if isClosing c then (s.onClosing, .self)
    else (s, .self)

/-- What is open after the characters of a line, given what was open before them; with `skip` the first
character belongs to its predecessor. -/
def Scanner.scan : (skip : Bool) → (chars : List Char) → Scanner → Scanner
  | _, [], s => s
  | true, _ :: rest, s => scan false rest s
  | false, c :: rest, s =>
    match s.step c rest with
    | (s, .line) => s
    | (s, .self) => scan false rest s
    | (s, .pair) => scan true rest s

/-- What is open after a line. A heredoc ends with a line that holds its marker alone. -/
def Scanner.next (s : Scanner) (line : List Char) : Scanner :=
  match s.heredoc with
  | some marker => if trimChars line = marker then { s with heredoc := none } else s
  | none => s.scan false line

/-- A line `key = value` at the start of a statement. -/
structure Assignment where
  indent : Nat
  key : List Char
  value : List Char
  deriving Repr, DecidableEq

def isKeyChar (c : Char) : Bool := isAlphanumeric c || c = '_' || c = '-'

def isKeyStart (c : Char) : Bool := isAlphabetic c || c = '_'

/-- Reads a trimmed line as an assignment. -/
def assignment? (indent : Nat) (line : List Char) : Option Assignment :=
  match line with
  | [] => none
  | first :: _ =>
    if !isKeyStart first then none
    else
      let key := line.takeWhile isKeyChar
      match trimStartChars (line.dropWhile isKeyChar) with
      | '=' :: value =>
        match value with
        | '=' :: _ => none
        | '>' :: _ => none
        | _ => some ⟨indent, key, trimStartChars value⟩
      | _ => none

inductive Line where
  | assignment (a : Assignment)
  | text (chars : List Char)
  deriving Repr, DecidableEq

def indentation (indent : Nat) : List Char := List.replicate (2 * indent) ' '

/-- How a line is laid out when `s` is open before it. -/
def layLine (s : Scanner) (line : List Char) : Line :=
  if s.atCodeStart then
    let trimmed := trimChars line
    let indent := s.depth - (trimmed.takeWhile isClosing).length
    match assignment? indent trimmed with
    | some a => .assignment a
    | none => .text (if trimmed.isEmpty then [] else indentation indent ++ trimmed)
  else .text line

/-- Lays out lines one after the other. -/
def layLines : Scanner → List (List Char) → List Line
  | _, [] => []
  | s, line :: rest => layLine s line :: layLines (s.next line) rest

/-- An assignment with its key padded to `width`. -/
def Assignment.render (width : Nat) (a : Assignment) : List Char :=
  indentation a.indent ++ a.key ++ List.replicate (width - a.key.length) ' ' ++ " = ".toList ++ a.value

def widest (group : List Assignment) : Nat :=
  (group.map (·.key.length)).foldl Nat.max 0

def renderGroup (group : List Assignment) : List (List Char) :=
  group.map (Assignment.render (widest group))

/-- The texts of laid out lines; `group` holds the assignments not yet written, last first. -/
def renderLines : (group : List Assignment) → List Line → List (List Char)
  | group, [] => renderGroup group.reverse
  | group, .text chars :: rest => renderGroup group.reverse ++ chars :: renderLines [] rest
  | [], .assignment a :: rest => renderLines [a] rest
  | last :: group, .assignment a :: rest =>
    if last.indent = a.indent then renderLines (a :: last :: group) rest
    else renderGroup (last :: group).reverse ++ renderLines [a] rest

/-- The texts of the lines of the canonical layout, empty ones at the end included. -/
def formatLines (text : String) : List (List Char) :=
  renderLines [] (layLines {} ((linesOf text.toList).dropWhile (fun line => line.all isBlank)))

/-- Lines put together, each ended by a newline. -/
def unlines (ls : List (List Char)) : List Char :=
  ls.flatMap (· ++ ['\n'])

/-- The canonical layout of a text. -/
def format (text : String) : String :=
  match (unlines (formatLines text)).reverse.dropWhile (· = '\n') with
  | [] => ""
  | last => String.ofList (last.reverse ++ ['\n'])

end Terrasmith.Layout
