import Terrasmith.Source.Tree

/-!
Files read into written trees.
-/
namespace Terrasmith.Source

/-- The number of bytes of characters. -/
def byteSize (chars : List Char) : Nat :=
  chars.foldl (fun n c => n + c.utf8Size) 0

/-- The bytes between two rests of a text of `size` bytes. -/
def spanOf (size : Nat) (start stop : List Char) : Span :=
  ⟨size - byteSize start, size - byteSize stop⟩

/-- A label: a string literal or an identifier, and the blanks after it. -/
def label? (chars : List Char) : Option (Label × List Char) :=
  match chars with
  | '"' :: _ => do
    let (text, rest) ← plainString? chars
    let (trail, rest) := blanks false rest
    some (⟨text, true, trail⟩, rest)
  | _ => do
    let (text, rest) ← ident? chars
    let (trail, rest) := blanks false rest
    some (⟨text, false, trail⟩, rest)

/-- The labels of a block and the rest after its opening brace. -/
def labels? : (fuel : Nat) → List Char → Option (List Label × List Char)
  | 0, _ => none
  | _ + 1, '{' :: rest => some ([], rest)
  | fuel + 1, chars => do
    let (label, rest) ← label? chars
    let (labels, rest) ← labels? fuel rest
    some (label :: labels, rest)

/-- A key and the blanks before its sign, with the rest after it. -/
def attributeRest? (size : Nat) (lead key keyTrail : String) (start rest : List Char) :
    Option (Attribute × List Char) := do
  let (valueLead, rest) := blanks false rest
  let (value, rest) ← expression? rest
  some ({ lead, key, keyTrail, valueLead, value := value.withBefore "", span? := some (spanOf size start rest) },
    rest)

/-- A body on one line, after its opening brace. -/
def oneLineBody? (size : Nat) (chars : List Char) : Option (Body × List Char) := do
  let (lead, start) := blanks false chars
  match start with
  | '}' :: rest => some ({ tail := lead, oneLine := true }, rest)
  | _ =>
    let (key, rest) ← ident? start
    let (keyTrail, rest) := blanks false rest
    match rest with
    | '=' :: rest =>
      let (a, rest) ← attributeRest? size lead key keyTrail start rest
      let (trail, rest) := blanks false rest
      match rest with
      | '}' :: rest =>
        some ({ structures := [.attribute { a with trail }], oneLine := true }, rest)
      | _ => none
    | _ => none

/-- What may stand behind the last token of a line: blanks and a comment. -/
def lineTail (chars : List Char) : String × List Char :=
  let (gap, rest) := blanks false chars
  let (comment, rest) := (lineComment? rest).getD ([], rest)
  (gap ++ String.ofList comment, rest)

mutual

/-- Structures and what follows the last of them, up to the end of the text or a closing brace. Keys may not
repeat. The flag tells whether the last structure went without a newline. -/
def structures? (size : Nat) : (fuel : Nat) → (keys : List String) → (ended : Bool) → List Char →
    Option ((List Structure × String × Bool) × List Char)
  | 0, _, _, _ => none
  | fuel + 1, keys, ended, chars => do
    let (lead, start) := blanks true chars
    match start with
    | [] => some (([], lead, ended), [])
    | '}' :: rest => some (([], lead, ended), '}' :: rest)
    | _ =>
      let (ident, rest) ← ident? start
      let (gap, rest) := blanks false rest
      let (s, rest) ← match rest with
        | '=' :: rest =>
          if keys.contains ident then none
          else (attributeRest? size lead ident gap start rest).map fun (a, rest) => (Structure.attribute a, rest)
        | _ => (block? size fuel lead ident gap start rest).map fun (b, rest) => (Structure.block b, rest)
      let (trail, rest) := lineTail rest
      let (s, keys) := match s with
        | .attribute a => (Structure.attribute { a with trail }, a.key :: keys)
        | .block b => (.block { b with trail }, keys)
      let (ended, rest) ← match rest with
        | [] => some (true, [])
        | rest => (lineEnd? rest).map fun rest => (false, rest)
      let ((more, tail, ended), rest) ← structures? size fuel keys ended rest
      some ((s :: more, tail, ended), rest)

/-- A block after its identifier. -/
def block? (size : Nat) : (fuel : Nat) → (lead ident identTrail : String) → (start rest : List Char) →
    Option (Block × List Char)
  | 0, _, _, _, _, _ => none
  | fuel + 1, lead, ident, identTrail, start, rest => do
    let (labels, rest) ← labels? (rest.length + 1) rest
    let (body, rest) ← body? size fuel rest
    some ({ lead, ident, identTrail, labels, body, span? := some (spanOf size start rest) }, rest)

/-- The body of a block after its opening brace, with its closing brace. -/
def body? (size : Nat) : (fuel : Nat) → List Char → Option (Body × List Char)
  | 0, _ => none
  | fuel + 1, chars =>
    let (head, rest) := lineTail chars
    match lineEnd? rest with
    | some rest => do
      let ((structures, tail, _), rest) ← structures? size fuel [] false rest
      match rest with
      | '}' :: rest => some ({ structures, head, tail }, rest)
      | _ => none
    | none => oneLineBody? size chars

end

/-- The written tree of a file. -/
def parse? (text : String) : Option Body := do
  let chars := text.toList
  let ((structures, tail, openEnd), rest) ← structures? (byteSize chars) (4 * (chars.length + 4)) [] false chars
  if rest.isEmpty then some { structures, tail, openEnd } else none

/-- Why a text is not the expression it should be. -/
inductive Refusal where
  | unreadable
  | notSingle
  deriving Repr, DecidableEq

/-- A text that should be an expression. -/
structure InvalidExpression where
  text : String
  reason : Refusal
  deriving Repr, DecidableEq

/-- A text that should be a body. -/
structure InvalidBody where
  text : String
  deriving Repr, DecidableEq

def Refusal.message : Refusal → String
  | .unreadable => Display.unreadable
  | .notSingle => "must be a single expression"

def InvalidExpression.message (e : InvalidExpression) : String :=
  "`" ++ e.text ++ "` is not a valid HCL expression: " ++ e.reason.message

def InvalidBody.message (e : InvalidBody) : String :=
  "`" ++ e.text ++ "` is not a valid HCL body: " ++ Display.unreadable

/-- Reads `key = text` as a single attribute. -/
def parseAttribute (key text : String) : Except InvalidExpression Attribute :=
  match parse? (key ++ " = " ++ Text.trim text ++ "\n") with
  | none => .error ⟨text, .unreadable⟩
  | some body =>
    match body.structures with
    | [.attribute a] => if a.key = key then .ok a else .error ⟨text, .notSingle⟩
    | _ => .error ⟨text, .notSingle⟩

/-- An expression with the blanks before it. -/
structure Expression where
  lead : String
  value : Written
  deriving Inhabited

/-- Reads a text as an expression. -/
def parseExpression (text : String) : Except InvalidExpression Expression :=
  (parseAttribute "value" text).map fun a => ⟨a.valueLead, a.value⟩

def parseBody (text : String) : Except InvalidBody Body :=
  match parse? text with
  | some body => .ok body
  | none => .error ⟨text⟩

end Terrasmith.Source
