import Terrasmith.Source.Page

/-!
Expressions read from source. An expression is a term with the traversals, operations and the conditional that
follow it; the blanks between the parts are kept with them.
-/
namespace Terrasmith.Source

/-- How an expression may go on: over line ends, and as a conditional. -/
structure Manner where
  lines : Bool := false
  conditional : Bool := true
  deriving Repr, DecidableEq

/-- The manner of expressions in parentheses, in indices and in templates. -/
def Manner.enclosed : Manner := { lines := true }

/-- The manner of the operand on the right of an operator: a conditional has the whole operation as its condition. -/
def Manner.operand (m : Manner) : Manner := { m with conditional := false }

/-- The manner of the branches of a conditional. They are no conditionals if its condition is an operation. -/
def Manner.branch (m : Manner) (operation : Bool) : Manner := { m with conditional := !operation }

/-- The manner of items and arguments. -/
def Manner.item (m : Manner) : Manner := { m with lines := true }

/-- A binary operator. Slashes that start a comment are none. -/
def binaryOp? : List Char → Option (BinaryOp × List Char)
  | '=' :: '=' :: rest => some (.eq, rest)
  | '!' :: '=' :: rest => some (.ne, rest)
  | '<' :: '=' :: rest => some (.le, rest)
  | '>' :: '=' :: rest => some (.ge, rest)
  | '<' :: rest => some (.lt, rest)
  | '>' :: rest => some (.gt, rest)
  | '&' :: '&' :: rest => some (.and, rest)
  | '|' :: '|' :: rest => some (.or, rest)
  | '+' :: rest => some (.add, rest)
  | '-' :: rest => some (.sub, rest)
  | '*' :: rest => some (.mul, rest)
  | '/' :: '/' :: _ => none
  | '/' :: '*' :: _ => none
  | '/' :: rest => some (.div, rest)
  | '%' :: rest => some (.mod, rest)
  | _ => none

/-- Whether a step of a traversal starts here. -/
def startsStep : List Char → Bool
  | '.' :: '.' :: _ => false
  | '.' :: _ => true
  | '[' :: _ => true
  | _ => false

/-- Whether a for expression starts here: its keyword is followed by white space. -/
def startsLoop (chars : List Char) : Bool :=
  match word? "for" chars with
  | some (c :: _) => c = ' ' || c = '\t' || c = '\n' || c = '\r'
  | _ => false

/-- A term behind the unary operator before it. Of several operators only the last counts, and the blanks after it
go in front of the operation. -/
def applyPending (pending? : Option (UnaryOp × String)) (w : Written) : Written :=
  match pending? with
  | none => w
  | some (op, gap) => .mk gap (.unary op w) ""

/-- A `~` before or after the inside of an interpolation or directive. -/
def strip? : List Char → Bool × List Char
  | '~' :: rest => (true, rest)
  | rest => (false, rest)

/-- The end of an interpolation or directive. -/
def closing? (chars : List Char) : Option (Bool × List Char) :=
  let (strip, rest) := strip? chars
  match rest with
  | '}' :: rest => some (strip, rest)
  | _ => none

/-- The opening of a directive and the blanks after it. -/
def directive? : List Char → Option ((Bool × String) × List Char)
  | '%' :: '{' :: rest =>
    let (strip, rest) := strip? rest
    let (gap, rest) := blanks true rest
    some ((strip, gap), rest)
  | _ => none

/-- A directive that consists of a given keyword. -/
def bareDirective? (word : String) (chars : List Char) : Option (BareDirective × List Char) := do
  let ((opened, before), rest) ← directive? chars
  let rest ← word? word rest
  let (after, rest) := blanks true rest
  let (closed, rest) ← closing? rest
  some (⟨⟨opened, closed⟩, before, word, after⟩, rest)

/-- What holds a template: a string literal, a heredoc, or a text of its own. Inside of directives escapes and
closing lines mean nothing, as in a text of its own. -/
inductive Holder where
  | quoted
  | heredoc (delimiter : List Char)
  | bare

/-- A literal part of a template. -/
def Holder.literal (holder : Holder) (chars : List Char) : List Char × List Char :=
  match holder with
  | .quoted => quotedChars chars
  | .heredoc delimiter => rawChars (closesHeredoc delimiter) chars
  | .bare => rawChars List.isEmpty chars

/-- The variables of a loop: an optional key and the value. -/
def loopNames? (chars : List Char) : Option (LoopNames × List Char) := do
  let (gap₁, rest) := blanks true chars
  let (first, rest) ← ident? rest
  let (gap₂, rest) := blanks true rest
  match rest with
  | ',' :: rest =>
    let (gap₃, rest) := blanks true rest
    let (second, rest) ← ident? rest
    let (gap₄, rest) := blanks true rest
    some (⟨some first, second, gap₁ ++ first ++ gap₂ ++ "," ++ gap₃ ++ second ++ gap₄⟩, rest)
  | _ => some (⟨none, first, gap₁ ++ first ++ gap₂⟩, rest)

/-- The index of an attribute access by number: a zero, or digits that do not start with one. -/
def legacyIndex? (chars : List Char) : Option (Nat × List Char) :=
  match chars with
  | '0' :: rest => some (0, rest)
  | _ =>
    let digits := chars.takeWhile Char.isDigit
    if digits.isEmpty || Number.unsignedLimit ≤ Number.digitsValue digits then none
    else some (Number.digitsValue digits, chars.dropWhile Char.isDigit)

mutual

/-- An expression. -/
def expr? : (fuel : Nat) → Manner → List Char → Option (Written × List Char)
  | 0, _, _ => none
  | fuel + 1, m, chars => do
    let ((head, lines), rest) ← term? fuel m none chars
    more? fuel { m with lines } false head rest

/-- An expression with blanks and comments on both sides. -/
def padded? : (fuel : Nat) → Manner → List Char → Option (Written × List Char)
  | 0, _, _ => none
  | fuel + 1, m, chars => do
    let (before, rest) := blanks true chars
    let (e, rest) ← expr? fuel m rest
    let (after, rest) := blanks true rest
    some (e.between before after, rest)

/-- The traversals, operations and the conditional that follow `head`; `operation` tells whether it is an
operation. -/
def more? : (fuel : Nat) → Manner → (operation : Bool) → (head : Written) → List Char →
    Option (Written × List Char)
  | 0, _, _, _, _ => none
  | fuel + 1, m, operation, head, chars =>
    let (gap, rest) := blanks m.lines chars
    if startsStep rest then do
      let (path, rest) ← path? fuel m.lines rest
      more? fuel m operation (.bare (.traversal (head.withAfter gap) path)) rest
    else
      match rest with
      | '?' :: rest =>
        if m.conditional then do
          let (gap₁, rest) := blanks m.lines rest
          let (t, rest) ← expr? fuel (m.branch operation) rest
          let (gap₂, rest) := blanks m.lines rest
          match rest with
          | ':' :: rest =>
            let (gap₃, rest) := blanks m.lines rest
            let (f, rest) ← expr? fuel (m.branch operation) rest
            some (.bare (.conditional (head.withAfter gap) (t.between gap₁ gap₂) (f.withBefore gap₃)), rest)
          | _ => none
        else some (head, chars)
      | _ =>
        match binaryOp? rest with
        | some (op, rest) => do
          let (gap', rest) := blanks m.lines rest
          let (right, rest) ← expr? fuel m.operand rest
          more? fuel m true (.bare (.binary (head.withAfter gap) op (right.withBefore gap'))) rest
        | none => some (head, chars)

/-- The steps of a traversal. Blanks before the later ones are not kept. -/
def path? : (fuel : Nat) → (lines : Bool) → List Char → Option (List Step × List Char)
  | 0, _, _ => none
  | fuel + 1, lines, chars => do
    let (step, rest) ← step? fuel chars
    let (_, after) := blanks lines rest
    if startsStep after then
      let (path, rest) ← path? fuel lines after
      some (step :: path, rest)
    else some ([step], rest)

/-- One step of a traversal. -/
def step? : (fuel : Nat) → List Char → Option (Step × List Char)
  | 0, _ => none
  | fuel + 1, chars =>
    match chars with
    | '.' :: rest =>
      let (gap, rest) := blanks true rest
      match rest with
      | '*' :: rest => some (.attributeSplat gap, rest)
      | _ =>
        match ident? rest with
        | some (name, rest) => some (.attribute gap name, rest)
        | none => (legacyIndex? rest).map fun (n, rest) => (.legacyIndex gap n, rest)
    | '[' :: rest =>
      let (gap, after) := blanks true rest
      match after with
      | '*' :: after =>
        let (gap', after) := blanks true after
        match after with
        | ']' :: after => some (.fullSplat gap gap', after)
        | _ => none
      | _ => do
        let (e, rest) ← padded? fuel .enclosed rest
        match rest with
        | ']' :: rest => some (.index e, rest)
        | _ => none
    | _ => none

/-- A term: a literal, a collection, a name, a call, a parenthesis or a term behind a unary operator. It comes with
the word whether the expression goes on over line ends, which it does after items and arguments. -/
def term? : (fuel : Nat) → Manner → (pending? : Option (UnaryOp × String)) → List Char →
    Option ((Written × Bool) × List Char)
  | 0, _, _, _ => none
  | fuel + 1, m, pending?, chars =>
    let done := fun (w : Written) (lines : Bool) (rest : List Char) =>
      some ((applyPending pending? w, lines), rest)
    match chars with
    | '"' :: inside =>
      match plainString? chars with
      | some (text, rest) => done (.bare (.string text)) m.lines rest
      | none => do
        let (pieces, rest) ← pieces? fuel .quoted inside
        match rest with
        | '"' :: rest => done (.bare (.quoted pieces)) m.lines rest
        | _ => none
    | '[' :: inside =>
      let (lead, after) := blanks true inside
      if startsLoop after then do
        let ((names, collection), rest) ← loopHead? fuel (after.drop 3)
        let (value, rest) ← padded? fuel {} rest
        let (condition, rest) ← loopCondition? fuel rest
        match rest with
        | ']' :: rest => done (.bare (.listFor lead names collection value condition)) m.lines rest
        | _ => none
      else do
        let ((items, comma, tail), rest) ← items? fuel m.item inside
        match rest with
        | ']' :: rest => done (.bare (.array items comma tail)) true rest
        | _ => none
    | '{' :: inside =>
      let (lead, after) := blanks true inside
      if startsLoop after then do
        let ((names, collection), rest) ← loopHead? fuel (after.drop 3)
        let (key, rest) ← padded? fuel {} rest
        let rest ← word? "=>" rest
        let (value, rest) ← padded? fuel {} rest
        let (grouping, rest) := match word? "..." rest with
          | some rest => (true, rest)
          | none => (false, rest)
        let (condition, rest) ← loopCondition? fuel rest
        let (tail, rest) := blanks true rest
        match rest with
        | '}' :: rest =>
          done (.mk "" (.objectFor lead names collection key value grouping condition) tail) m.lines rest
        | _ => none
      else do
        let ((entries, tail), rest) ← entries? fuel inside
        done (.bare (.object (mergeEntries entries) tail)) m.lines rest
    | '(' :: inside => do
      let (e, rest) ← padded? fuel .enclosed inside
      match rest with
      | ')' :: rest => done (.bare (.parens e)) m.lines rest
      | _ => none
    | '<' :: '<' :: inside => do
      let (w, rest) ← heredoc? fuel inside
      done w m.lines rest
    | '-' :: rest =>
      let (gap, rest) := blanks false rest
      match number? rest with
      | some ((n, text), rest) => done (.bare (.number n.neg ("-" ++ gap ++ text))) m.lines rest
      | none => term? fuel m (some (.neg, gap)) rest
    | '!' :: rest =>
      let (gap, rest) := blanks false rest
      term? fuel m (some (.not, gap)) rest
    | c :: _ =>
      if c.isDigit then do
        let ((n, text), rest) ← number? chars
        done (.bare (.number n text)) m.lines rest
      else do
        let (name, rest) ← ident? chars
        let ((form, lines), rest) ← named? fuel m [name] name rest
        done (.bare form) lines rest
    | [] => none

/-- A variable, a word with a meaning or a call after the first names of a namespace. -/
def named? : (fuel : Nat) → Manner → (names : List String) → (text : String) → List Char →
    Option ((Form × Bool) × List Char)
  | 0, _, _, _, _ => none
  | fuel + 1, m, names, text, rest =>
    let (gap, after) := blanks m.lines rest
    match after with
    | ':' :: ':' :: after => do
      let (gap', after) := blanks m.lines after
      let (name, after) ← ident? after
      named? fuel m (names ++ [name]) (text ++ gap ++ "::" ++ gap' ++ name) after
    | '(' :: after => do
      let ((args, stop, tail), after) ← arguments? fuel m.item after
      match after with
      | ')' :: after => some ((.call names (text ++ gap) args stop tail, true), after)
      | _ => none
    | _ =>
      match names with
      | ["null"] => some ((.null, m.lines), rest)
      | ["true"] => some ((.bool true, m.lines), rest)
      | ["false"] => some ((.bool false, m.lines), rest)
      | [name] => some ((.variable name, m.lines), rest)
      | _ => none

/-- Arguments with what ends them and the blanks before the closing parenthesis. -/
def arguments? : (fuel : Nat) → Manner → List Char → Option ((List Written × ArgumentsEnd × String) × List Char)
  | 0, _, _ => none
  | fuel + 1, m, chars =>
    let (gap, after) := blanks true chars
    match after with
    | ')' :: _ => some (([], .plain, gap), after)
    | ',' :: _ => some (([], .plain, gap), after)
    | '.' :: _ => some (([], .plain, gap), after)
    | _ => do
      let (e, rest) ← padded? fuel m chars
      match rest with
      | ',' :: rest =>
        let ((args, stop, tail), rest) ← arguments? fuel m rest
        some ((e :: args, if args.isEmpty then .comma else stop, tail), rest)
      | _ =>
        match word? "..." rest with
        | some rest =>
          let (tail, rest) := blanks true rest
          some (([e], .ellipsis, tail), rest)
        | none => some (([e], .plain, ""), rest)

/-- Items of an array, whether a comma follows the last, and the blanks before the closing bracket. -/
def items? : (fuel : Nat) → Manner → List Char → Option ((List Written × Bool × String) × List Char)
  | 0, _, _ => none
  | fuel + 1, m, chars =>
    let (gap, after) := blanks true chars
    match after with
    | ']' :: _ => some (([], false, gap), after)
    | ',' :: _ => some (([], false, gap), after)
    | _ => do
      let (e, rest) ← padded? fuel m chars
      match rest with
      | ',' :: rest =>
        let ((items, comma, tail), rest) ← items? fuel m rest
        some ((e :: items, comma || items.isEmpty, tail), rest)
      | _ => some (([e], false, ""), rest)

/-- Entries of an object up to the closing brace, and the blanks before it. An entry ends with a comma, with the
end of its line or before the brace. -/
def entries? : (fuel : Nat) → List Char → Option ((List WrittenEntry × String) × List Char)
  | 0, _ => none
  | fuel + 1, chars =>
    let (lead, rest) := blanks true chars
    match rest with
    | '}' :: rest => some (([], lead), rest)
    | _ => do
      let (key, rest) ← expr? fuel {} rest
      let (gap₁, rest) := blanks false rest
      let (colon, rest) ← match rest with
        | '=' :: rest => some (false, rest)
        | ':' :: rest => some (true, rest)
        | _ => none
      let (gap₂, rest) := blanks false rest
      let (value, rest) ← expr? fuel {} rest
      let (gap₃, rest) := blanks false rest
      let key := key.between lead gap₁
      match rest with
      | '}' :: rest => some (([.mk key colon (value.between gap₂ gap₃) .plain], ""), rest)
      | ',' :: rest =>
        let ((entries, tail), rest) ← entries? fuel rest
        some ((.mk key colon (value.between gap₂ gap₃) .comma :: entries, tail), rest)
      | _ =>
        let (comment, rest) := (lineComment? rest).getD ([], rest)
        let rest ← lineEnd? rest
        let ((entries, tail), rest) ← entries? fuel rest
        some ((.mk key colon (value.between gap₂ (gap₃ ++ String.ofList comment)) .newline :: entries, tail), rest)

/-- The variables and the collection of a for expression, after its keyword. -/
def loopHead? : (fuel : Nat) → List Char → Option ((LoopNames × Written) × List Char)
  | 0, _ => none
  | fuel + 1, chars => do
    let (names, rest) ← loopNames? chars
    let rest ← word? "in" rest
    let (collection, rest) ← padded? fuel {} rest
    match rest with
    | ':' :: rest => some ((names, collection), rest)
    | _ => none

/-- The condition of a for expression, if there is one. -/
def loopCondition? : (fuel : Nat) → List Char → Option (LoopCondition × List Char)
  | 0, _ => none
  | fuel + 1, chars =>
    let (lead, rest) := blanks true chars
    match word? "if" rest with
    | some rest => do
      let (condition, rest) ← padded? fuel {} rest
      some (.onlyIf lead condition, rest)
    | none => some (.always, chars)

/-- A heredoc after `<<`. -/
def heredoc? : (fuel : Nat) → List Char → Option (Written × List Char)
  | 0, _ => none
  | fuel + 1, chars => do
    let (indented, rest) := match chars with
      | '-' :: rest => (true, rest)
      | rest => (false, rest)
    let (name, rest) ← ident? rest
    let rest ← lineEnd? rest
    let (pieces, rest) ← pieces? fuel (.heredoc name.toList) rest
    let (pieces, rest) := match lineEnd? rest with
      | some after => (appendText (if rest.head? = some '\r' then "\r\n" else "\n") pieces, after)
      | none => (pieces, rest)
    let margin := String.ofList (rest.takeWhile isIndent)
    let rest ← Text.afterStart? name.toList (rest.dropWhile isIndent)
    let indent := if indented then commonIndent false pieces else 0
    let pieces := if indent = 0 then pieces else dedent indent false pieces
    some (.bare (.heredoc name indent pieces margin), rest)

/-- The parts of a template up to the end of its holder or a directive that belongs to one around it. -/
def pieces? : (fuel : Nat) → Holder → List Char → Option (List Piece × List Char)
  | 0, _, _ => none
  | fuel + 1, holder, chars =>
    match holder.literal chars with
    | (c :: run, rest) => do
      let (more, rest) ← pieces? fuel holder rest
      some (.literal (String.ofList (c :: run)) :: more, rest)
    | ([], _) =>
      match chars with
      | '$' :: '{' :: inside => do
        let (opened, inside) := strip? inside
        let (e, inside) ← padded? fuel .enclosed inside
        let (closed, rest) ← closing? inside
        let (more, rest) ← pieces? fuel holder rest
        some (.interpolation ⟨opened, closed⟩ e :: more, rest)
      | _ =>
        match directive? chars with
        | none => some ([], chars)
        | some ((opened, lead), inside) =>
          match word? "if" inside with
          | some inside => do
            let (piece, rest) ← ifDirective? fuel opened lead inside
            let (more, rest) ← pieces? fuel holder rest
            some (piece :: more, rest)
          | none =>
            match word? "for" inside with
            | some inside => do
              let (piece, rest) ← forDirective? fuel opened lead inside
              let (more, rest) ← pieces? fuel holder rest
              some (piece :: more, rest)
            | none => some ([], chars)

/-- A directive with branches, after its `if`. -/
def ifDirective? : (fuel : Nat) → (opened : Bool) → (lead : String) → List Char → Option (Piece × List Char)
  | 0, _, _, _ => none
  | fuel + 1, opened, lead, chars => do
    let (condition, rest) ← padded? fuel .enclosed chars
    let (closed, rest) ← closing? rest
    let (t, rest) ← pieces? fuel .bare rest
    match bareDirective? "else" rest with
    | some (middle, rest) =>
      let (f, rest) ← pieces? fuel .bare rest
      let (stop, rest) ← bareDirective? "endif" rest
      some (.ifElseDirective ⟨opened, closed⟩ lead condition t middle f stop, rest)
    | none =>
      let (stop, rest) ← bareDirective? "endif" rest
      some (.ifDirective ⟨opened, closed⟩ lead condition t stop, rest)

/-- A directive that repeats its body, after its `for`. -/
def forDirective? : (fuel : Nat) → (opened : Bool) → (lead : String) → List Char → Option (Piece × List Char)
  | 0, _, _, _ => none
  | fuel + 1, opened, lead, chars => do
    let (names, rest) ← loopNames? chars
    let rest ← word? "in" rest
    let (collection, rest) ← padded? fuel .enclosed rest
    let (closed, rest) ← closing? rest
    let (body, rest) ← pieces? fuel .bare rest
    let (stop, rest) ← bareDirective? "endfor" rest
    some (.forDirective ⟨opened, closed⟩ lead names collection body stop, rest)

end

/-- Enough fuel to read a text: every round of a reader takes a character or is one of a few on the way to it. -/
def readingFuel (chars : List Char) : Nat := 8 * (chars.length + 4)

/-- An expression at the start of `chars` that ends with the line. -/
def expression? (chars : List Char) : Option (Written × List Char) :=
  expr? (readingFuel chars) {} chars

/-- A text read as a template. -/
def template? (text : String) : Option (List Piece) :=
  match pieces? (readingFuel text.toList) .bare text.toList with
  | some (pieces, []) => some pieces
  | _ => none

end Terrasmith.Source
