import Terrasmith.Source.Meaning

/-!
Expressions without the blanks and comments around their parts. Two written expressions with the same compact form
mean the same, and keys with the same compact form agree.
-/
namespace Terrasmith.Source

mutual

/-- An expression without blanks, comments and the texts of its numbers. String literals and heredocs stay as they
are. -/
def Written.compact : Written → Written
  | .mk _ form _ => .mk "" form.compact ""

def Form.compact : Form → Form
  | .null => .null
  | .bool b => .bool b
  | .number n _ => .number n ""
  | .string s => .string s
  | .variable name => .variable name
  | .quoted pieces => .quoted pieces
  | .heredoc delimiter indent pieces margin => .heredoc delimiter indent pieces margin
  | .array items comma _ => .array (compactAll items) comma ""
  | .object entries _ => .object (compactEntries entries) ""
  | .traversal root path => .traversal root.compact (compactPath path)
  | .call name _ args stop _ => .call name "" (compactAll args) stop ""
  | .parens inner => .parens inner.compact
  | .conditional condition whenTrue whenFalse =>
    .conditional condition.compact whenTrue.compact whenFalse.compact
  | .unary op operand => .unary op operand.compact
  | .binary left op right => .binary left.compact op right.compact
  | .listFor _ names collection value condition =>
    .listFor "" { names with text := "" } collection.compact value.compact condition.compact
  | .objectFor _ names collection key value grouping condition =>
    .objectFor "" { names with text := "" } collection.compact key.compact value.compact grouping condition.compact

def compactAll : List Written → List Written
  | [] => []
  | e :: rest => e.compact :: compactAll rest

def LoopCondition.compact : LoopCondition → LoopCondition
  | .always => .always
  | .onlyIf _ condition => .onlyIf "" condition.compact

def WrittenEntry.compact : WrittenEntry → WrittenEntry
  | .mk key colon value stop => .mk key.compact colon value.compact stop

def compactEntries : List WrittenEntry → List WrittenEntry
  | [] => []
  | entry :: rest => entry.compact :: compactEntries rest

def Step.compact : Step → Step
  | .attribute _ name => .attribute "" name
  | .index e => .index e.compact
  | .legacyIndex _ n => .legacyIndex "" n
  | .attributeSplat _ => .attributeSplat ""
  | .fullSplat _ _ => .fullSplat "" ""

def compactPath : List Step → List Step
  | [] => []
  | step :: rest => step.compact :: compactPath rest

end

@[simp] theorem Written.compact_withBefore (before : String) (w : Written) :
    (w.withBefore before).compact = w.compact := by
  cases w; rfl

@[simp] theorem Written.compact_withAfter (after : String) (w : Written) :
    (w.withAfter after).compact = w.compact := by
  cases w; rfl

@[simp] theorem Written.compact_between (before after : String) (w : Written) :
    (w.between before after).compact = w.compact := by
  cases w; rfl

@[simp] theorem Written.compact_bare (form : Form) : (Written.bare form).compact = .mk "" form.compact "" := by
  simp [Written.bare, Written.compact]

section Meaning

variable (read : String → Option (List Element))

mutual

/-- Blanks and comments mean nothing. -/
theorem Written.meaning_compact : ∀ w : Written, w.compact.meaning read = w.meaning read
  | .mk _ form _ => by simp [Written.compact, Written.meaning, form.meaning_compact]

theorem Form.meaning_compact : ∀ form : Form, form.compact.meaning read = form.meaning read
  | .null => rfl
  | .bool _ => rfl
  | .number _ _ => rfl
  | .string _ => rfl
  | .variable _ => rfl
  | .quoted _ => rfl
  | .heredoc _ _ _ _ => rfl
  | .array items _ _ => by simp [Form.compact, Form.meaning, meanings_compactAll items]
  | .object entries _ => by simp [Form.compact, Form.meaning, entryMeanings_compactEntries entries]
  | .traversal root path => by
    simp [Form.compact, Form.meaning, root.meaning_compact, pathMeaning_compactPath path]
  | .call _ _ args _ _ => by simp [Form.compact, Form.meaning, meanings_compactAll args]
  | .parens inner => by simp [Form.compact, Form.meaning, inner.meaning_compact]
  | .conditional condition whenTrue whenFalse => by
    simp [Form.compact, Form.meaning, condition.meaning_compact, whenTrue.meaning_compact,
      whenFalse.meaning_compact]
  | .unary _ operand => by simp [Form.compact, Form.meaning, operand.meaning_compact]
  | .binary left _ right => by simp [Form.compact, Form.meaning, left.meaning_compact, right.meaning_compact]
  | .listFor _ _ collection value condition => by
    simp [Form.compact, Form.meaning, collection.meaning_compact, value.meaning_compact, condition.meaning_compact]
  | .objectFor _ _ collection key value _ condition => by
    simp [Form.compact, Form.meaning, collection.meaning_compact, key.meaning_compact, value.meaning_compact,
      condition.meaning_compact]

theorem meanings_compactAll : ∀ items : List Written, meanings read (compactAll items) = meanings read items
  | [] => rfl
  | e :: rest => by simp [compactAll, meanings, e.meaning_compact, meanings_compactAll rest]

theorem LoopCondition.meaning_compact : ∀ c : LoopCondition, c.compact.meaning read = c.meaning read
  | .always => rfl
  | .onlyIf _ condition => by simp [LoopCondition.compact, LoopCondition.meaning, condition.meaning_compact]

theorem WrittenEntry.meaning_compact : ∀ e : WrittenEntry, e.compact.meaning read = e.meaning read
  | .mk key _ value _ => by
    simp [WrittenEntry.compact, WrittenEntry.meaning, key.meaning_compact, value.meaning_compact]

theorem entryMeanings_compactEntries : ∀ (entries : List WrittenEntry) (done : List Entry),
    entryMeanings read done (compactEntries entries) = entryMeanings read done entries
  | [], _ => rfl
  | e :: rest, done => by
    simp [compactEntries, entryMeanings, e.meaning_compact, entryMeanings_compactEntries rest]

theorem Step.meaning_compact : ∀ s : Step, s.compact.meaning read = s.meaning read
  | .attribute _ _ => rfl
  | .index e => by simp [Step.compact, Step.meaning, e.meaning_compact]
  | .legacyIndex _ _ => rfl
  | .attributeSplat _ => rfl
  | .fullSplat _ _ => rfl

theorem pathMeaning_compactPath : ∀ path : List Step, pathMeaning read (compactPath path) = pathMeaning read path
  | [] => rfl
  | s :: rest => by simp [compactPath, pathMeaning, s.meaning_compact, pathMeaning_compactPath rest]

end

end Meaning

theorem Written.expr_eq_of_compact {w w' : Written} (h : w.compact = w'.compact) : w.expr = w'.expr := by
  rw [Written.expr, ← Written.meaning_compact, h, Written.meaning_compact, Written.expr]

@[simp] theorem Page.bare_write (p : Page) (text : String) : (p.write text).bare = p.bare := rfl

@[simp] theorem Page.bare_gap (p : Page) (text : String) : (p.gap text).bare = p.bare := by
  unfold Page.gap; split <;> rfl

@[simp] theorem Page.bare_literal (p : Page) (text : String) : (p.literal text).bare = p.bare := rfl

@[simp] theorem Page.bare_names (p : Page) (n : LoopNames) : (p.names n).bare = p.bare := by
  unfold Page.names; split <;> rfl

@[simp] theorem Page.bare_opening (p : Page) (mark : String) (strip : Strip) :
    (p.opening mark strip).bare = p.bare := rfl

@[simp] theorem Page.bare_closing (p : Page) (strip : Strip) : (p.closing strip).bare = p.bare := rfl

@[simp] theorem Page.bare_directive (p : Page) (d : BareDirective) : (p.directive d).bare = p.bare := by
  simp [Page.directive]

mutual

/-- Whether blanks are left out stays the same while printing. -/
theorem Written.bare_print : ∀ (w : Written) (p : Page), (w.print p).bare = p.bare
  | .mk _ form _, p => by simp [Written.print, form.bare_print]

theorem Form.bare_print : ∀ (form : Form) (p : Page), (form.print p).bare = p.bare
  | .null, _ => rfl
  | .bool _, _ => rfl
  | .number _ _, _ => rfl
  | .string _, _ => rfl
  | .variable _, _ => rfl
  | .quoted pieces, p => by simp [Form.print, bare_printPieces pieces]
  | .heredoc _ _ pieces _, p => by
    simp only [Form.print, Page.heredoc]
    split <;> simp [bare_printPieces pieces]
  | .array items _ _, p => by simp [Form.print, bare_printItems items]
  | .object entries _, p => by simp [Form.print, bare_printEntries entries]
  | .traversal root path, p => by simp [Form.print, root.bare_print, bare_printPath path]
  | .call _ _ args _ _, p => by simp [Form.print, bare_printItems args]
  | .parens inner, p => by simp [Form.print, inner.bare_print]
  | .conditional condition whenTrue whenFalse, p => by
    simp [Form.print, condition.bare_print, whenTrue.bare_print, whenFalse.bare_print]
  | .unary _ operand, p => by simp [Form.print, operand.bare_print]
  | .binary left _ right, p => by simp [Form.print, left.bare_print, right.bare_print]
  | .listFor _ _ collection value condition, p => by
    simp [Form.print, collection.bare_print, value.bare_print, condition.bare_print]
  | .objectFor _ _ collection key value _ condition, p => by
    simp [Form.print, collection.bare_print, key.bare_print, value.bare_print, condition.bare_print]

theorem bare_printItems : ∀ (items : List Written) (p : Page), (printItems p items).bare = p.bare
  | [], _ => rfl
  | item :: rest, p => by simp [printItems, item.bare_print, bare_printMore rest]

theorem bare_printMore : ∀ (items : List Written) (p : Page), (printMore p items).bare = p.bare
  | [], _ => rfl
  | item :: rest, p => by simp [printMore, item.bare_print, bare_printMore rest]

theorem bare_printEntries : ∀ (entries : List WrittenEntry) (p : Page), (printEntries p entries).bare = p.bare
  | [], _ => rfl
  | entry :: rest, p => by simp [printEntries, entry.bare_print, bare_printEntries rest]

theorem WrittenEntry.bare_print : ∀ (e : WrittenEntry) (p : Page), (e.print p).bare = p.bare
  | .mk key _ value _, p => by simp [WrittenEntry.print, key.bare_print, value.bare_print]

theorem LoopCondition.bare_print : ∀ (c : LoopCondition) (p : Page), (c.print p).bare = p.bare
  | .always, _ => rfl
  | .onlyIf _ condition, p => by simp [LoopCondition.print, condition.bare_print]

theorem Step.bare_print : ∀ (s : Step) (p : Page), (s.print p).bare = p.bare
  | .attribute _ _, p => by simp [Step.print]
  | .index e, p => by simp [Step.print, e.bare_print]
  | .legacyIndex _ _, p => by simp [Step.print]
  | .attributeSplat _, p => by simp [Step.print]
  | .fullSplat _ _, p => by simp [Step.print]

theorem bare_printPath : ∀ (path : List Step) (p : Page), (printPath p path).bare = p.bare
  | [], _ => rfl
  | s :: rest, p => by simp [printPath, s.bare_print, bare_printPath rest]

theorem Piece.bare_print : ∀ (piece : Piece) (p : Page), (piece.print p).bare = p.bare
  | .literal _, _ => rfl
  | .interpolation _ e, p => by simp [Piece.print, e.bare_print]
  | .ifDirective _ _ condition whenTrue _, p => by
    simp [Piece.print, condition.bare_print, bare_printPieces whenTrue]
  | .ifElseDirective _ _ condition whenTrue _ whenFalse _, p => by
    simp [Piece.print, condition.bare_print, bare_printPieces whenTrue, bare_printPieces whenFalse]
  | .forDirective _ _ _ collection body _, p => by
    simp [Piece.print, collection.bare_print, bare_printPieces body]

theorem bare_printPieces : ∀ (pieces : List Piece) (p : Page), (printPieces p pieces).bare = p.bare
  | [], _ => rfl
  | piece :: rest, p => by simp [printPieces, piece.bare_print, bare_printPieces rest]

end


theorem Page.gap_of_bare {p : Page} (h : p.bare = true) (text : String) : p.gap text = p := by
  simp [Page.gap, h]

mutual

/-- A page that leaves blanks out shows the compact form. -/
theorem Written.print_compact : ∀ (w : Written) (p : Page), p.bare = true → w.compact.print p = w.print p
  | .mk _ form _, p, h => by
    simp [Written.compact, Written.print, Page.gap_of_bare, h, Form.bare_print, form.print_compact]

theorem Form.print_compact : ∀ (form : Form) (p : Page), p.bare = true → form.compact.print p = form.print p
  | .null, _, _ => rfl
  | .bool _, _, _ => rfl
  | .number _ _, p, h => by simp [Form.compact, Form.print, h]
  | .string _, _, _ => rfl
  | .variable _, _, _ => rfl
  | .quoted _, _, _ => rfl
  | .heredoc _ _ _ _, _, _ => rfl
  | .array items _ _, p, h => by
    simp [Form.compact, Form.print, Page.gap_of_bare, h, bare_printItems, printItems_compactAll items]
  | .object entries _, p, h => by
    simp [Form.compact, Form.print, Page.gap_of_bare, h, bare_printEntries, printEntries_compactEntries entries]
  | .traversal root path, p, h => by
    simp [Form.compact, Form.print, h, Written.bare_print, root.print_compact, printPath_compactPath path]
  | .call _ _ args _ _, p, h => by
    simp [Form.compact, Form.print, Page.gap_of_bare, h, bare_printItems, printItems_compactAll args]
  | .parens inner, p, h => by simp [Form.compact, Form.print, h, inner.print_compact]
  | .conditional condition whenTrue whenFalse, p, h => by
    simp [Form.compact, Form.print, h, Written.bare_print, condition.print_compact, whenTrue.print_compact,
      whenFalse.print_compact]
  | .unary _ operand, p, h => by simp [Form.compact, Form.print, h, operand.print_compact]
  | .binary left _ right, p, h => by
    simp [Form.compact, Form.print, h, Written.bare_print, left.print_compact, right.print_compact]
  | .listFor _ _ collection value condition, p, h => by
    simp [Form.compact, Form.print, Page.gap_of_bare, Page.names, h, Written.bare_print, collection.print_compact,
      value.print_compact, condition.print_compact]
  | .objectFor _ _ collection key value _ condition, p, h => by
    simp [Form.compact, Form.print, Page.gap_of_bare, Page.names, h, Written.bare_print, collection.print_compact,
      key.print_compact, value.print_compact, condition.print_compact]

theorem printItems_compactAll : ∀ (items : List Written) (p : Page), p.bare = true →
    printItems p (compactAll items) = printItems p items
  | [], _, _ => rfl
  | item :: rest, p, h => by
    simp [compactAll, printItems, h, Written.bare_print, item.print_compact, printMore_compactAll rest]

theorem printMore_compactAll : ∀ (items : List Written) (p : Page), p.bare = true →
    printMore p (compactAll items) = printMore p items
  | [], _, _ => rfl
  | item :: rest, p, h => by
    simp [compactAll, printMore, h, Written.bare_print, item.print_compact, printMore_compactAll rest]

theorem printEntries_compactEntries : ∀ (entries : List WrittenEntry) (p : Page), p.bare = true →
    printEntries p (compactEntries entries) = printEntries p entries
  | [], _, _ => rfl
  | entry :: rest, p, h => by
    simp [compactEntries, printEntries, h, WrittenEntry.bare_print, entry.print_compact,
      printEntries_compactEntries rest]

theorem WrittenEntry.print_compact : ∀ (e : WrittenEntry) (p : Page), p.bare = true →
    e.compact.print p = e.print p
  | .mk key _ value _, p, h => by
    simp [WrittenEntry.compact, WrittenEntry.print, h, Written.bare_print, key.print_compact, value.print_compact]

theorem LoopCondition.print_compact : ∀ (c : LoopCondition) (p : Page), p.bare = true →
    c.compact.print p = c.print p
  | .always, _, _ => rfl
  | .onlyIf _ condition, p, h => by
    simp [LoopCondition.compact, LoopCondition.print, Page.gap_of_bare, h, condition.print_compact]

theorem Step.print_compact : ∀ (s : Step) (p : Page), p.bare = true → s.compact.print p = s.print p
  | .attribute _ _, p, h => by simp [Step.compact, Step.print, Page.gap_of_bare, h]
  | .index e, p, h => by simp [Step.compact, Step.print, h, e.print_compact]
  | .legacyIndex _ _, p, h => by simp [Step.compact, Step.print, Page.gap_of_bare, h]
  | .attributeSplat _, p, h => by simp [Step.compact, Step.print, Page.gap_of_bare, h]
  | .fullSplat _ _, p, h => by simp [Step.compact, Step.print, Page.gap_of_bare, h]

theorem printPath_compactPath : ∀ (path : List Step) (p : Page), p.bare = true →
    printPath p (compactPath path) = printPath p path
  | [], _, _ => rfl
  | s :: rest, p, h => by
    simp [compactPath, printPath, h, Step.bare_print, s.print_compact, printPath_compactPath rest]

end

theorem Written.form_compact (w : Written) : w.compact.form = w.form.compact := by
  cases w; rfl

/-- Whether two keys agree is seen from their compact forms. -/
theorem Written.agrees_compact (a b : Written) : a.compact.agrees b.compact = a.agrees b := by
  simp [Written.agrees, Written.form_compact, Form.print_compact]

theorem WrittenEntry.compact_insert (e : WrittenEntry) (done : List WrittenEntry) :
    compactEntries (e.insert done) = e.compact.insert (compactEntries done) := by
  obtain ⟨key', colon', value', stop'⟩ := e
  induction done with
  | nil => simp [WrittenEntry.insert, compactEntries, WrittenEntry.compact]
  | cons first rest ih =>
    obtain ⟨key, colon, value, stop⟩ := first
    simp only [WrittenEntry.insert, compactEntries, WrittenEntry.compact, Written.agrees_compact]
    split
    · simp [compactEntries, WrittenEntry.compact]
    · simp only [compactEntries, WrittenEntry.compact, List.cons.injEq, true_and]
      exact ih

theorem compactEntries_mergeEntries {entries entries' : List WrittenEntry}
    (h : compactEntries entries = compactEntries entries') :
    compactEntries (mergeEntries entries) = compactEntries (mergeEntries entries') := by
  have hfold : ∀ (es done : List WrittenEntry), compactEntries (es.foldl (fun done e => e.insert done) done) =
      (compactEntries es).foldl (fun done e => e.insert done) (compactEntries done) := by
    intro es
    induction es with
    | nil => intro done; simp [compactEntries]
    | cons e rest ih => intro done; simp [compactEntries, ih, WrittenEntry.compact_insert]
  rw [mergeEntries, mergeEntries, hfold, hfold, h]

end Terrasmith.Source
