import Terrasmith.Proofs.Recutting
import Terrasmith.Proofs.Templates

/-!
What a text says after it has been laid out. The layout keeps it wherever it writes the lines of string literals and
heredocs as they stand; a heredoc whose delimiter it does not know for one loses the indentation of its lines.
-/
namespace Terrasmith.Source

open Text Layout

section Margins

variable {run : List Char} {kept : List Bool} {cells : List Cell}

/-- Blanks that a text begins with are cut off. -/
theorem exists_front_margin {u v : List Char} (hl : Lexical run cells) (hd : Diagonal cells) (hk : Sheltered kept cells)
    (hu : ∀ c ∈ u, isBlank c = true) (h : lefts cells = u ++ v) : IsMargin u ∧ ∃ run' more, Lexical run' more ∧
      Diagonal more ∧ Sheltered (kept.drop (u.count '\n')) more ∧ lefts more = v := by
  rcases exists_space_or_solid cells with ⟨w, w', rest, rfl⟩ | hsolid
  · obtain ⟨hw, -⟩ := hd.space hl
    obtain rfl : w' = w := hd _ List.mem_cons_self
    obtain ⟨⟨-, -, hne, hsolid⟩, hloop, hrest⟩ := hl
    obtain ⟨x, rfl, rfl⟩ := exists_append_of_head h hu (lefts_solid hrest hsolid)
    refine ⟨fun c hc => isBlank_of_isSpace hw c (List.mem_append_left _ hc), ?_⟩
    replace hk : Sheltered (kept.drop ((u ++ x).count '\n')) rest := hk
    rw [List.count_append, ← List.drop_drop] at hk
    by_cases hx : x = []
    · subst hx
      exact ⟨[], rest, hrest, hd.tail, by simpa using hk, rfl⟩
    · refine ⟨[], .space x x :: rest, ⟨⟨isSpace_drop hw, isSpace_drop hw, .inl hx, hsolid⟩, fun hnil => absurd hnil hx,
        hrest⟩, ?_, hk, rfl⟩
      exact List.forall_mem_cons.mpr ⟨rfl, hd.tail⟩
  · obtain rfl : u = [] := by
      cases u with
      | nil => rfl
      | cons c u =>
        have hc := lefts_solid hl hsolid c (by rw [h]; rfl)
        rw [hu c List.mem_cons_self] at hc
        cases hc
    exact ⟨List.forall_mem_nil _, run, cells, hl, hd, hk, h⟩

end Margins

/-- A text that is cut into cells. -/
structure IsCut (text : String) (cells : List Cell) : Prop where
  lexical : Lexical [] cells
  diagonal : Diagonal cells
  lefts : text.toList = lefts cells

/-- A text whose literals are written as they stand has the same cells when it has been laid out. -/
theorem fresh_format {text : String} {cells : List Cell} (hcut : IsCut text cells)
    (hkept : Sheltered (keptLines text) cells)
    (hfor : ∀ line ∈ linesOf text.toList, ¬ "for=".toList <+: trimChars line) :
    Fresh text.toList (format text).toList := by
  obtain ⟨hl, hd, hlefts⟩ := hcut
  rcases reflows_format text hfor with ⟨hblank, hempty⟩ |
    ⟨before, indent, t, t', htext, hformat, hbefore, hindent, hreflows⟩
  · obtain ⟨hmargin, -⟩ := exists_front_margin (v := []) hl hd hkept hblank (by rw [← hlefts, List.append_nil])
    exact ⟨text.toList, [], [], [], hmargin, List.forall_mem_nil _, ⟨[], [], trivial, trivial, rfl, rfl⟩, by simp,
      by simp [hempty]⟩
  · obtain ⟨hmargin, run, more, hl, hd, hk, rfl⟩ := exists_front_margin hl hd hkept hbefore (hlefts ▸ htext)
    obtain ⟨cells', hcells, -⟩ := recuts more hl hd hk hreflows fun _ => rfl
    exact ⟨before, indent, _, t', hmargin, fun c hc => .inl (hindent c hc),
      ⟨[], cells', hcells.lexical, hcells.spaced, hcells.lefts.symm, hcells.rights.symm⟩, htext, hformat⟩

/-- A text whose literals are written as they stand says the same when it has been laid out. -/
theorem format_keeps_readings {text : String} {cells : List Cell} (hcut : IsCut text cells)
    (hkept : Sheltered (keptLines text) cells)
    (hfor : ∀ line ∈ linesOf text.toList, ¬ "for=".toList <+: trimChars line) {b : Body} (hb : parse? text = some b) :
    ∃ b', parse? (format text) = some b' ∧ b'.readings = b.readings :=
  cellAlignment.parse? (fresh_format hcut hkept hfor) hb

section Examples

def heredocAndComment : String := "a=<<E\n  x\nE\nb =\"y\" # n \n"

/-- A heredoc on a line that is laid out, and a string and a comment on another one. -/
def heredocAndCommentCells : List Cell :=
  [.code 'a', .code '=', .literal (heredocText false ['E'] [' ', ' ', 'x'] []), .space ['\n'] ['\n'],
    .code 'b', .space [' '] [' '], .code '=', .literal (quote "y").toList, .space [' '] [' '],
    .comment ['#', ' ', 'n', ' '] ['#', ' ', 'n', ' '], .space ['\n'] ['\n']]

theorem isCut_heredocAndComment : IsCut heredocAndComment heredocAndCommentCells := by
  have hname : IsDelimiter ['E'] := ⟨⟨'E', [], rfl, by decide⟩, List.forall_mem_singleton.mpr (by decide)⟩
  have hheredoc : IsLiteral (heredocText false ['E'] [' ', ' ', 'x'] []) :=
    isLiteral_body hname (.of_plain (by decide +kernel)) (List.forall_mem_nil _)
  have hcomment : IsComment ['#', ' ', 'n', ' '] := ⟨rfl, by decide, by decide⟩
  refine ⟨?_, ?_, by decide +kernel⟩
  · simp +decide [heredocAndCommentCells, Lexical, hheredoc, hcomment, isLiteral_quote, EndsLine]
  · simp [heredocAndCommentCells, Diagonal, Cell.right, Cell.left]

theorem keptLines_heredocAndComment : keptLines heredocAndComment = [false, true, true, false] := by
  decide +kernel

theorem sheltered_heredocAndComment : Sheltered (keptLines heredocAndComment) heredocAndCommentCells := by
  rw [keptLines_heredocAndComment]
  have hheredoc : Stays [false, true, true, false] (heredocText false ['E'] [' ', ' ', 'x'] []) :=
    ⟨by decide, .inr (by rintro _ ⟨⟩; rfl), by decide⟩
  exact ⟨hheredoc, (isLiteral_quote "y").stays (by decide), trivial⟩

theorem format_keeps_heredocAndComment :
    (parse? heredocAndComment).isSome ∧ format heredocAndComment = "a = <<E\n  x\nE\nb = \"y\" # n\n" ∧
      ∀ b, parse? heredocAndComment = some b →
        ∃ b', parse? (format heredocAndComment) = some b' ∧ b'.readings = b.readings :=
  ⟨by decide +kernel, by decide +kernel, fun _ =>
    format_keeps_readings isCut_heredocAndComment sheltered_heredocAndComment (by decide +kernel)⟩

/-- The text of an attribute that is a heredoc. -/
def Reading.heredoc? : Reading → Option String
  | .attribute _ (.template _ source _) => some source
  | _ => none

/-- A heredoc whose delimiter holds a hyphen. -/
def hyphenatedHeredoc : String := "a = <<A-B\n    keep\nA-B\n"

theorem heredocs_of_hyphenatedHeredoc :
    (parse? hyphenatedHeredoc).map (·.readings.map Reading.heredoc?) = some [some "    keep\n"] ∧
      (parse? (format hyphenatedHeredoc)).map (·.readings.map Reading.heredoc?) = some [some "keep\n"] := by
  constructor <;> decide +kernel

/-- The layout takes the lines of a heredoc for code if its delimiter is no word. -/
theorem format_rewrites_heredoc :
    ∃ b, parse? hyphenatedHeredoc = some b ∧
      ¬ ∃ b', parse? (format hyphenatedHeredoc) = some b' ∧ b'.readings = b.readings := by
  obtain ⟨htext, hlaid⟩ := heredocs_of_hyphenatedHeredoc
  obtain ⟨b, hb, hreadings⟩ := Option.map_eq_some_iff.mp htext
  refine ⟨b, hb, fun ⟨b', hb', hsame⟩ => ?_⟩
  rw [hb', Option.map_some, hsame, hreadings] at hlaid
  exact absurd hlaid (by decide +kernel)

end Examples

end Terrasmith.Source
