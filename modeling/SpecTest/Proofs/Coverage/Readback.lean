import Mathlib.Data.List.Forall2
import SpecTest.Coverage.Index
import SpecTest.Proofs.Markup.Contents

/-!
Reading a summary back from the page that lists its files.

The page is a fixed run of tags with a run of twelve more for each file.  Names stand in it escaped, so that
no name can add a tag or end one.
-/

namespace SpecTest.Coverage

open SpecTest.Markup SpecTest.Number SpecTest.Text

section Layout

def cellPieces (tag : String) (inside : List Piece) (text : String) : List Piece :=
  .line 8 (.opening tag [("style", cellStyle)] false) :: (inside ++ [⟨text.toList, .closing tag⟩])

def rowPieces (cells : List (List Piece)) : List Piece :=
  [.line 6 (.opening "tr" [] false)] ++ cells.flatten ++ [.line 6 (.closing "tr")]

/-- An element on a line of its own with nothing but text inside. -/
def textPieces (tag text : String) : List Piece :=
  [.line 4 (.opening tag [] false), ⟨text.toList, .closing tag⟩]

def FileStats.link (s : FileStats) : List Piece :=
  [⟨[], .opening "a" [("href", s.pageName)] false⟩, ⟨s.fileName.toList, .closing "a"⟩]

def FileStats.pieces (s : FileStats) : List Piece :=
  rowPieces [
    cellPieces "td" s.link "",
    cellPieces "td" [] (toString s.covered),
    cellPieces "td" [] (toString s.total),
    cellPieces "td" [] (percentText s.percent)]

def CoverageSummary.totals (s : CoverageSummary) : String :=
  "Overall " ++ toString s.covered ++ " of " ++ toString s.total ++ " locations were hit: "

def CoverageSummary.linePieces (s : CoverageSummary) : List Piece :=
  [.line 4 (.opening "p" [] false), ⟨s.totals.toList, .opening "b" [] false⟩,
    ⟨(percentText s.percent).toList, .closing "b"⟩, ⟨[], .closing "p"⟩]

/-- The page behind its first tag up to the titles of the columns, line by line. -/
def CoverageSummary.frontPieces (s : CoverageSummary) : List Piece :=
  [.line 2 (.opening "head" [] false)] ++
  [.line 4 (.opening "meta" [("charset", "UTF-8")] true)] ++
  textPieces "title" "Coverage statistics" ++
  [.line 2 (.closing "head")] ++
  [.line 2 (.opening "body" [] false)] ++
  textPieces "h1" "Coverage statistics" ++
  textPieces "h2" "Overall coverage" ++
  s.linePieces ++
  textPieces "h2" "Breakdown by module" ++
  [.line 4 (.opening "table" [] false)] ++
  rowPieces (["File", "Covered locations", "Total locations", "%"].map (cellPieces "th" []))

def CoverageSummary.innerPieces (s : CoverageSummary) : List Piece :=
  s.frontPieces ++
  (s.files.map (·.pieces)).flatten ++
  [.line 4 (.closing "table")] ++
  [.line 2 (.closing "body")] ++
  [.line 0 (.closing "html")]

/-- The tags of the page, each with the text in front of it, all texts and values as they are. -/
def CoverageSummary.pieces (s : CoverageSummary) : List Piece :=
  ⟨[], .opening "html" [("data-theme", "vdm")] false⟩ :: s.innerPieces

def closingPieces : List Piece :=
  [.line 4 (.closing "table"), .line 2 (.closing "body"), .line 0 (.closing "html")]

theorem CoverageSummary.pieces_eq (s : CoverageSummary) :
    s.pieces = ⟨[], .opening "html" [("data-theme", "vdm")] false⟩ ::
      (s.frontPieces ++ ((s.files.map (·.pieces)).flatten ++ closingPieces)) := by
  simp only [CoverageSummary.pieces, CoverageSummary.innerPieces, List.append_assoc]
  rfl

end Layout

section Reader

/-- Reads rows up to the end of the table. -/
def readRows? : List Piece → Option (List FileStats)
  | ⟨_, .opening _ _ _⟩ :: _ :: ⟨_, .opening _ attributes _⟩ :: ⟨fileName, _⟩ :: _ :: _ :: ⟨covered, _⟩ ::
      _ :: ⟨total, _⟩ :: _ :: _ :: _ :: rest => do
    let pageName ← attributes.lookup "href"
    return ⟨String.ofList fileName, pageName, ← natIn? 10 covered, ← natIn? 10 total⟩ ::
      (← readRows? rest)
  | _ => some []

def readTotals? (line : List Char) : Option (Nat × Nat) :=
  match splitAt ' ' line with
  | _ :: covered :: _ :: total :: _ => do return (← natIn? 10 covered, ← natIn? 10 total)
  | _ => none

def readIndex? (document : String) : Option CoverageSummary := do
  let pieces ← readPieces? document
  let line ← pieces.find? (·.tag.begins "b")
  let (covered, total) ← readTotals? line.before
  -- The first row has the titles of the columns.
  let rows ← readRows? (pieces.dropWhile (·.tag ≠ .closing "tr")).tail
  return ⟨rows, covered, total⟩

end Reader

section Plain

theorem escapeChars_toString (n : Nat) : escapeChars (toString n).toList = (toString n).toList := by
  have same := congrArg String.toList (escape_toString n)
  rwa [escape, String.toList_ofList] at same

theorem escapeChars_of_digits {text : List Char} (plain : ∀ c ∈ text, c.isDigit ∨ c ∈ ['-', '.', '%']) :
    escapeChars text = text := by
  refine escapeChars_of_plain fun mark listed inside => ?_
  have other : ∀ mark ∈ ['&', '<', '>', '"', '\''], ¬ (mark.isDigit ∨ mark ∈ ['-', '.', '%']) := by simp
  exact other mark listed (plain mark inside)

theorem escapeChars_percentText (x : Binary64) :
    escapeChars (percentText x).toList = (percentText x).toList := by
  cases x with
  | nan => rfl
  | infinite negative => cases negative <;> rfl
  | finite negative mantissa exponent =>
      refine escapeChars_of_digits fun c member => ?_
      have sign : ∀ c ∈ (if negative then "-" else "").toList, c = '-' := by
        cases negative <;> simp
      have dot : ∀ c ∈ ".".toList, c = '.' := by simp
      have mark : ∀ c ∈ "%".toList, c = '%' := by simp
      simp only [percentText, Binary64.twoDecimals, String.toList_append, List.mem_append] at member
      rcases member with (((signed | whole) | point) | hundredths) | percent
      · exact .inr (by simp [sign c signed])
      · rw [Nat.toString_eq_repr, Nat.toList_repr] at whole
        exact .inl (isDigit_of_mem_toDigits _ c whole)
      · exact .inr (by simp [dot c point])
      · exact .inl (isDigit_of_mem_padded hundredths)
      · exact .inr (by simp [mark c percent])

theorem escapeChars_totals (s : CoverageSummary) : escapeChars s.totals.toList = s.totals.toList := by
  have words : ∀ text ∈ ["Overall ", " of ", " locations were hit: "],
      escapeChars text.toList = text.toList := by decide
  simp only [List.forall_mem_cons] at words
  simp only [CoverageSummary.totals, String.toList_append, escapeChars_append, escapeChars_toString, words]

end Plain

section Printing

/-- Is the text that of the pieces, which are named, but ends its own last line instead of the one in front
of it? -/
structure Prints (text : String) (pieces : List Piece) : Prop where
  named : ∀ p ∈ pieces, p.tag.Named
  written : '\n' :: text.toList = piecesText (pieces.map (·.escapeText)) ++ ['\n']

instance (text : String) (pieces : List Piece) : Decidable (Prints text pieces) :=
  decidable_of_iff ((∀ p ∈ pieces, p.tag.Named) ∧
    '\n' :: text.toList = piecesText (pieces.map (·.escapeText)) ++ ['\n'])
    ⟨fun both => ⟨both.1, both.2⟩, fun prints => ⟨prints.named, prints.written⟩⟩

variable {text other : String} {pieces others : List Piece}

theorem Prints.append (first : Prints text pieces) (second : Prints other others) :
    Prints (text ++ other) (pieces ++ others) where
  named := List.forall_mem_append.mpr ⟨first.named, second.named⟩
  written := by
    rw [String.toList_append, ← List.cons_append, first.written, List.append_assoc, List.singleton_append,
      second.written, List.map_append, piecesText_append, List.append_assoc]

theorem prints_join {texts : List String} {parts : List (List Piece)} (each : List.Forall₂ Prints texts parts) :
    Prints (String.join texts) parts.flatten := by
  induction each with
  | nil => exact ⟨by simp, rfl⟩
  | cons first rest ih =>
      rw [String.join_cons, List.flatten_cons]
      exact first.append ih

theorem prints_tableRow {cells : List String} {parts : List (List Piece)}
    (each : List.Forall₂ Prints cells parts) : Prints (tableRow cells) (rowPieces parts) := by
  have opening : Prints "      <tr>\n" [.line 6 (.opening "tr" [] false)] := by decide
  have closing : Prints "      </tr>\n" [.line 6 (.closing "tr")] := by decide
  exact (opening.append (prints_join each)).append closing

theorem prints_cell {tag content text : String} {inside : List Piece} (isName : isXmlName tag)
    (named : ∀ p ∈ inside, p.tag.Named)
    (shown : content.toList = piecesText (inside.map (·.escapeText)) ++ escapeChars text.toList) :
    Prints (cell tag content) (cellPieces tag inside text) where
  named := by
    have key : isXmlName "style" := by decide
    rw [cellPieces, List.forall_mem_cons, List.forall_mem_append, List.forall_mem_singleton]
    exact ⟨⟨isName, by simpa using key, by simp⟩, named, isName⟩
  written := by
    have line : cell tag content =
        "        <" ++ tag ++ attr "style" cellStyle ++ ">" ++ content ++ "</" ++ tag ++ ">\n" := rfl
    simp only [line, cellPieces, String.toList_append, shown, List.map_cons, List.map_append, List.map_nil,
      Piece.escapeText_line, Piece.escapeText_mk, piecesText_cons, piecesText_append]
    simp [Piece.line, Tag.text, tagText, piecesText]

theorem prints_textCell {tag text : String} (isName : isXmlName tag)
    (plain : escapeChars text.toList = text.toList) : Prints (cell tag text) (cellPieces tag [] text) := by
  refine prints_cell isName (by simp) ?_
  rw [plain]
  rfl

theorem prints_row (s : FileStats) : Prints s.row s.pieces := by
  have name : isXmlName "td" ∧ isXmlName "a" ∧ isXmlName "href" := by decide
  have link : Prints (cell "td" ("<a" ++ attr "href" s.pageName ++ ">" ++ escape s.fileName ++ "</a>"))
      (cellPieces "td" s.link "") := by
    refine prints_cell name.1 ?_ ?_
    · rw [FileStats.link, List.forall_mem_cons, List.forall_mem_singleton]
      exact ⟨⟨name.2.1, by simpa using name.2.2, by simp⟩, name.2.1⟩
    · have blank : escapeChars [] = [] := rfl
      simp [FileStats.link, piecesText, Piece.text, escape, Tag.text, tagText, blank]
  have covered := prints_textCell name.1 (escapeChars_toString s.covered)
  have total := prints_textCell name.1 (escapeChars_toString s.total)
  have percent := prints_textCell name.1 (escapeChars_percentText s.percent)
  exact prints_tableRow (.cons link (.cons covered (.cons total (.cons percent .nil))))

theorem prints_line (s : CoverageSummary) : Prints s.line s.linePieces where
  named := by
    have tags : s.linePieces.map (·.tag) =
        [.opening "p" [] false, .opening "b" [] false, .closing "b", .closing "p"] := rfl
    have named : ∀ tag ∈ s.linePieces.map (·.tag), tag.Named := by
      rw [tags]
      decide
    exact List.forall_mem_map.mp named
  written := by
    have text : s.line = "    <p>Overall " ++ toString s.covered ++ " of " ++ toString s.total ++
        " locations were hit: <b>" ++ percentText s.percent ++ "</b></p>\n" := rfl
    have blank : escapeChars [] = [] := rfl
    have escaped : s.linePieces.map (·.escapeText) = s.linePieces := by
      simp only [CoverageSummary.linePieces, List.map_cons, List.map_nil, Piece.escapeText_line,
        Piece.escapeText_mk, escapeChars_totals, escapeChars_percentText, blank]
    rw [escaped, text]
    simp [CoverageSummary.linePieces, CoverageSummary.totals, piecesText, Piece.text, Piece.line, Tag.text,
      tagText]

theorem prints_rows (files : List FileStats) :
    Prints (String.join (files.map (·.row))) (files.map (·.pieces)).flatten := by
  refine prints_join (List.forall₂_map_left_iff.mpr (List.forall₂_map_right_iff.mpr ?_))
  exact List.forall₂_same.mpr fun row _ => prints_row row

theorem prints_index (s : CoverageSummary) :
    Prints s.index (.line 0 (.opening "html" [("data-theme", "vdm")] false) :: s.innerPieces) := by
  have html : Prints "<html data-theme=\"vdm\">\n"
      [.line 0 (.opening "html" [("data-theme", "vdm")] false)] := by decide
  have head : Prints "  <head>\n" [.line 2 (.opening "head" [] false)] := by decide
  have charset : Prints "    <meta charset=\"UTF-8\"/>\n"
      [.line 4 (.opening "meta" [("charset", "UTF-8")] true)] := by decide
  have title : Prints "    <title>Coverage statistics</title>\n"
      (textPieces "title" "Coverage statistics") := by decide +kernel
  have headEnd : Prints "  </head>\n" [.line 2 (.closing "head")] := by decide
  have body : Prints "  <body>\n" [.line 2 (.opening "body" [] false)] := by decide
  have heading : Prints "    <h1>Coverage statistics</h1>\n"
      (textPieces "h1" "Coverage statistics") := by decide +kernel
  have overall : Prints "    <h2>Overall coverage</h2>\n" (textPieces "h2" "Overall coverage") := by
    decide +kernel
  have breakdown : Prints "    <h2>Breakdown by module</h2>\n"
      (textPieces "h2" "Breakdown by module") := by decide +kernel
  have table : Prints "    <table>\n" [.line 4 (.opening "table" [] false)] := by decide
  have columns : Prints (tableRow (["File", "Covered locations", "Total locations", "%"].map (cell "th")))
      (rowPieces (["File", "Covered locations", "Total locations", "%"].map (cellPieces "th" []))) := by
    refine prints_tableRow (List.forall₂_map_left_iff.mpr (List.forall₂_map_right_iff.mpr ?_))
    refine List.forall₂_same.mpr fun title listed => prints_textCell (by decide) ?_
    have plain : ∀ title ∈ ["File", "Covered locations", "Total locations", "%"],
        escapeChars title.toList = title.toList := by decide
    exact plain title listed
  have tableEnd : Prints "    </table>\n" [.line 4 (.closing "table")] := by decide
  have bodyEnd : Prints "  </body>\n" [.line 2 (.closing "body")] := by decide
  have htmlEnd : Prints "</html>\n" [.line 0 (.closing "html")] := by decide
  exact html.append head |>.append charset |>.append title |>.append headEnd |>.append body
    |>.append heading |>.append overall |>.append (prints_line s) |>.append breakdown |>.append table
    |>.append columns |>.append (prints_rows s.files) |>.append tableEnd |>.append bodyEnd |>.append htmlEnd

theorem pieces_named (s : CoverageSummary) : ∀ p ∈ s.pieces, p.tag.Named := by
  have inner := (prints_index s).named
  rw [CoverageSummary.pieces, List.forall_mem_cons]
  rwa [List.forall_mem_cons] at inner

theorem index_pieces (s : CoverageSummary) :
    s.index.toList = piecesText (s.pieces.map (·.escapeText)) ++ ['\n'] := by
  have text := (prints_index s).written
  rw [List.map_cons, Piece.escapeText_line, piecesText_cons] at text
  exact (List.cons.inj text).2

/-- The pieces of a page are read back from it, whatever the names in it look like. -/
theorem readPieces?_index (s : CoverageSummary) : readPieces? s.index = some s.pieces :=
  readPieces?_pieces (pieces_named s) (by decide) (index_pieces s)

theorem elementCount_index (name : String) (s : CoverageSummary) :
    elementCount name s.index = s.pieces.countP (·.tag.begins name) :=
  elementCount_pieces (pieces_named s) (by decide) (index_pieces s) name

end Printing

section Reading

theorem readRows?_pieces (s : FileStats) (rest : List Piece) :
    readRows? (s.pieces ++ rest) = (readRows? rest).map (s :: ·) := by
  have found : List.lookup "href" [("href", s.pageName)] = some s.pageName := rfl
  simp only [FileStats.pieces, FileStats.link, rowPieces, cellPieces, List.flatten_cons, List.flatten_nil,
    List.cons_append, List.nil_append, Piece.line, readRows?, natIn?_toString, found, String.ofList_toList]
  cases readRows? rest <;> rfl

theorem readRows?_flatten (files : List FileStats) :
    readRows? ((files.map (·.pieces)).flatten ++ closingPieces) = some files := by
  induction files with
  | nil => rfl
  | cons s files ih =>
      rw [List.map_cons, List.flatten_cons, List.append_assoc, readRows?_pieces, ih, Option.map_some]

theorem readTotals?_totals (s : CoverageSummary) :
    readTotals? s.totals.toList = some (s.covered, s.total) := by
  have noBlank (n : Nat) : ' ' ∉ (toString n).toList := by
    rw [Nat.toString_eq_repr, Nat.toList_repr]
    exact not_mem_toDigits (by decide) n
  have shape : s.totals.toList = "Overall".toList ++ ' ' :: ((toString s.covered).toList ++
      ' ' :: ("of".toList ++ ' ' :: ((toString s.total).toList ++ ' ' :: "locations were hit: ".toList))) := by
    simp [CoverageSummary.totals]
  rw [readTotals?, shape, splitAt_append_sep, splitAt_append_sep, splitAt_append_sep, splitAt_append_sep,
    splitAt_of_plain (noBlank s.covered), splitAt_of_plain (noBlank s.total)]
  change (do return (← natIn? 10 (toString s.covered).toList, ← natIn? 10 (toString s.total).toList)) = _
  rw [natIn?_toString, natIn?_toString]
  rfl

theorem readIndex?_index (s : CoverageSummary) : readIndex? s.index = some s := by
  have line : s.pieces.find? (·.tag.begins "b") = some ⟨s.totals.toList, .opening "b" [] false⟩ := rfl
  have behind : (s.pieces.dropWhile (·.tag ≠ .closing "tr")).tail =
      (s.files.map (·.pieces)).flatten ++ closingPieces := by
    rw [s.pieces_eq]
    rfl
  rw [readIndex?, readPieces?_index, Option.bind_eq_bind, Option.bind_some, line, Option.bind_eq_bind,
    Option.bind_some, readTotals?_totals, Option.bind_eq_bind, Option.bind_some]
  dsimp only
  rw [behind, readRows?_flatten]
  rfl

end Reading

section Counting

variable {holds : Piece → Bool}

/-- A tag that each row has once. -/
theorem countP_rows (once : ∀ row : FileStats, row.pieces.countP holds = 1) (files : List FileStats) :
    (files.map (·.pieces)).flatten.countP holds = files.length := by
  induction files with
  | nil => rfl
  | cons row files ih =>
      rw [List.map_cons, List.flatten_cons, List.countP_append, once, ih, List.length_cons, Nat.add_comm]

theorem countP_pieces {front : Nat} (once : ∀ row : FileStats, row.pieces.countP holds = 1)
    (s : CoverageSummary) (inFront : s.frontPieces.countP holds = front)
    (first : holds ⟨[], .opening "html" [("data-theme", "vdm")] false⟩ = false)
    (behind : closingPieces.countP holds = 0) : s.pieces.countP holds = s.files.length + front := by
  rw [s.pieces_eq, List.countP_cons, List.countP_append, List.countP_append, countP_rows once, inFront, behind,
    first]
  simp only [Bool.false_eq_true, if_false]
  omega

theorem elementCount_row (s : CoverageSummary) : elementCount "tr" s.index = s.files.length + 1 := by
  rw [elementCount_index]
  exact countP_pieces (fun _ => rfl) s rfl rfl rfl

theorem elementCount_link (s : CoverageSummary) : elementCount "a" s.index = s.files.length := by
  rw [elementCount_index]
  exact countP_pieces (fun _ => rfl) s rfl rfl rfl

end Counting

/-- The tags of a page and the texts between them can be read from it, the summary can be read from those,
and two summaries have the same page exactly where they are the same.  A page has a row and a link for each of
its files, besides the row with the titles of the columns. -/
theorem index_determines_summary :
    (∀ s : CoverageSummary, readPieces? s.index = some s.pieces ∧ readIndex? s.index = some s ∧
      elementCount "tr" s.index = s.files.length + 1 ∧ elementCount "a" s.index = s.files.length) ∧
    ∀ s t : CoverageSummary, s.index = t.index ↔ s = t := by
  refine ⟨fun s => ⟨readPieces?_index s, readIndex?_index s, elementCount_row s, elementCount_link s⟩, ?_⟩
  intro s t
  constructor
  · intro same
    have read := readIndex?_index s
    rw [same, readIndex?_index t] at read
    exact (Option.some.inj read).symm
  · intro same
    rw [same]

end SpecTest.Coverage
