import Mathlib.Control.Monad.Basic
import SpecTest.Proofs.Coverage.Cutting
import SpecTest.Proofs.Markup.Preformatted
import SpecTest.Proofs.Text.Digits

/-!
What the page of a file looks like, and what can be read back from it.

The body of a page is the text in pieces, each escaped, with a pair of tags around every piece that a
location covers.  No bracket of the text is left, so that deleting the tags gives the escaped text
whatever the text is.  Undoing the escapes gives the text itself unless it has an escape of its own.
-/

namespace SpecTest.Coverage

open SpecTest.Markup SpecTest.Text

def coveredStyle : String := "background-color: #c4ffc5;"

def uncoveredStyle : String := "background-color: #ff9696;"

/-- The layout of the body of a page: the escaped pieces of the text with the tags of its spans. -/
structure PageLayout (c : FileCoverage) (marks : List Mark) (left body : List Char) : Prop where
  body_eq : body = marks.flatMap (fun m => m.gap.flatMap escapeTag ++ (openTag m.hit).toList ++
    m.body.flatMap escapeTag ++ "</span>".toList) ++ left.flatMap escapeTag
  hits : marks.map (·.hit) = c.hits.toList
  total : marks.length = c.stats.total
  source : marks.flatMap (fun m => m.gap ++ m.body) ++ left = c.text.toList
  /-- Each span holds the text between the byte offsets of its location. -/
  offsets : ∀ before m after, marks = before ++ m :: after →
    byteOffset? c.text.toList m.hit.location.start =
      some (byteSize (before.flatMap (fun m => m.gap ++ m.body) ++ m.gap)) ∧
    byteOffset? c.text.toList m.hit.location.finish =
      some (byteSize (before.flatMap (fun m => m.gap ++ m.body) ++ m.gap ++ m.body))
  disjoint : marks.Pairwise fun a b => ∀ stop start,
    byteOffset? c.text.toList a.hit.location.finish = some stop →
    byteOffset? c.text.toList b.hit.location.start = some start → stop ≤ start
  coveredTag : ∀ m ∈ marks, 0 < m.hit.count → openTag m.hit =
    "<span title=\"Hit " ++ toString m.hit.count.toNat ++ " times\" style=\"" ++ coveredStyle ++ "\">"
  uncoveredTag : ∀ m ∈ marks, m.hit.count = 0 → openTag m.hit =
    "<span style=\"" ++ uncoveredStyle ++ "\">"
  coveredTags : (marks.filter fun m =>
    containsRun coveredStyle.toList (openTag m.hit).toList).length = c.stats.covered
  openTags : ∀ m ∈ marks, IsOpenTag (openTag m.hit).toList
  /-- The brackets of the tags are the only ones: two of each kind for a span. -/
  lessCount : body.count '<' = 2 * c.stats.total
  greaterCount : body.count '>' = 2 * c.stats.total
  pieces : ∀ piece ∈ left :: marks.flatMap (fun m => [m.gap, m.body]),
    '<' ∉ piece.flatMap escapeTag ∧ '>' ∉ piece.flatMap escapeTag
  untagged : dropTags body = c.text.toList.flatMap escapeTag

def pageBody? (page : String) : Option (List Char) := do
  let rest ← dropStart? pageStart.toList page.toList
  if pageEnd.toList.isSuffixOf rest then some (rest.take (rest.length - pageEnd.toList.length))
  else none

/-- The source text that is read back from a page. -/
def pageSource? (page : String) : Option String :=
  (pageBody? page).map fun body => String.ofList (unescapeTags (dropTags body))

section Tags

variable {h : Hit}

theorem openTag_covered (covered : 0 < h.count) : openTag h =
    "<span title=\"Hit " ++ toString h.count.toNat ++ " times\" style=\"" ++ coveredStyle ++ "\">" := by
  have same : " times\" " ++ "style=\"background-color: #c4ffc5;\">" =
      " times\" style=\"" ++ (coveredStyle ++ "\">") := by decide
  rw [openTag, if_pos (by simpa [Hit.isCovered] using covered)]
  simp only [String.append_assoc, same]

theorem openTag_uncovered (uncovered : h.count = 0) :
    openTag h = "<span style=\"" ++ uncoveredStyle ++ "\">" := by
  rw [openTag, if_neg (by simp [Hit.isCovered, uncovered])]
  decide

theorem isOpenTag_openTag (h : Hit) : IsOpenTag (openTag h).toList := by
  by_cases covered : 0 < h.count
  · refine ⟨" title=\"Hit ".toList ++ (toString h.count.toNat).toList ++
      (" times\" style=\"" ++ coveredStyle ++ "\"").toList, ?_, ?_, ?_⟩
    · rw [openTag_covered covered]
      simp [String.toList_append]
    · simp [coveredStyle, not_mem_toDigits (c := '<') (by decide)]
    · simp [coveredStyle, not_mem_toDigits (c := '>') (by decide)]
  · have uncovered : h.count = 0 := by simpa using covered
    rw [openTag_uncovered uncovered]
    exact ⟨" style=\"background-color: #ff9696;\"".toList, by decide, by decide, by decide⟩

/-- Exactly the tags of covered locations have the look of covered text. -/
theorem containsRun_coveredStyle (h : Hit) :
    containsRun coveredStyle.toList (openTag h).toList = h.isCovered := by
  by_cases covered : 0 < h.count
  · have isCovered : h.isCovered = true := by simpa [Hit.isCovered] using covered
    rw [isCovered, containsRun_iff, openTag_covered covered, String.toList_append, String.toList_append]
    exact ⟨_, _, rfl⟩
  · have uncovered : h.count = 0 := by simpa using covered
    have notCovered : h.isCovered = false := by simp [Hit.isCovered, uncovered]
    rw [notCovered, openTag_uncovered uncovered]
    decide

theorem count_of_isOpenTag {tag : List Char} (isTag : IsOpenTag tag) :
    tag.count '<' = 1 ∧ tag.count '>' = 1 := by
  obtain ⟨inside, rfl, noLess, noGreater⟩ := isTag
  simp [List.count_eq_zero_of_not_mem noLess, List.count_eq_zero_of_not_mem noGreater]

end Tags

section Body

variable {marks : List Mark} {left : List Char}

theorem pageBody_cons (m : Mark) : pageBody (m :: marks) left = m.page ++ pageBody marks left := by
  simp only [pageBody, List.flatMap_cons, List.append_assoc]

theorem dropTags_pageBody :
    dropTags (pageBody marks left) = escapeTags (marks.flatMap Mark.source ++ left) := by
  induction marks with
  | nil => exact dropTags_of_plain (less_not_mem_escapeTags left)
  | cons m rest ih =>
      rw [pageBody_cons, Mark.page, closeTag, List.append_assoc, List.append_assoc, List.append_assoc,
        dropTags_append_of_plain (less_not_mem_escapeTags m.gap), dropTags_openTag (isOpenTag_openTag m.hit),
        dropTags_append_of_plain (less_not_mem_escapeTags m.body), dropTags_closeTag, ih]
      simp only [List.flatMap_cons, Mark.source, escapeTags_append, List.append_assoc]

/-- A character that escaping removes is in the body of a page once for each tag with it. -/
theorem count_pageBody {bracket : Char} (escaped : ∀ text, bracket ∉ escapeTags text)
    (opened : ∀ h, (openTag h).toList.count bracket = 1) (closed : closeTag.toList.count bracket = 1) :
    (pageBody marks left).count bracket = 2 * marks.length := by
  induction marks with
  | nil => exact List.count_eq_zero_of_not_mem (escaped left)
  | cons m rest ih =>
      rw [pageBody_cons, List.count_append, ih, Mark.page, List.count_append, List.count_append,
        List.count_append, opened, closed, List.count_eq_zero_of_not_mem (escaped m.gap),
        List.count_eq_zero_of_not_mem (escaped m.body), List.length_cons]
      omega

theorem FileCoverage.page_eq_ok {c : FileCoverage} {html : String} (shown : c.page = .ok html) :
    ∃ marks left, c.marks = .ok (marks, left) ∧
      html = pageStart ++ String.ofList (pageBody marks left) ++ pageEnd := by
  unfold FileCoverage.page at shown
  cases cut : c.marks with
  | error failure => rw [cut] at shown; contradiction
  | ok pieces =>
      obtain ⟨marks, left⟩ := pieces
      rw [cut] at shown
      cases shown
      exact ⟨marks, left, rfl, rfl⟩

theorem pageBody?_frame (body : List Char) :
    pageBody? (pageStart ++ String.ofList body ++ pageEnd) = some body := by
  have whole : (pageStart ++ String.ofList body ++ pageEnd).toList =
      pageStart.toList ++ (body ++ pageEnd.toList) := by
    rw [String.toList_append, String.toList_append, String.toList_ofList, List.append_assoc]
  have start : dropStart? pageStart.toList (pageStart.toList ++ (body ++ pageEnd.toList)) =
      some (body ++ pageEnd.toList) := by
    rw [dropStart?, if_pos (by simp), List.drop_left]
  have stop : pageEnd.toList.isSuffixOf (body ++ pageEnd.toList) = true := by
    rw [List.isSuffixOf_iff_suffix]
    exact List.suffix_append body pageEnd.toList
  simp only [pageBody?, whole, start, Option.bind_eq_bind, Option.bind_some, if_pos stop]
  rw [List.length_append, Nat.add_sub_cancel, List.take_left]

end Body

/-- The body of every page that is shown has the layout of a page. -/
theorem page_has_layout {c : FileCoverage} {html : String} (shown : c.page = .ok html) :
    ∃ marks left body, html = "<html>\n<pre>\n" ++ String.ofList body ++ "\n</pre>\n</html>" ∧
      PageLayout c marks left body := by
  obtain ⟨marks, left, cut, rfl⟩ := FileCoverage.page_eq_ok shown
  have hits : marks.map (·.hit) = c.hits.toList := c.marks_hits cut
  have total : marks.length = c.stats.total := by
    have lengths := congrArg List.length hits
    rwa [List.length_map] at lengths
  have covered : (marks.filter fun m => m.hit.isCovered).length = c.stats.covered := by
    have filtered := congrArg (fun hits => (hits.filter (·.isCovered)).length) hits
    rwa [List.filter_map, List.length_map] at filtered
  refine ⟨marks, left, pageBody marks left, rfl, {
    body_eq := ?_
    hits
    total
    source := c.marks_source cut
    offsets := fun before m after split => c.marks_byteOffsets cut split
    disjoint := c.marks_disjoint cut
    coveredTag := fun m _ => openTag_covered
    uncoveredTag := fun m _ => openTag_uncovered
    coveredTags := by simpa only [containsRun_coveredStyle] using covered
    openTags := fun m _ => isOpenTag_openTag m.hit
    lessCount := ?_
    greaterCount := ?_
    pieces := ?_
    untagged := ?_ }⟩
  · simp only [← escapeTags_eq_flatMap]
    rfl
  · rw [← total]
    exact count_pageBody less_not_mem_escapeTags
      (fun h => (count_of_isOpenTag (isOpenTag_openTag h)).1) (by decide)
  · rw [← total]
    exact count_pageBody greater_not_mem_escapeTags
      (fun h => (count_of_isOpenTag (isOpenTag_openTag h)).2) (by decide)
  · intro piece _
    rw [← escapeTags_eq_flatMap]
    exact ⟨less_not_mem_escapeTags piece, greater_not_mem_escapeTags piece⟩
  · rw [dropTags_pageBody, c.marks_source cut, escapeTags_eq_flatMap]

/-- Two lines with characters of several bytes, where one location spans the line break, one is empty,
and one was never executed. -/
def twoLines : FileCoverage :=
  (FileCoverage.blank ⟨"Stack.vdmsl"⟩ "Stack" "é<ü>\nif x").withHits
    [⟨Location.ofNumbers 2 4 2 5, 0⟩, ⟨Location.ofNumbers 1 2 2 3, 12⟩, ⟨Location.ofNumbers 2 3 2 3, 1⟩]

def twoLinesPage : String :=
  "<html>\n<pre>\né<span title=\"Hit 12 times\" style=\"background-color: #c4ffc5;\">&lt;ü&gt;\nif</span>" ++
  "<span title=\"Hit 1 times\" style=\"background-color: #c4ffc5;\"></span> " ++
  "<span style=\"background-color: #ff9696;\">x</span>\n</pre>\n</html>"

theorem twoLines_page : twoLines.page = .ok twoLinesPage := by decide +kernel

theorem twoLines_layout : twoLines.page = .ok twoLinesPage ∧
    ∃ marks left body, twoLinesPage = "<html>\n<pre>\n" ++ String.ofList body ++ "\n</pre>\n</html>" ∧
      PageLayout twoLines marks left body :=
  ⟨twoLines_page, page_has_layout twoLines_page⟩

/-- From a page one reads back the source with its escapes undone, which is the source itself exactly
if it has no escape. -/
theorem pageSource?_page {c : FileCoverage} {html : String} (shown : c.page = .ok html) :
    pageSource? html = some (String.ofList (unescapeTags c.text.toList)) ∧
      (pageSource? html = some c.text ↔ containsRun "&lt;".toList c.text.toList = false ∧
        containsRun "&gt;".toList c.text.toList = false) := by
  obtain ⟨marks, left, cut, rfl⟩ := FileCoverage.page_eq_ok shown
  have recovered : pageSource? (pageStart ++ String.ofList (pageBody marks left) ++ pageEnd) =
      some (String.ofList (unescapeTags c.text.toList)) := by
    rw [pageSource?, pageBody?_frame, Option.map_some, dropTags_pageBody, c.marks_source cut,
      unescapeTags_escapeTags]
  refine ⟨recovered, ?_⟩
  rw [recovered, Option.some.injEq, ← unescapeTags_eq_self_iff, ← String.toList_inj,
    String.toList_ofList]

theorem pageSource?_twoLines : twoLines.page = .ok twoLinesPage ∧
    pageSource? twoLinesPage = some (String.ofList (unescapeTags twoLines.text.toList)) ∧
      (pageSource? twoLinesPage = some twoLines.text ↔
        containsRun "&lt;".toList twoLines.text.toList = false ∧
          containsRun "&gt;".toList twoLines.text.toList = false) :=
  ⟨twoLines_page, pageSource?_page twoLines_page⟩

/-- A text with an escape of its own is not read back. -/
theorem pageSource?_ne_text :
    ¬ ∀ (c : FileCoverage) (html : String), c.page = .ok html → pageSource? html = some c.text := by
  intro readBack
  have wrong := readBack (FileCoverage.blank ⟨"Stack.vdmsl"⟩ "Stack" "&lt;")
    "<html>\n<pre>\n&lt;\n</pre>\n</html>" (by decide +kernel)
  exact absurd wrong (by decide +kernel)

end SpecTest.Coverage
