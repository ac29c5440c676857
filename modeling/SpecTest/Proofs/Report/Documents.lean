import SpecTest.Proofs.Data.Sums
import SpecTest.Proofs.Markup.Pieces
import SpecTest.Report.Junit

/-!
What a reader finds in the document of a suite: its tags, and the numbers in them.

A suite has a document where the times of its tests add up within a word, and this sum is the time of the suite.
-/

namespace SpecTest

open SpecTest.Data

namespace SuiteResult

def totalMillis (s : SuiteResult) : Nat := sumOf (s.results.map (·.millis.toNat))

theorem millis?_eq_some_iff {s : SuiteResult} {millis : UInt64} :
    s.millis? = some millis ↔ millis.toNat = s.totalMillis := by
  rw [millis?, sumWithin?_eq_some_iff, List.map_map, UInt64.toNat_zero, Nat.zero_add]
  rfl

theorem exists_millis?_iff {s : SuiteResult} :
    (∃ millis, s.millis? = some millis) ↔ s.totalMillis < UInt64.size := by
  simp only [millis?_eq_some_iff]
  constructor
  · intro fits
    obtain ⟨millis, same⟩ := fits
    rw [← same]
    exact millis.toNat_lt_size
  · intro fits
    exact ⟨.ofNat s.totalMillis, UInt64.toNat_ofNat_of_lt' fits⟩

end SuiteResult

namespace Report

open SpecTest.Markup SpecTest.Text

variable {s : SuiteResult} {millis : UInt64} {hostname document : String}

section Making

theorem junit_eq_ok_iff :
    junit s hostname = .ok document ↔
      ∃ millis, s.millis? = some millis ∧ document = junitText s millis hostname := by
  rw [junit]
  cases s.millis? <;> simp [eq_comm]

theorem exists_junit_iff :
    (∃ document, junit s hostname = .ok document) ↔ s.totalMillis < UInt64.size := by
  simp only [junit_eq_ok_iff, ← SuiteResult.exists_millis?_iff]
  constructor
  · intro has
    obtain ⟨_, millis, took, rfl⟩ := has
    exact ⟨millis, took⟩
  · intro fits
    obtain ⟨millis, took⟩ := fits
    exact ⟨_, millis, took, rfl⟩

theorem junit_eq_error_iff {e : Failure} :
    junit s hostname = .error e ↔ UInt64.size ≤ s.totalMillis ∧ e = .timeOverflow := by
  rw [← Nat.not_lt, ← SuiteResult.exists_millis?_iff, junit]
  cases s.millis? <;> simp [eq_comm]

end Making

def suiteAttributes (s : SuiteResult) (millis : UInt64) (hostname : String) : List (String × String) :=
  [("name", s.moduleName), ("tests", toString s.testCount), ("failures", toString (s.count .fail)),
    ("errors", toString (s.count .error)), ("time", secondsText millis),
    ("timestamp", s.timestamp.plainText), ("hostname", hostname)]

def caseAttributes (moduleName : String) (r : TestResult) : List (String × String) :=
  [("name", r.testName), ("classname", moduleName), ("time", secondsText r.millis)]

def problemAttributes (r : TestResult) : List (String × String) := [("message", r.message.getD "")]

def declarationTag : Tag := .instruction "xml version=\"1.0\" encoding=\"UTF-8\"?"

def caseTags (moduleName : String) (r : TestResult) : List Tag :=
  match problemTag? r.verdict with
  | none => [.opening "testcase" (escapeValues (caseAttributes moduleName r)) true]
  | some problem =>
    [.opening "testcase" (escapeValues (caseAttributes moduleName r)) false,
      .opening problem (escapeValues (problemAttributes r)) true, .closing "testcase"]

def suiteTags (s : SuiteResult) (millis : UInt64) (hostname : String) : List Tag :=
  declarationTag :: .opening "testsuite" (escapeValues (suiteAttributes s millis hostname)) s.results.isEmpty ::
    (s.results.flatMap (caseTags s.moduleName) ++
      if s.results.isEmpty then [] else [.closing "testsuite"])

/-- The lines of a result, with its values as they are. -/
def casePieces (moduleName : String) (r : TestResult) : List Piece :=
  match problemTag? r.verdict with
  | none => [.line 2 (.opening "testcase" (caseAttributes moduleName r) true)]
  | some problem =>
    [.line 2 (.opening "testcase" (caseAttributes moduleName r) false),
      .line 4 (.opening problem (problemAttributes r) true), .line 2 (.closing "testcase")]

/-- The lines of a document behind its declaration. -/
def suitePieces (s : SuiteResult) (millis : UInt64) (hostname : String) : List Piece :=
  .line 0 (.opening "testsuite" (suiteAttributes s millis hostname) s.results.isEmpty) ::
    (s.results.flatMap (casePieces s.moduleName) ++
      if s.results.isEmpty then [] else [.line 0 (.closing "testsuite")])

/-- An attribute of the suite that a document is about. -/
def suiteAttribute? (name document : String) : Option String :=
  ((tagsOf document.toList).find? (·.begins "testsuite")).bind (·.attribute? name)

def suiteNumber? (name document : String) : Option Nat :=
  (suiteAttribute? name document).bind fun text => natIn? 10 text.toList

/-- What the suites of documents have in an attribute together, if it is a number in each. -/
def attributeSum? (name : String) (documents : List String) : Option Nat :=
  (documents.mapM (suiteNumber? name)).map sumOf

def elementSum (name : String) (documents : List String) : Nat :=
  sumOf (documents.map (elementCount name))

section Pieces

variable {holds : Piece → Prop} {moduleName : String}

theorem declaration_text : declaration.toList = declarationTag.text ++ ['\n'] := by decide

theorem problemTag?_eq_some_iff {v : Verdict} {problem : String} :
    problemTag? v = some problem ↔ v = .fail ∧ problem = "failure" ∨ v = .error ∧ problem = "error" := by
  cases v <;> simp [problemTag?, eq_comm]

theorem isPass_of_problem {v : Verdict} {problem : String} (marks : problemTag? v = some problem) :
    v.isPass = false := by
  rcases problemTag?_eq_some_iff.mp marks with ⟨rfl, -⟩ | ⟨rfl, -⟩
  · rfl
  · rfl

/-- A result ends the line in front of it and not its own. -/
theorem testCase_pieces (moduleName : String) (r : TestResult) (rest : List Char) :
    '\n' :: ((testCase moduleName r).toList ++ rest) = piecesText (casePieces moduleName r) ++ '\n' :: rest := by
  cases marks : problemTag? r.verdict <;>
    simp [testCase, casePieces, marks, piecesText, Piece.text, Piece.line, Tag.text, tagText, caseAttributes,
      problemAttributes, List.replicate]

theorem testCases_pieces (moduleName : String) (results : List TestResult) (rest : List Char) :
    '\n' :: ((String.join (results.map (testCase moduleName))).toList ++ rest) =
      piecesText (results.flatMap (casePieces moduleName)) ++ '\n' :: rest := by
  induction results with
  | nil => simp [piecesText]
  | cons r results ih =>
      rw [List.map_cons, String.join_cons, String.toList_append, List.append_assoc, testCase_pieces, ih,
        List.flatMap_cons, piecesText_append, List.append_assoc]

theorem junitText_pieces (s : SuiteResult) (millis : UInt64) (hostname : String) :
    (junitText s millis hostname).toList =
      declarationTag.text ++ (piecesText (suitePieces s millis hostname) ++ ['\n']) := by
  have opening : (piecesText (suitePieces s millis hostname) : List Char) = '\n' :: '<' ::
      (tagText "testsuite" (suiteAttributes s millis hostname) s.results.isEmpty ++ '>' ::
        piecesText (s.results.flatMap (casePieces s.moduleName) ++
          if s.results.isEmpty then [] else [.line 0 (.closing "testsuite")])) := by
    rw [suitePieces, piecesText_cons]
    simp [Piece.line, Tag.text]
  rw [opening]
  cases isEmpty : s.results.isEmpty with
  | true =>
      have none : s.results = [] := List.isEmpty_iff.mp isEmpty
      simp [junitText, declaration_text, none, tagText, suiteAttributes, piecesText]
  | false =>
      have cases := testCases_pieces s.moduleName s.results "</testsuite>\n".toList
      have closing : '\n' :: "</testsuite>\n".toList =
          piecesText [.line 0 (.closing "testsuite")] ++ ['\n'] := by decide
      rw [closing] at cases
      simp only [junitText, isEmpty, Bool.false_eq_true, if_false, String.toList_append, declaration_text,
        piecesText_append, List.append_assoc, List.cons_append, tagText, suiteAttributes] at cases ⊢
      rw [← cases]
      simp

theorem forall_casePieces {r : TestResult}
    (outer : ∀ isEmpty, holds (.line 2 (.opening "testcase" (caseAttributes moduleName r) isEmpty)))
    (inner : ∀ problem, problemTag? r.verdict = some problem →
      holds (.line 4 (.opening problem (problemAttributes r) true)))
    (closing : holds (.line 2 (.closing "testcase"))) : ∀ p ∈ casePieces moduleName r, holds p := by
  rw [casePieces]
  cases marks : problemTag? r.verdict with
  | none => exact List.forall_mem_singleton.mpr (outer true)
  | some problem =>
      rw [List.forall_mem_cons, List.forall_mem_cons, List.forall_mem_singleton]
      exact ⟨outer false, inner problem marks, closing⟩

theorem forall_suitePieces
    (outer : ∀ isEmpty, holds (.line 0 (.opening "testsuite" (suiteAttributes s millis hostname) isEmpty)))
    (cases : ∀ r ∈ s.results, ∀ p ∈ casePieces s.moduleName r, holds p)
    (closing : holds (.line 0 (.closing "testsuite"))) : ∀ p ∈ suitePieces s millis hostname, holds p := by
  rw [suitePieces, List.forall_mem_cons, List.forall_mem_append]
  refine ⟨outer _, fun p member => ?_, fun p member => ?_⟩
  · obtain ⟨r, listed, inside⟩ := List.mem_flatMap.mp member
    exact cases r listed p inside
  · split at member
    · contradiction
    · rw [List.mem_singleton.mp member]
      exact closing

theorem suitePieces_lines : ∀ p ∈ suitePieces s millis hostname, ∃ indent tag, p = .line indent tag := by
  refine forall_suitePieces (fun _ => ⟨_, _, rfl⟩) (fun r _ => ?_) ⟨_, _, rfl⟩
  exact forall_casePieces (fun _ => ⟨_, _, rfl⟩) (fun _ _ => ⟨_, _, rfl⟩) ⟨_, _, rfl⟩

theorem suitePieces_named : ∀ p ∈ suitePieces s millis hostname, p.tag.Named := by
  have suite (isEmpty : Bool) : Tag.Named (.opening "testsuite" (suiteAttributes s millis hostname) isEmpty) := by
    change _ ∧ (∀ key ∈ ["name", "tests", "failures", "errors", "time", "timestamp", "hostname"], _) ∧
      List.Nodup ["name", "tests", "failures", "errors", "time", "timestamp", "hostname"]
    decide
  refine forall_suitePieces suite (fun r _ => forall_casePieces (fun isEmpty => ?_) ?_ ?_) ?_
  · change _ ∧ (∀ key ∈ ["name", "classname", "time"], _) ∧ List.Nodup ["name", "classname", "time"]
    decide
  · intro problem marks
    change _ ∧ (∀ key ∈ ["message"], _) ∧ List.Nodup ["message"]
    rcases problemTag?_eq_some_iff.mp marks with ⟨-, rfl⟩ | ⟨-, rfl⟩
    · decide
    · decide
  · decide
  · decide

theorem caseTags_eq (moduleName : String) (r : TestResult) :
    caseTags moduleName r = (casePieces moduleName r).map (·.tag.mapValues escape) := by
  rw [caseTags, casePieces]
  cases problemTag? r.verdict <;> rfl

theorem suiteTags_eq (s : SuiteResult) (millis : UInt64) (hostname : String) :
    suiteTags s millis hostname =
      declarationTag :: (suitePieces s millis hostname).map (·.tag.mapValues escape) := by
  have cases : s.results.flatMap (caseTags s.moduleName) =
      (s.results.flatMap (casePieces s.moduleName)).map (·.tag.mapValues escape) := by
    rw [List.map_flatMap]
    exact congrArg s.results.flatMap (funext fun r => caseTags_eq s.moduleName r)
  rw [suiteTags, suitePieces, cases, List.map_cons, List.map_append]
  cases s.results.isEmpty <;> rfl

/-- The tags of a document that has each tag on a line of its own behind its declaration. -/
theorem tagsOf_document {pieces : List Piece} (lines : ∀ p ∈ pieces, ∃ indent tag, p = .line indent tag)
    (named : ∀ p ∈ pieces, p.tag.Named) :
    tagsOf (declarationTag.text ++ (piecesText pieces ++ ['\n'])) =
      declarationTag :: pieces.map (·.tag.mapValues escape) := by
  have noLess : '<' ∉ "?xml version=\"1.0\" encoding=\"UTF-8\"?".toList := by decide
  have noGreater : '>' ∉ "?xml version=\"1.0\" encoding=\"UTF-8\"?".toList := by decide
  have declared (rest : List Char) : tagsOf (declarationTag.text ++ rest) = declarationTag :: tagsOf rest :=
    tagsOf_tag noLess noGreater rest
  have plain : ∀ p ∈ pieces, '<' ∉ p.before := by
    intro p member
    obtain ⟨indent, tag, rfl⟩ := lines p member
    simp [Piece.line]
  rw [declared, tagsOf_pieces plain named]
  simp [tagsOf]

theorem tagsOf_junitText (s : SuiteResult) (millis : UInt64) (hostname : String) :
    tagsOf (junitText s millis hostname).toList = suiteTags s millis hostname := by
  rw [junitText_pieces, tagsOf_document suitePieces_lines suitePieces_named, suiteTags_eq]

end Pieces

section Numbers

theorem lookup_escapeValues (name : String) (attributes : List (String × String)) :
    (escapeValues attributes).lookup name = (attributes.lookup name).map escape := by
  induction attributes with
  | nil => rfl
  | cons a attributes ih =>
      have next : escapeValues (a :: attributes) = (a.1, escape a.2) :: escapeValues attributes := rfl
      rw [next, List.lookup_cons, List.lookup_cons, ih]
      cases name == a.1 <;> rfl

/-- A number that is an attribute of a suite stands in the document as it is. -/
theorem suiteAttribute?_junit {name : String} {n : Nat} (made : junit s hostname = .ok document)
    (listed : ∀ millis, (suiteAttributes s millis hostname).lookup name = some (toString n)) :
    suiteAttribute? name document = some (toString n) := by
  obtain ⟨millis, -, rfl⟩ := junit_eq_ok_iff.mp made
  have found : (suiteTags s millis hostname).find? (·.begins "testsuite") =
      some (.opening "testsuite" (escapeValues (suiteAttributes s millis hostname)) s.results.isEmpty) := rfl
  rw [suiteAttribute?, tagsOf_junitText, found, Option.bind_some, Tag.attribute?, lookup_escapeValues, listed,
    Option.map_some, escape_toString]

theorem suiteNumber?_of_attribute {name document : String} {n : Nat}
    (written : suiteAttribute? name document = some (toString n)) :
    suiteNumber? name document = some n := by
  rw [suiteNumber?, written, Option.bind_some, natIn?_toString]

/-- An attribute of a suite is written as nought exactly where its number is nought. -/
theorem attribute_eq_zero_iff {name document : String} {n : Nat}
    (written : suiteAttribute? name document = some (toString n)) :
    suiteAttribute? name document = some "0" ↔ n = 0 := by
  have number := suiteNumber?_of_attribute written
  constructor
  · intro zero
    have zero : suiteNumber? name document = some 0 := suiteNumber?_of_attribute zero
    rw [number] at zero
    exact Option.some.inj zero
  · intro zero
    rw [written, zero]
    rfl

/-- What each document tells of its suite, all documents tell of all suites. -/
theorem forall_documents_iff {of : SuiteResult → Prop} {holds : String → Prop} {results : List SuiteResult}
    {documents : List String} (made : documents.map Except.ok = results.map (junit · hostname))
    (tells : ∀ s document, junit s hostname = .ok document → (of s ↔ holds document)) :
    (∀ s ∈ results, of s) ↔ ∀ document ∈ documents, holds document := by
  induction results generalizing documents with
  | nil => simp [List.map_eq_nil_iff.mp made]
  | cons s results ih =>
      obtain ⟨document, others, rfl, first, later⟩ := List.map_eq_cons_iff.mp made
      rw [List.forall_mem_cons, List.forall_mem_cons, tells s document first.symm, ih later]

/-- What each document has in an attribute is added up over all documents. -/
theorem attributeSum?_eq_some {name : String} {f : SuiteResult → Nat} {results : List SuiteResult}
    {documents : List String} (made : documents.map Except.ok = results.map (junit · hostname))
    (written : ∀ s document, junit s hostname = .ok document →
      suiteAttribute? name document = some (toString (f s))) :
    attributeSum? name documents = some (sumOf (results.map f)) := by
  have read : documents.mapM (suiteNumber? name) = some (results.map f) := by
    induction results generalizing documents with
    | nil =>
        rw [List.map_eq_nil_iff.mp made]
        rfl
    | cons s results ih =>
        obtain ⟨document, others, rfl, first, later⟩ := List.map_eq_cons_iff.mp made
        rw [List.map_cons, List.mapM_cons, suiteNumber?_of_attribute (written s document first.symm), ih later]
        rfl
  rw [attributeSum?, read, Option.map_some]

end Numbers

section Elements

/-- Elements that stand once in each of some cases, and in no other place, are as many as these cases. -/
theorem elementCount_junit {name : String} {p : TestResult → Bool} (made : junit s hostname = .ok document)
    (inside : name ≠ "testsuite")
    (each : ∀ r, (caseTags s.moduleName r).countP (·.begins name) = if p r then 1 else 0) :
    elementCount name document = (s.results.filter p).length := by
  obtain ⟨millis, -, rfl⟩ := junit_eq_ok_iff.mp made
  have cases (results : List TestResult) :
      (results.flatMap (caseTags s.moduleName)).countP (·.begins name) = (results.filter p).length := by
    induction results with
    | nil => rfl
    | cons r results ih =>
        rw [List.flatMap_cons, List.countP_append, each, ih, List.filter_cons]
        split
        · rw [List.length_cons, Nat.add_comm]
        · rw [Nat.zero_add]
  have outer : ("testsuite" == name) = false := by simpa using inside.symm
  have ending : (if s.results.isEmpty then [] else [Tag.closing "testsuite"]).countP (·.begins name) = 0 := by
    split <;> rfl
  rw [elementCount, tagsOf_junitText, suiteTags, declarationTag, List.countP_cons, List.countP_cons,
    List.countP_append, cases, ending]
  simp [Tag.begins, outer]

theorem elementCount_testcase (made : junit s hostname = .ok document) :
    elementCount "testcase" document = s.testCount := by
  have each (r : TestResult) : (caseTags s.moduleName r).countP (·.begins "testcase") =
      if true then 1 else 0 := by
    rw [caseTags]
    cases r.verdict <;> rfl
  rw [elementCount_junit made (by decide) each]
  simp [SuiteResult.testCount]

theorem elementCount_problem {v : Verdict} {problem : String} (marks : problemTag? v = some problem)
    (made : junit s hostname = .ok document) : elementCount problem document = s.count v := by
  have inside : problem ≠ "testsuite" := by
    rcases problemTag?_eq_some_iff.mp marks with ⟨-, rfl⟩ | ⟨-, rfl⟩
    · decide
    · decide
  have each (r : TestResult) : (caseTags s.moduleName r).countP (·.begins problem) =
      if r.verdict == v then 1 else 0 := by
    rw [caseTags]
    rcases problemTag?_eq_some_iff.mp marks with ⟨rfl, rfl⟩ | ⟨rfl, rfl⟩
    · cases r.verdict <;> rfl
    · cases r.verdict <;> rfl
  rw [elementCount_junit made inside each, SuiteResult.count]

theorem elementSum_eq {name : String} {f : SuiteResult → Nat} {results : List SuiteResult}
    {documents : List String} (made : documents.map Except.ok = results.map (junit · hostname))
    (each : ∀ s document, junit s hostname = .ok document → elementCount name document = f s) :
    elementSum name documents = sumOf (results.map f) := by
  rw [elementSum]
  induction results generalizing documents with
  | nil => rw [List.map_eq_nil_iff.mp made, List.map_nil, List.map_nil]
  | cons s results ih =>
      obtain ⟨document, others, rfl, first, later⟩ := List.map_eq_cons_iff.mp made
      rw [List.map_cons, List.map_cons, sumOf_cons, sumOf_cons, each s document first.symm, ih later]

end Elements

end Report

end SpecTest
