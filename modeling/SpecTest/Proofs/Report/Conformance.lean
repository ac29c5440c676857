import SpecTest.Proofs.Markup.Xml
import SpecTest.Proofs.Report.Documents
import SpecTest.Report.Launch

/-!
Which reports are well-formed, and which are read with the texts that were written.

Reports hold texts of the specification as they are but for five marks.  A character that no document may have
stays, and so do line breaks and tabs, which a reader takes for blanks.
-/

namespace SpecTest.Report

open SpecTest.Markup SpecTest.Text

variable {s : SuiteResult} {millis : UInt64} {hostname moduleName testName project : String}

/-- The texts of a result that its document has: a test that passed has no message there. -/
def resultTexts (r : TestResult) : List String :=
  r.testName :: if r.verdict.isPass then [] else [r.message.getD ""]

def suiteTexts (s : SuiteResult) (hostname : String) : List String :=
  s.moduleName :: hostname :: s.results.flatMap resultTexts

/-- The elements of a suite that took these milliseconds, with their values as they are. -/
def suiteElements (s : SuiteResult) (millis : UInt64) (hostname : String) : List Tag :=
  (suitePieces s millis hostname).map (·.tag)

section Launching

def stringTag (key value : String) : Tag := .opening "stringAttribute" [("key", key), ("value", value)] true

def booleanTag (key : String) : Tag := .opening "booleanAttribute" [("key", key), ("value", "true")] true

def launchSettings (moduleName testName project : String) : List Tag :=
  [stringTag "vdm_launch_config_default" moduleName, booleanTag "vdm_launch_config_dtc_checks",
    stringTag "vdm_launch_config_expression" (moduleName ++ "\x60" ++ testName ++ "()"),
    stringTag "vdm_launch_config_project" project, stringTag "vdm_launch_config_method" (testName ++ "()"),
    stringTag "vdm_launch_config_module" moduleName, booleanTag "vdm_launch_config_inv_checks",
    booleanTag "vdm_launch_config_pre_checks", booleanTag "vdm_launch_config_post_checks",
    booleanTag "vdm_launch_config_measure_checks"]

/-- The lines of a descriptor behind its declaration. -/
def launchPieces (moduleName testName project : String) : List Piece :=
  .line 0 (.opening "launchConfiguration" [("type", launchType)] false) ::
    ((launchSettings moduleName testName project).map (.line 2) ++
      [.line 0 (.closing "launchConfiguration")])

def launchElements (moduleName testName project : String) : List Tag :=
  (launchPieces moduleName testName project).map (·.tag)

theorem forall_launchPieces {holds : Piece → Prop}
    (outer : holds (.line 0 (.opening "launchConfiguration" [("type", launchType)] false)))
    (settings : ∀ tag ∈ launchSettings moduleName testName project, holds (.line 2 tag))
    (closing : holds (.line 0 (.closing "launchConfiguration"))) :
    ∀ p ∈ launchPieces moduleName testName project, holds p := by
  rw [launchPieces, List.forall_mem_cons, List.forall_mem_append, List.forall_mem_map,
    List.forall_mem_singleton]
  exact ⟨outer, settings, closing⟩

/-- A setting ends the line in front of it and not its own. -/
theorem stringSetting_piece (key value : String) (rest : List Char) :
    '\n' :: ((stringSetting key value).toList ++ rest) =
      (Piece.line 2 (stringTag key value)).text ++ '\n' :: rest := by
  unfold stringSetting
  simp [stringTag, Piece.text, Piece.line, Tag.text, tagText, List.replicate]

theorem booleanSetting_piece (key : String) (rest : List Char) :
    '\n' :: ((booleanSetting key).toList ++ rest) =
      (Piece.line 2 (booleanTag key)).text ++ '\n' :: rest := by
  unfold booleanSetting
  simp [booleanTag, Piece.text, Piece.line, Tag.text, tagText, List.replicate]

theorem launch_pieces (moduleName testName project : String) :
    (launch moduleName testName project).toList =
      Xml.start ++ (piecesText (launchPieces moduleName testName project) ++ ['\n']) := by
  have declared : declaration.toList = Xml.start ++ ['\n'] := by decide
  have opening (rest : List Char) : (Piece.line 0 (.opening "launchConfiguration" [("type", launchType)]
      false)).text ++ '\n' :: rest =
      '\n' :: ("<launchConfiguration".toList ++ ((attr "type" launchType).toList ++ '>' :: '\n' :: rest)) := by
    simp [Piece.text, Piece.line, Tag.text, tagText]
  have closing : '\n' :: "</launchConfiguration>\n".toList =
      (Piece.line 0 (.closing "launchConfiguration")).text ++ ['\n'] := by decide
  have brackets : ">\n".toList = ['>', '\n'] := by decide
  simp only [launchPieces, launchSettings, piecesText, List.map_cons, List.map_nil, List.cons_append,
    List.nil_append, List.flatMap_cons, List.flatMap_nil, List.append_assoc, List.append_nil]
  rw [← closing]
  simp only [← stringSetting_piece, ← booleanSetting_piece, opening]
  unfold launch
  simp only [declared, brackets, String.toList_append, List.append_assoc, List.cons_append,
    List.nil_append]

end Launching

section Nesting

open Xml

theorem start_eq : start = declarationTag.text := by decide

theorem nests_casePieces (moduleName : String) (r : TestResult) (rest : List Piece) :
    nests true ["testsuite"] (casePieces moduleName r ++ rest) = nests true ["testsuite"] rest := by
  rw [casePieces]
  cases problemTag? r.verdict with
  | none => rw [List.singleton_append, nests_opening, if_pos rfl]
  | some problem =>
      rw [List.cons_append, List.cons_append, List.singleton_append, nests_opening,
        if_neg Bool.false_ne_true, nests_opening, if_pos rfl, nests_closing]

theorem nests_suitePieces (s : SuiteResult) (millis : UInt64) (hostname : String) :
    nests false [] (suitePieces s millis hostname) = true := by
  have cases (results : List TestResult) (rest : List Piece) :
      nests true ["testsuite"] (results.flatMap (casePieces s.moduleName) ++ rest) =
        nests true ["testsuite"] rest := by
    induction results with
    | nil => rfl
    | cons r results ih => rw [List.flatMap_cons, List.append_assoc, nests_casePieces, ih]
  rw [suitePieces, nests_root]
  cases isEmpty : s.results.isEmpty with
  | true =>
      rw [List.isEmpty_iff.mp isEmpty]
      rfl
  | false =>
      rw [if_neg Bool.false_ne_true, if_neg Bool.false_ne_true, cases, nests_closing]
      rfl

theorem nests_settings (tags : List Tag) (settings : ∀ tag ∈ tags, ∃ name attributes,
      tag = .opening name attributes true) (rest : List Piece) :
    nests true ["launchConfiguration"] (tags.map (.line 2) ++ rest) =
      nests true ["launchConfiguration"] rest := by
  induction tags with
  | nil => rfl
  | cons tag tags ih =>
      obtain ⟨⟨name, attributes, rfl⟩, others⟩ := List.forall_mem_cons.mp settings
      rw [List.map_cons, List.cons_append, nests_opening, if_pos rfl, ih others]

theorem nests_launchPieces (moduleName testName project : String) :
    nests false [] (launchPieces moduleName testName project) = true := by
  have settings : ∀ tag ∈ launchSettings moduleName testName project, ∃ name attributes,
      tag = .opening name attributes true := by
    simp [launchSettings, stringTag, booleanTag]
  rw [launchPieces, nests_root, if_neg Bool.false_ne_true, nests_settings _ settings, nests_closing]
  rfl

theorem junitText_writtenAs (s : SuiteResult) (millis : UInt64) (hostname : String) :
    WrittenAs (junitText s millis hostname) (suitePieces s millis hostname) where
  text := by rw [junitText_pieces, start_eq]
  lines := suitePieces_lines
  named := suitePieces_named
  nested := nests_suitePieces s millis hostname

theorem launch_writtenAs (moduleName testName project : String) :
    WrittenAs (launch moduleName testName project) (launchPieces moduleName testName project) where
  text := launch_pieces moduleName testName project
  lines := forall_launchPieces ⟨_, _, rfl⟩ (fun _ _ => ⟨_, _, rfl⟩) ⟨_, _, rfl⟩
  named := by
    have string (key value : String) : (stringTag key value).Named := by
      change _ ∧ (∀ key ∈ ["key", "value"], _) ∧ List.Nodup ["key", "value"]
      decide
    have boolean (key : String) : (booleanTag key).Named := by
      change _ ∧ (∀ key ∈ ["key", "value"], _) ∧ List.Nodup ["key", "value"]
      decide
    refine forall_launchPieces (by decide) ?_ (by decide)
    simp [launchSettings, Piece.line, string, boolean]
  nested := nests_launchPieces moduleName testName project

end Nesting

section Texts

variable {holds : Char → Prop}

def Each (holds : Char → Prop) (text : String) : Prop := ∀ c ∈ text.toList, holds c

theorem each_append_iff {text behind : String} :
    Each holds (text ++ behind) ↔ Each holds text ∧ Each holds behind := by
  rw [Each, String.toList_append, List.forall_mem_append]
  rfl

variable (printable : ∀ c : Char, ' ' ≤ c → c ≤ '~' → holds c)

include printable

theorem each_of_printable {text : String}
    (all : text.toList.all (fun c => decide (' ' ≤ c) && decide (c ≤ '~')) = true) : Each holds text := by
  intro c member
  have bounds := List.all_eq_true.mp all c member
  rw [Bool.and_eq_true, decide_eq_true_eq, decide_eq_true_eq] at bounds
  exact printable c bounds.1 bounds.2

theorem each_of_digits {text : String} (digits : ∀ c ∈ text.toList, c.isDigit) : Each holds text := by
  intro c member
  have bounds := digits c member
  simp only [Char.isDigit, Bool.and_eq_true, decide_eq_true_eq] at bounds
  have lower : '0' ≤ c := bounds.1
  have upper : c ≤ '9' := bounds.2
  exact printable c (Char.le_trans (by decide) lower) (Char.le_trans upper (by decide))

theorem each_toString (n : Nat) : Each holds (toString n) := by
  apply each_of_digits printable
  rw [Nat.toString_eq_repr, Nat.toList_repr]
  exact isDigit_of_mem_toDigits n

theorem each_padded (width n : Nat) : Each holds (padded width n) :=
  each_of_digits printable fun _ => isDigit_of_mem_padded

theorem each_secondsText (millis : UInt64) : Each holds (secondsText millis) := by
  rw [secondsText, each_append_iff, each_append_iff]
  exact ⟨⟨each_toString printable _, each_of_printable printable (by decide)⟩, each_padded printable _ _⟩

theorem each_yearText (year : Int) : Each holds (Timestamp.yearText year) := by
  rw [Timestamp.yearText]
  split
  · exact each_padded printable _ _
  · rw [each_append_iff]
    refine ⟨?_, each_padded printable _ _⟩
    split
    · exact each_of_printable printable (by decide)
    · exact each_of_printable printable (by decide)

theorem each_plainText (t : Timestamp) : Each holds t.plainText := by
  have dash : Each holds "-" := each_of_printable printable (by decide)
  have colon : Each holds ":" := each_of_printable printable (by decide)
  have blank : Each holds " " := each_of_printable printable (by decide)
  simp only [Timestamp.plainText, Timestamp.dateText, Timestamp.timeText, each_append_iff]
  simp only [each_yearText printable, each_padded printable, dash, colon, blank, and_self]

theorem each_caseValues_iff (moduleName : String) (r : TestResult) (module : Each holds moduleName) :
    (∀ value ∈ Xml.piecesValues (casePieces moduleName r), Each holds value) ↔
      ∀ text ∈ resultTexts r, Each holds text := by
  have time := each_secondsText printable r.millis
  rw [casePieces, resultTexts]
  cases verdict : r.verdict <;>
    simp [Xml.piecesValues, problemTag?, Piece.line, Tag.values, caseAttributes, problemAttributes,
      Verdict.isPass, time, module]

theorem each_suiteValues_iff (s : SuiteResult) (millis : UInt64) (hostname : String) :
    (∀ value ∈ Xml.piecesValues (suitePieces s millis hostname), Each holds value) ↔
      ∀ text ∈ suiteTexts s hostname, Each holds text := by
  have number := each_toString printable
  have time := each_secondsText printable millis
  have timestamp := each_plainText printable s.timestamp
  have ending : Xml.piecesValues (if s.results.isEmpty then [] else [.line 0 (.closing "testsuite")]) = [] := by
    split <;> rfl
  have cases : Xml.piecesValues (s.results.flatMap (casePieces s.moduleName)) =
      s.results.flatMap fun r => Xml.piecesValues (casePieces s.moduleName r) := List.flatMap_assoc
  have own : (∀ value ∈ (suiteAttributes s millis hostname).map (·.2), Each holds value) ↔
      Each holds s.moduleName ∧ Each holds hostname := by
    simp only [suiteAttributes, List.map_cons, List.map_nil, List.forall_mem_cons, number, time, timestamp,
      List.not_mem_nil, false_implies, implies_true, true_and, and_true]
  rw [suitePieces, Xml.piecesValues_cons, Xml.piecesValues_append, ending, List.append_nil, cases,
    List.forall_mem_append, List.forall_mem_flatMap, suiteTexts, List.forall_mem_cons, List.forall_mem_cons,
    List.forall_mem_flatMap, ← and_assoc]
  refine (and_congr_left' own).trans (and_congr_right fun both => forall₂_congr fun r _ => ?_)
  exact each_caseValues_iff printable s.moduleName r both.1

theorem each_launchValues_iff (moduleName testName project : String) :
    (∀ value ∈ Xml.piecesValues (launchPieces moduleName testName project), Each holds value) ↔
      ∀ text ∈ [moduleName, testName, project], Each holds text := by
  have written (moduleName testName project : String) :
      Xml.piecesValues (launchPieces moduleName testName project) =
        launchType :: (launchSettings moduleName testName project).flatMap (·.values) := by
    rw [launchPieces, Xml.piecesValues_cons, Xml.piecesValues_append, Xml.piecesValues, List.flatMap_map]
    simp [Xml.piecesValues, Piece.line, Tag.values]
  -- What a descriptor has besides the three texts is what it has where these are empty.
  have fixed : ∀ value ∈ Xml.piecesValues (launchPieces "" "" ""), Each holds value := by
    intro value listed
    apply each_of_printable printable
    revert value
    decide
  simp only [written, launchSettings, stringTag, booleanTag, Tag.values, List.flatMap_cons, List.flatMap_nil,
    List.map_cons, List.map_nil, List.cons_append, List.nil_append, List.forall_mem_cons, List.not_mem_nil,
    false_implies, implies_true, and_true, each_append_iff] at fixed ⊢
  simp only [fixed, true_and, and_true]
  constructor
  · rintro ⟨module, ⟨-, test⟩, project, -⟩
    exact ⟨module, test, project⟩
  · rintro ⟨module, test, project⟩
    exact ⟨module, ⟨module, test⟩, project, test, module⟩

end Texts

theorem isLegal_of_printable {c : Char} (lower : ' ' ≤ c) (upper : c ≤ '~') : isLegal c := by
  have lower : 32 ≤ c.toNat := lower
  have upper : c.toNat ≤ 126 := upper
  rw [isLegal_iff]
  omega

theorem not_isBreak_of_printable {c : Char} (lower : ' ' ≤ c) : ¬ IsBreak c := by
  rintro (rfl | rfl | rfl)
  · exact absurd lower (by decide)
  · exact absurd lower (by decide)
  · exact absurd lower (by decide)

/-- A document in which all but some texts is fixed and printable depends on these texts alone. -/
theorem reads_iff {document : String} {pieces : List Piece} {texts : List String}
    (written : Xml.WrittenAs document pieces)
    (values_iff : ∀ holds : Char → Prop, (∀ c : Char, ' ' ≤ c → c ≤ '~' → holds c) →
      ((∀ value ∈ Xml.piecesValues pieces, Each holds value) ↔ ∀ text ∈ texts, Each holds text)) :
    ((Xml.read? document).isSome ↔ ∀ text ∈ texts, IsLegal text) ∧
      (Xml.read? document = some (pieces.map (·.tag)) ↔ ∀ text ∈ texts, IsLegal text ∧ Unbroken text) := by
  have both (text : String) : IsLegal text ∧ Unbroken text ↔ Each (fun c => isLegal c ∧ ¬ IsBreak c) text := by
    simp only [IsLegal, Unbroken, Each, forall_and]
  constructor
  · rw [written.isSome_read?_iff]
    exact values_iff (fun c => isLegal c) fun _ => isLegal_of_printable
  · rw [written.read?_eq_some_iff]
    simp only [both]
    exact values_iff _ fun _ lower upper =>
      ⟨isLegal_of_printable lower upper, not_isBreak_of_printable lower⟩

/-- Documents and descriptors are well-formed exactly where the texts that they are made of are legal, and
are read with the values that were written exactly where these have neither line breaks nor tabs either. -/
theorem documents_read_iff (s : SuiteResult) (hostname moduleName testName project : String) :
    (s.totalMillis < UInt64.size → ∃ document millis,
      junit s hostname = .ok document ∧ s.millis? = some millis ∧
      ((Xml.read? document).isSome ↔ ∀ text ∈ suiteTexts s hostname, IsLegal text) ∧
      (Xml.read? document = some (suiteElements s millis hostname) ↔
        ∀ text ∈ suiteTexts s hostname, IsLegal text ∧ Unbroken text)) ∧
    (((Xml.read? (launch moduleName testName project)).isSome ↔
        ∀ text ∈ [moduleName, testName, project], IsLegal text) ∧
      (Xml.read? (launch moduleName testName project) = some (launchElements moduleName testName project) ↔
        ∀ text ∈ [moduleName, testName, project], IsLegal text ∧ Unbroken text)) := by
  constructor
  · intro fits
    obtain ⟨document, made⟩ := exists_junit_iff.mpr fits
    obtain ⟨millis, took, rfl⟩ := junit_eq_ok_iff.mp made
    refine ⟨_, millis, made, took, ?_⟩
    apply reads_iff (junitText_writtenAs s millis hostname)
    intro holds printable
    exact each_suiteValues_iff printable s millis hostname
  · apply reads_iff (launch_writtenAs moduleName testName project)
    intro holds printable
    exact each_launchValues_iff printable moduleName testName project

section Samples

def emptyStack : SuiteResult :=
  ⟨"TestStack", ⟨2024, 3, 1, 9, 5, 7, 0⟩, [⟨"TestPop", 30, .error, some "pre_Pop\nstack is empty"⟩]⟩

theorem documents_read_iff_emptyStack :
    (emptyStack.totalMillis < UInt64.size ∧ ∃ document millis,
      junit emptyStack "h" = .ok document ∧ emptyStack.millis? = some millis ∧
      ((Xml.read? document).isSome ↔ ∀ text ∈ suiteTexts emptyStack "h", IsLegal text) ∧
      (Xml.read? document = some (suiteElements emptyStack millis "h") ↔
        ∀ text ∈ suiteTexts emptyStack "h", IsLegal text ∧ Unbroken text)) ∧
    (((Xml.read? (launch "TestStack" "TestPop" "stack")).isSome ↔
        ∀ text ∈ ["TestStack", "TestPop", "stack"], IsLegal text) ∧
      (Xml.read? (launch "TestStack" "TestPop" "stack") = some (launchElements "TestStack" "TestPop" "stack") ↔
        ∀ text ∈ ["TestStack", "TestPop", "stack"], IsLegal text ∧ Unbroken text)) := by
  have fits : emptyStack.totalMillis < UInt64.size := by decide
  obtain ⟨suite, descriptor⟩ := documents_read_iff emptyStack "h" "TestStack" "TestPop" "stack"
  exact ⟨⟨fits, suite fits⟩, descriptor⟩

/-- A message of two lines is not read as it was. -/
theorem junit_not_read : ∃ document, junit emptyStack "h" = .ok document ∧ emptyStack.millis? = some 30 ∧
    Xml.read? document ≠ some (suiteElements emptyStack 30 "h") := by
  refine ⟨junitText emptyStack 30 "h", rfl, rfl, fun read => ?_⟩
  have kept := (junitText_writtenAs emptyStack 30 "h").read?_eq_some_iff.mp read
  have message : "pre_Pop\nstack is empty" ∈ Xml.piecesValues (suitePieces emptyStack 30 "h") := by decide
  exact (kept _ message).2 '\n' (by decide) (.inr (.inl rfl))

end Samples

end SpecTest.Report
