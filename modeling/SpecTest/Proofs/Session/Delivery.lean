import SpecTest.Proofs.Report.Contents
import SpecTest.Proofs.Session.Entries
import SpecTest.Proofs.Session.Survival

/-!
Which documents a directory of reports holds right after those of a run were written.

The suites of a run have names of their own, so each has a document of its own.  What else is there depends
on how the path of the directory leads to it.
-/

namespace SpecTest

open SpecTest.Data SpecTest.Disk SpecTest.Report SpecTest.Task

variable {w w' v v' : World} {file dir : Path} {script : Script} {hostname : String}
  {results : List SuiteResult} {paths : List Path} {files : List (String × String)}

section Names

def junitNames (results : List SuiteResult) : List String := results.map (junitFileName ·.moduleName)

theorem junitFiles_names (made : junitFiles hostname results = .ok files) :
    files.map (·.1) = junitNames results :=
  names_of_named (junitFiles_eq_ok_iff.mp made)

theorem junitFileName_injective : Function.Injective junitFileName := by
  intro first second same
  rw [junitFileName, junitFileName, String.append_left_inj, String.append_right_inj] at same
  exact same

theorem junitNames_nodup (distinct : (results.map (·.moduleName)).Nodup) : (junitNames results).Nodup := by
  have named : junitNames results = (results.map (·.moduleName)).map junitFileName := by
    rw [junitNames, List.map_map]
    rfl
  rw [named]
  exact distinct.map junitFileName_injective

theorem junitFiles_enclosed (made : junitFiles hostname results = .ok files) : ∀ f ∈ files, Enclosed f.1 := by
  refine (forall_named_iff (junitFiles_eq_ok_iff.mp made) fun name _ => Enclosed name).mp fun s _ => ?_
  exact ⟨"TEST-", s.moduleName, ".xml", ⟨by decide, by decide⟩, namesEntries_xml, rfl⟩

end Names

/-- When the documents of suites with names of their own are written, the paths of all are given, and the
directory holds exactly them where it was emptied for them.  In a tree, that of a plain path always is. -/
theorem writeJunit_holdsOnly_iff (distinct : (results.map (·.moduleName)).Nodup)
    (written : (writeJunit dir results hostname).on w = (.ok paths, w')) :
    paths = results.map (fun s => dir.child (junitFileName s.moduleName)) ∧
    ∃ files, junitFiles hostname results = .ok files ∧
      (HoldsOnly w.disk w'.disk dir files ↔ Empties w.disk dir (junitNames results)) ∧
      (w.disk.IsTree → dir.Plain → dir.text ≠ "" → HoldsOnly w.disk w'.disk dir files) := by
  obtain ⟨files, made, rfl, refilled⟩ := writeJunit_on_eq_ok written
  have named := junitFiles_names made
  have holds := refilled.holdsOnly_iff (junitFiles_enclosed made) (named ▸ junitNames_nodup distinct)
  rw [named] at holds
  refine ⟨?_, files, made, holds, fun tree plain nonempty => ?_⟩
  · have placed := congrArg (List.map dir.child) named
    rwa [junitNames, List.map_map, List.map_map] at placed
  · exact holds.mpr (refilled.empties_of_plain tree plain nonempty)

/-- The suites that are found in a transcript have names of their own, a run has one result for each of them
in their order, and when its documents are written, the directory holds exactly one for each of them where
it was emptied. -/
theorem run_delivered_iff (loaded : (Script.load file).on v = (.ok script, v')) (took : Nat → UInt64)
    (selector : Selector) (codes : ViolationCodes) (timestamp : Timestamp) (state : ScriptState) (dir : Path)
    (hostname : String) :
    ((selector.discover script.modules).map (·.moduleName)).Nodup ∧
    ∃ results,
      ((script.interpreter took).run codes timestamp (selector.discover script.modules) state).1 =
        .ok results ∧
      results.map (·.moduleName) = (selector.discover script.modules).map (·.moduleName) ∧
      ∀ w paths w', (writeJunit dir results hostname).on w = (.ok paths, w') →
        paths = results.map (fun s => dir.child (junitFileName s.moduleName)) ∧
        ∃ files, junitFiles hostname results = .ok files ∧
          (HoldsOnly w.disk w'.disk dir files ↔ Empties w.disk dir (junitNames results)) ∧
          (w.disk.IsTree → dir.Plain → dir.text ≠ "" → HoldsOnly w.disk w'.disk dir files) := by
  have distinct := Script.discover_distinct loaded selector
  obtain ⟨results, finished, -⟩ :=
    script.run_tests took codes timestamp (selector.discover script.modules) state
  have named := Interpreter.run_names finished
  rw [← named] at distinct
  refine ⟨named ▸ distinct, results, finished, named, fun w paths w' written => ?_⟩
  exact writeJunit_holdsOnly_iff distinct written

section Samples

def stackScript : Script where
  transcript.modules := [⟨"TestStack", [], [⟨"TestPush", 0, .returned⟩]⟩]
  baseDir := ⟨""⟩

theorem stackScript_loaded :
    (Script.load ⟨"t.json"⟩).on transcriptWorld =
      (.ok stackScript, ((Script.load ⟨"t.json"⟩ : Task (StateM World) Script).on transcriptWorld).2) :=
  on_of_fst (by decide +kernel)

def stackResults : List SuiteResult := [⟨"TestStack", default, [⟨"TestPush", 30, .pass, none⟩]⟩]

def stackDocument : String := junitText ⟨"TestStack", default, [⟨"TestPush", 30, .pass, none⟩]⟩ 30 "host"

theorem stackScript_delivered :
    (((({} : Selector).discover stackScript.modules).map (·.moduleName)).Nodup) ∧
    ((stackScript.interpreter fun _ => 30).run {} default
      (({} : Selector).discover stackScript.modules) {}).1 = .ok stackResults ∧
    ∃ w', (writeJunit ⟨"junit"⟩ stackResults "host").on transcriptWorld =
        (.ok [⟨"junit/TEST-TestStack.xml"⟩], w') ∧
      HoldsOnly transcriptWorld.disk w'.disk ⟨"junit"⟩ [("TEST-TestStack.xml", stackDocument)] := by
  obtain ⟨distinct, results, finished, -, delivered⟩ :=
    run_delivered_iff stackScript_loaded (fun _ => 30) {} {} default {} ⟨"junit"⟩ "host"
  have ran : ((stackScript.interpreter fun _ => 30).run {} default
      (({} : Selector).discover stackScript.modules) {}).1 = .ok stackResults := by decide +kernel
  cases ran.symm.trans finished
  have gives : ((writeJunit ⟨"junit"⟩ stackResults "host").on transcriptWorld).1 =
      .ok [⟨"junit/TEST-TestStack.xml"⟩] := by decide +kernel
  have tree : transcriptWorld.disk.IsTree := isTree_of_entries (by decide)
  obtain ⟨-, files, made, -, holds⟩ := delivered _ _ _ (on_of_fst gives)
  have documents : junitFiles "host" stackResults = .ok [("TEST-TestStack.xml", stackDocument)] := by
    decide +kernel
  cases made.symm.trans documents
  exact ⟨distinct, ran, _, on_of_fst gives, holds tree (by decide) (by decide)⟩

/-- A directory of reports beside one that is missing. -/
def detour : Path := ⟨"build/../reports"⟩

def reportedWorld : World where
  disk.entries := transcriptWorld.disk.entries ++
    [(["reports"], .directory), (["reports", "TEST-TestQueue.xml"], .file "old")]

/-- A document of an earlier run stays where the path of the directory leads through one that is missing. -/
theorem writeJunit_not_holdsOnly :
    ¬ ∀ (file : Path) (script : Script) (took : Nat → UInt64) (selector : Selector)
        (codes : ViolationCodes) (timestamp : Timestamp) (state : ScriptState) (results : List SuiteResult)
        (dir : Path) (hostname : String) (paths : List Path) (v v' w w' : World),
      (Script.load file).on v = (.ok script, v') →
      ((script.interpreter took).run codes timestamp (selector.discover script.modules) state).1 =
        .ok results →
      w.disk.IsTree → (writeJunit dir results hostname).on w = (.ok paths, w') →
      ∃ files, junitFiles hostname results = .ok files ∧ HoldsOnly w.disk w'.disk dir files := by
  intro allHold
  have ran : ((stackScript.interpreter fun _ => 30).run {} default
      (({} : Selector).discover stackScript.modules) {}).1 = .ok stackResults := by decide +kernel
  have gives : ((writeJunit detour stackResults "host").on reportedWorld).1 =
      .ok [⟨"build/../reports/TEST-TestStack.xml"⟩] := by decide +kernel
  obtain ⟨files, made, holds⟩ := allHold _ _ _ _ _ _ _ _ _ _ _ _ _ _ _ stackScript_loaded ran
    (isTree_of_entries (by decide)) (on_of_fst gives)
  have still : ((writeJunit detour stackResults "host").on reportedWorld).2.disk.find?
      ["reports", "TEST-TestQueue.xml"] = some (.file "old") := by decide +kernel
  obtain ⟨f, listed, here, -⟩ := (holds.inside _ (by decide) _).mp still
  have named : f.1 ∈ junitNames stackResults := junitFiles_names made ▸ List.mem_map_of_mem listed
  rw [List.mem_singleton.mp named] at here
  exact absurd here (by decide)

end Samples

end SpecTest
