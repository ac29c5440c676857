import SpecTest.Proofs.Disk.Writing
import SpecTest.Proofs.Host.Tasks
import SpecTest.Report.Files

/-!
What is on the disk after a directory of reports was made anew and files were written into it.
-/

namespace SpecTest.Report

open SpecTest.Data SpecTest.Disk SpecTest.Task

variable {w w' : World} {dir : Path}

theorem createTree_on_eq_ok
    (made : (ofHost (Host.createTree dir) : Task (StateM World) Unit).on w = (.ok (), w')) :
    dir.text = "" ∧ w'.disk = w.disk ∨ Made w.disk w'.disk dir :=
  createTreeFrom_eq_ok (onDisk_run_eq_ok (ofHost_on_eq_ok_iff.mp made))

theorem recreate_on_eq_ok (done : (recreate dir).on w = (.ok (), w')) : Remade w.disk w'.disk dir := by
  rw [recreate, bind_on_eq_ok_iff] at done
  obtain ⟨there, v, look, done⟩ := done
  obtain ⟨found, rfl⟩ := Prod.mk.inj look
  cases there with
  | true =>
      obtain ⟨⟨⟩, middle, removed, made⟩ := bind_on_eq_ok_iff.mp done
      have removed := removeTree_eq_ok (onDisk_run_eq_ok (ofHost_on_eq_ok_iff.mp removed))
      rcases createTree_on_eq_ok made with ⟨blank, -⟩ | made
      · exact absurd removed.isDirectory (not_isDirectory_of_blank blank)
      · exact removed.remade made
  | false =>
      have absent : w.disk.isThere dir = false := by simpa using found
      rcases createTree_on_eq_ok (w := w) done with ⟨blank, same⟩ | made
      · rw [same]
        exact .of_blank blank
      · exact made.remade absent

def placed (dir : Path) (files : List (String × String)) : List (Path × String) :=
  files.map fun f => (dir.child f.1, f.2)

def Refilled (d d' : Disk) (dir : Path) (files : List (String × String)) : Prop :=
  ∃ middle, Remade d middle dir ∧ middle.writeAll (placed dir files) = .ok d'

theorem Refilled.workDir {d d' : Disk} {files : List (String × String)}
    (refilled : Refilled d d' dir files) : d'.workDir = d.workDir := by
  obtain ⟨middle, remade, inOrder⟩ := refilled
  exact (WrittenAll.of_writeAll inOrder).workDir.trans remade.workDir

def RefilledAll (d d' : Disk) : List (Path × List (String × String)) → Prop
  | [] => d' = d
  | (dir, files) :: later => ∃ middle, Refilled d middle dir files ∧ RefilledAll middle d' later

theorem Refilled.isTree {d d' : Disk} {files : List (String × String)}
    (refilled : Refilled d d' dir files) (tree : d.IsTree) : d'.IsTree := by
  obtain ⟨middle, remade, inOrder⟩ := refilled
  exact (WrittenAll.of_writeAll inOrder).isTree (remade.isTree tree)

theorem RefilledAll.single {d d' : Disk} {files : List (String × String)}
    (refilled : Refilled d d' dir files) : RefilledAll d d' [(dir, files)] :=
  ⟨d', refilled, rfl⟩

theorem RefilledAll.append {d middle d' : Disk} {fillings later : List (Path × List (String × String))}
    (first : RefilledAll d middle fillings) (second : RefilledAll middle d' later) :
    RefilledAll d d' (fillings ++ later) := by
  induction fillings generalizing d with
  | nil =>
      cases first
      exact second
  | cons filling fillings ih =>
      obtain ⟨next, refilled, rest⟩ := first
      exact ⟨next, refilled, ih rest⟩

theorem RefilledAll.workDir {d d' : Disk} {fillings : List (Path × List (String × String))}
    (refilled : RefilledAll d d' fillings) : d'.workDir = d.workDir := by
  induction fillings generalizing d with
  | nil => rw [refilled]
  | cons filling fillings ih =>
      obtain ⟨next, first, rest⟩ := refilled
      exact (ih rest).trans first.workDir

theorem RefilledAll.isTree {d d' : Disk} {fillings : List (Path × List (String × String))}
    (refilled : RefilledAll d d' fillings) (tree : d.IsTree) : d'.IsTree := by
  induction fillings generalizing d with
  | nil =>
      cases refilled
      exact tree
  | cons filling fillings ih =>
      obtain ⟨next, first, rest⟩ := refilled
      exact ih rest (first.isTree tree)

theorem Refilled.empty {d d' : Disk} (remade : Remade d d' dir) : Refilled d d' dir [] :=
  ⟨d', remade, rfl⟩

theorem mem_placed {files : List (String × String)} {f : String × String} (member : f ∈ files) :
    (dir.child f.1, f.2) ∈ placed dir files :=
  List.mem_map.mpr ⟨f, member, rfl⟩

theorem Refilled.valid {d d' : Disk} {files : List (String × String)}
    (refilled : Refilled d d' dir files) {f : String × String} (member : f ∈ files) :
    (dir.child f.1).Valid := by
  obtain ⟨middle, -, inOrder⟩ := refilled
  exact (WrittenAll.of_writeAll inOrder).valid _ (mem_placed member)

theorem Refilled.readText_eq_ok_iff {d d' : Disk} {files : List (String × String)}
    (refilled : Refilled d d' dir files) {f : String × String} (member : f ∈ files) {text : String} :
    d'.readText (dir.child f.1) = .ok text ↔
      d'.find? ((dir.child f.1).address d.workDir) = some (.file text) := by
  obtain ⟨middle, remade, inOrder⟩ := refilled
  rw [(WrittenAll.of_writeAll inOrder).readText_eq_ok_iff (mem_placed member), remade.workDir]

theorem Refilled.hasFile {d d' : Disk} {files : List (String × String)}
    (refilled : Refilled d d' dir files) {f : String × String} (member : f ∈ files) :
    d'.HasFile (dir.child f.1) := by
  obtain ⟨middle, remade, inOrder⟩ := refilled
  have all := WrittenAll.of_writeAll inOrder
  obtain ⟨g, -, -, found⟩ := all.atFile _ (mem_placed member)
  exact ⟨g.2, (all.readText_eq_ok_iff (mem_placed member)).mpr found⟩

theorem Refilled.readText_iff {d d' : Disk} {files : List (String × String)}
    (refilled : Refilled d d' dir files) :
    (∀ f ∈ files, d'.readText (dir.child f.1) = .ok f.2) ↔ files.Pairwise fun f g =>
      (dir.child f.1).address d.workDir = (dir.child g.1).address d.workDir → f.2 = g.2 := by
  obtain ⟨middle, remade, inOrder⟩ := refilled
  have reads := readText_writeAll_iff inOrder
  rwa [placed, List.forall_mem_map, List.pairwise_map, remade.workDir] at reads

theorem writeText_on_eq_ok {p : Path} {text : String}
    (written : (ofHost (Host.writeText p text) : Task (StateM World) Unit).on w = (.ok (), w')) :
    w.disk.writeText p text = .ok w'.disk :=
  onDisk?_run_eq_ok (ofHost_on_eq_ok_iff.mp written)

theorem writeFiles_on_eq_ok {files : List (String × String)} {paths : List Path}
    (written : (writeFiles dir files).on w = (.ok paths, w')) :
    paths = files.map (dir.child ·.1) ∧ w.disk.writeAll (placed dir files) = .ok w'.disk := by
  induction files generalizing w paths with
  | nil =>
      cases written
      exact ⟨rfl, rfl⟩
  | cons file files ih =>
      obtain ⟨name, text⟩ := file
      obtain ⟨⟨⟩, v, first, rest⟩ := bind_on_eq_ok_iff.mp written
      obtain ⟨others, v', rest, done⟩ := bind_on_eq_ok_iff.mp rest
      cases done
      obtain ⟨rfl, others⟩ := ih rest
      exact ⟨rfl, writeAll_cons_eq_ok_iff.mpr ⟨v.disk, writeText_on_eq_ok first, others⟩⟩

/-- The documents of the suites with the names of their files.  There are none where one of the suites has
no document. -/
def junitFiles (hostname : String) (results : List SuiteResult) :
    Except Failure (List (String × String)) :=
  results.mapM fun s => return (junitFileName s.moduleName, ← junit s hostname)

theorem junitFiles_eq_ok_iff {hostname : String} {results : List SuiteResult}
    {files : List (String × String)} : junitFiles hostname results = .ok files ↔
      files.map (fun f => (f.1, Except.ok f.2)) =
        results.map fun s => (junitFileName s.moduleName, junit s hostname) :=
  mapM_named_eq_ok_iff

theorem mem_junitFiles {hostname : String} {results : List SuiteResult} {files : List (String × String)}
    {s : SuiteResult} (documents : junitFiles hostname results = .ok files) (member : s ∈ results) :
    ∃ document, junit s hostname = .ok document ∧ (junitFileName s.moduleName, document) ∈ files := by
  have listed : (junitFileName s.moduleName, junit s hostname) ∈
      files.map fun f => (f.1, Except.ok f.2) := by
    rw [junitFiles_eq_ok_iff.mp documents]
    exact List.mem_map_of_mem member
  obtain ⟨f, written, same⟩ := List.mem_map.mp listed
  obtain ⟨name, document⟩ := Prod.mk.inj same
  exact ⟨f.2, document.symm, name ▸ written⟩

theorem writeJunitFrom_on_eq_ok {hostname : String} {results : List SuiteResult} {paths : List Path}
    (written : (writeJunitFrom dir hostname results).on w = (.ok paths, w')) :
    ∃ files, junitFiles hostname results = .ok files ∧ paths = files.map (dir.child ·.1) ∧
      w.disk.writeAll (placed dir files) = .ok w'.disk := by
  induction results generalizing w paths with
  | nil =>
      cases written
      exact ⟨[], rfl, rfl, rfl⟩
  | cons s results ih =>
      obtain ⟨document, v₀, made, rest⟩ := bind_on_eq_ok_iff.mp written
      obtain ⟨has, rfl⟩ := Prod.mk.inj ((on_ofExcept _ _).symm.trans made)
      obtain ⟨⟨⟩, v, first, rest⟩ := bind_on_eq_ok_iff.mp rest
      obtain ⟨⟨⟩, v', logged, rest⟩ := bind_on_eq_ok_iff.mp rest
      obtain ⟨others, v'', rest, done⟩ := bind_on_eq_ok_iff.mp rest
      cases done
      cases logged
      obtain ⟨files, documents, rfl, others⟩ := ih rest
      refine ⟨(junitFileName s.moduleName, document) :: files, ?_, rfl,
        writeAll_cons_eq_ok_iff.mpr ⟨v.disk, writeText_on_eq_ok first, others⟩⟩
      rw [junitFiles_eq_ok_iff, List.map_cons, List.map_cons, junitFiles_eq_ok_iff.mp documents, has]

theorem writeJunit_on_eq_ok {hostname : String} {results : List SuiteResult} {paths : List Path}
    (written : (writeJunit dir results hostname).on w = (.ok paths, w')) :
    ∃ files, junitFiles hostname results = .ok files ∧ paths = files.map (dir.child ·.1) ∧
      Refilled w.disk w'.disk dir files := by
  obtain ⟨⟨⟩, v, remade, written⟩ := bind_on_eq_ok_iff.mp written
  obtain ⟨files, documents, named, written⟩ := writeJunitFrom_on_eq_ok written
  exact ⟨files, documents, named, v.disk, recreate_on_eq_ok remade, written⟩

/-- The descriptors go into their directory, if there is one, and nothing else is touched. -/
theorem writeLaunch_on_eq_ok {place : Option Path} {g : LaunchGeneration} {project : Option String}
    {results : List SuiteResult} {paths : List Path}
    (written : (writeLaunch place g project results).on w = (.ok paths, w')) :
    ∃ launched, RefilledAll w.disk w'.disk launched ∧ launched.map (·.1) = place.toList ∧
      launched.flatMap (·.2) = launchFiles g (project.getD "") results ∧
      paths = launched.flatMap fun l => l.2.map (l.1.child ·.1) := by
  have noneSelected (off : g = .none) (name : String) : [] = launchFiles g name results := by
    simp [off, launchFiles, LaunchGeneration.selected, LaunchGeneration.selects]
  cases place with
  | none =>
      simp only [writeLaunch] at written
      split at written
      · rename_i off
        cases written
        exact ⟨[], rfl, rfl, noneSelected off _, rfl⟩
      · cases written
  | some dir =>
      obtain ⟨⟨⟩, v, remade, written⟩ := bind_on_eq_ok_iff.mp written
      have remade := recreate_on_eq_ok remade
      split at written
      · rename_i off
        cases written
        exact ⟨[(dir, [])], .single (.empty remade), rfl, noneSelected off _, rfl⟩
      · cases project with
        | none => cases written
        | some project =>
            obtain ⟨others, v', first, rest⟩ := bind_on_eq_ok_iff.mp written
            obtain ⟨⟨⟩, v'', logged, done⟩ := bind_on_eq_ok_iff.mp rest
            cases done
            cases logged
            obtain ⟨rfl, inOrder⟩ := writeFiles_on_eq_ok first
            exact ⟨[(dir, launchFiles g project results)], .single ⟨v.disk, remade, inOrder⟩, rfl,
              by simp, by simp⟩

theorem writeLaunch_refilled {g : LaunchGeneration} {project : Option String}
    {results : List SuiteResult} {paths : List Path}
    (written : (writeLaunch (some dir) g project results).on w = (.ok paths, w')) :
    paths = (launchFiles g (project.getD "") results).map (dir.child ·.1) ∧
      Refilled w.disk w'.disk dir (launchFiles g (project.getD "") results) := by
  obtain ⟨launched, refilled, places, files, named⟩ := writeLaunch_on_eq_ok written
  obtain ⟨filling, rfl, sameDir⟩ := List.map_eq_singleton_iff.mp places
  obtain ⟨_, refilled, rfl⟩ := refilled
  rw [List.flatMap_singleton] at files named
  rw [files, sameDir] at refilled named
  exact ⟨named, refilled⟩

theorem launchFiles_named {g : LaunchGeneration} {project : String} {results : List SuiteResult} :
    ∀ f ∈ launchFiles g project results, ∃ stem, f.1 = stem ++ ".launch" := by
  intro f member
  obtain ⟨t, -, rfl⟩ := List.mem_map.mp member
  exact ⟨t.1 ++ "\x60" ++ t.2, rfl⟩

/-- Every selected test gets a descriptor of its own, whatever it is called. -/
theorem writeLaunch_length {place : Option Path} {g : LaunchGeneration} {project : Option String}
    {results : List SuiteResult} {paths : List Path}
    (written : (writeLaunch place g project results).on w = (.ok paths, w')) :
    paths.length = (g.selected results).length := by
  obtain ⟨launched, -, -, files, rfl⟩ := writeLaunch_on_eq_ok written
  have placed : (launched.flatMap fun l => l.2.map (l.1.child ·.1)).length =
      (launched.flatMap (·.2)).length := by
    simp [List.length_flatMap]
  rw [placed, files, launchFiles, List.length_map]

end SpecTest.Report
