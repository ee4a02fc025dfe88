import CompileOrder.Plan
import CompileOrder.Proofs.FileGraph.ClosureOrder

/-!
# The files of a plan

A plan holds the files of the units that are left when the selections have dropped
architectures and the top-level requests have reduced the corpus. A text that is no request
is reported and otherwise ignored, so it restricts nothing: where all texts for top-level
requests are malformed, the whole corpus is ordered as if there were none.
-/

namespace CompileOrder

namespace Analysis

/-- The units that the architecture selections of a project leave. -/
def selected (a : Analysis) (p : Project) : Corpus := (a.corpus.select p.selectionRequests).1

/-- The units whose files are put in order. -/
def levelled (a : Analysis) (p : Project) : Corpus := ((a.selected p).reduce p.topRequests).1

end Analysis

/-- No requests need no unit. -/
theorem Corpus.closure_nil (c : Corpus) : c.closure [] = (⟨[]⟩, []) := by
  have hrun : ∀ visits, Worklist.run c visits {} = {} := by
    intro visits
    cases visits <;> rfl
  simp [closure, needed, hrun]

section

variable (condense : List (List Nat) → List (List Nat))

/-- The files of some units in build order have the names of the files of the units. -/
theorem mem_map_name_orderFiles (units : List DesignUnit) (rules : OrderRules) (name : String) :
    name ∈ (orderFiles condense units rules).1.map (·.name) ↔ name ∈ units.map (·.file) := by
  have hperm := FileGraph.map_name_sorted_perm condense
    (FileGraph.ofUnits_coherent rules.crossLibrary units) rules.strategy
  rw [FileGraph.map_name_ofUnits] at hperm
  exact hperm.mem_iff.trans List.mem_eraseDups

/-- No file stands twice in the build order. -/
theorem nodup_map_name_orderFiles (units : List DesignUnit) (rules : OrderRules) :
    ((orderFiles condense units rules).1.map (·.name)).Nodup :=
  (FileGraph.map_name_sorted_perm condense
    (FileGraph.ofUnits_coherent rules.crossLibrary units) rules.strategy).nodup_iff.mpr
      (FileGraph.ofUnits_coherent rules.crossLibrary units).names_nodup

end

namespace Project

variable {p : Project}

/-- The text is a request in the library it stands in. -/
def isTop (l : Library) (text : String) : Bool := (Request.parse? text l.name).isSome

/-- The project without the texts for top-level requests that are none. -/
def dropMalformedTops (p : Project) : Project :=
  { p with libraries := p.libraries.map fun l => { l with tops := l.tops.filter (isTop l) } }

theorem topRequests_eq_nil_iff :
    p.topRequests = [] ↔ ∀ l ∈ p.libraries, ∀ text ∈ l.tops, isTop l text = false := by
  simp [topRequests, requestsOf, isTop, List.flatMap_eq_nil_iff, List.filterMap_eq_nil_iff]

/-- Malformed texts contribute no request. -/
theorem topRequests_dropMalformedTops : p.dropMalformedTops.topRequests = p.topRequests := by
  have hrequests : ∀ l : Library,
      requestsOf l.name (l.tops.filter (isTop l)) = requestsOf l.name l.tops := by
    intro l
    rw [requestsOf, requestsOf, List.filterMap_filter]
    refine List.filterMap_congr fun text _ => ?_
    cases hparse : Request.parse? text l.name <;> simp [isTop, hparse]
  simp only [topRequests, dropMalformedTops, List.flatMap_map, hrequests]

theorem selectionRequests_dropMalformedTops :
    p.dropMalformedTops.selectionRequests = p.selectionRequests := by
  simp only [selectionRequests, dropMalformedTops, List.flatMap_map]

/-- Every malformed text for a top-level request is reported, in order. -/
theorem rejected_tops_sublist :
    (p.libraries.flatMap fun l => rejectedOf l.name l.tops).Sublist p.rejected := by
  rw [rejected]
  induction p.libraries with
  | nil => exact List.Sublist.slnil
  | cons l ls ih =>
    rw [List.flatMap_cons, List.flatMap_cons]
    exact (List.sublist_append_right _ _).append ih

end Project

/-- There is a plan where all sources can be read. -/
theorem FileTree.plan_eq_ok {condense : List (List Nat) → List (List Nat)} {t : FileTree}
    {p : Project} {plan : Plan} :
    t.plan condense p = .ok plan ↔
      ∃ a, t.analyze p = .ok a ∧ Plan.ofAnalysis condense p a = plan := by
  rw [FileTree.plan]
  cases t.analyze p with
  | error e =>
    constructor
    · intro h
      cases h
    · rintro ⟨_, h, -⟩
      cases h
  | ok a =>
    constructor
    · exact fun h => ⟨a, rfl, Except.ok.inj h⟩
    · rintro ⟨_, ha, rfl⟩
      rw [Except.ok.inj ha]
      rfl

/-- What is read does not depend on the texts for top-level requests. -/
theorem FileTree.analyze_dropMalformedTops (t : FileTree) (p : Project) :
    t.analyze p.dropMalformedTops = t.analyze p := by
  simp only [analyze, Project.dropMalformedTops, List.foldlM_map]

namespace Plan

variable (condense : List (List Nat) → List (List Nat)) (p : Project) (a : Analysis)

/-- The findings of a plan hold the reports of all texts that are no requests. -/
theorem rejected_sublist_diagnostics : p.rejected.Sublist (ofAnalysis condense p a).diagnostics :=
  ((List.sublist_append_right _ _).trans (List.sublist_append_left _ _)).trans
    ((List.sublist_append_left _ _).trans (List.sublist_append_left _ _))

theorem files_ofAnalysis :
    (ofAnalysis condense p a).files = (orderFiles condense (a.levelled p).units p.rules).1 := rfl

theorem mem_files_ofAnalysis (name : String) :
    name ∈ (ofAnalysis condense p a).files.map (·.name) ↔
      name ∈ (a.levelled p).units.map (·.file) :=
  mem_map_name_orderFiles condense _ _ name

theorem files_dropMalformedTops :
    (ofAnalysis condense p.dropMalformedTops a).files = (ofAnalysis condense p a).files := by
  simp only [files_ofAnalysis, Analysis.levelled, Analysis.selected,
    Project.topRequests_dropMalformedTops, Project.selectionRequests_dropMalformedTops]
  rfl

end Plan

/-- A plan holds the files of the closure of the well-formed top-level requests in the corpus
that the selections leave if there is such a request, and else the files of that whole corpus,
although nothing is needed then; each file once. Malformed texts for top-level requests are
reported and change none of the files. -/
theorem plan_files_of_tops (condense : List (List Nat) → List (List Nat)) (t : FileTree)
    (p : Project) (a : Analysis) (h : t.analyze p = .ok a) :
    ∃ plan, t.plan condense p = .ok plan ∧ (plan.files.map (·.name)).Nodup ∧
      ((∃ l ∈ p.libraries, ∃ text ∈ l.tops, Project.isTop l text = true) → ∀ name,
        name ∈ plan.files.map (·.name) ↔
          name ∈ ((a.selected p).closure p.topRequests).1.units.map (·.file)) ∧
      ((∀ l ∈ p.libraries, ∀ text ∈ l.tops, Project.isTop l text = false) →
        ((a.selected p).closure p.topRequests).1.units = [] ∧ ∀ name,
          name ∈ plan.files.map (·.name) ↔ name ∈ (a.selected p).units.map (·.file)) ∧
      (p.libraries.flatMap fun l => rejectedOf l.name l.tops).Sublist plan.diagnostics ∧
      (t.plan condense p.dropMalformedTops).map (·.files) = .ok plan.files := by
  refine ⟨.ofAnalysis condense p a, FileTree.plan_eq_ok.mpr ⟨a, h, rfl⟩,
    nodup_map_name_orderFiles condense _ _, ?_, ?_, ?_, ?_⟩
  · rintro ⟨l, hl, text, htext, htop⟩ name
    have hsome : p.topRequests ≠ [] := fun hnil => by
      rw [Project.topRequests_eq_nil_iff.mp hnil l hl text htext] at htop
      cases htop
    have hlevelled : a.levelled p = ((a.selected p).closure p.topRequests).1 := by
      rw [Analysis.levelled, Corpus.reduce, if_neg (by simpa using hsome)]
    rw [← hlevelled]
    exact Plan.mem_files_ofAnalysis condense p a name
  · intro hnone
    have hnil : p.topRequests = [] := Project.topRequests_eq_nil_iff.mpr hnone
    have hlevelled : a.levelled p = a.selected p := by
      rw [Analysis.levelled, Corpus.reduce, hnil, List.isEmpty_nil, if_pos rfl]
    refine ⟨by rw [hnil, Corpus.closure_nil], fun name => ?_⟩
    rw [← hlevelled]
    exact Plan.mem_files_ofAnalysis condense p a name
  · exact Project.rejected_tops_sublist.trans (Plan.rejected_sublist_diagnostics condense p a)
  · rw [FileTree.plan, FileTree.analyze_dropMalformedTops, h]
    exact congrArg Except.ok (Plan.files_dropMalformedTops condense p a)

namespace Tops

/-- A directory with a package, and an entity with its architecture. -/
def tree : FileTree where
  root := .directory
    [("spare.vhd", .ofBytes (Text.encode "package spare is\nend;\n")),
      ("top.vhd", .ofBytes (Text.encode
        "entity top is\nend;\narchitecture rtl of top is\nend rtl;\n"))]
    .ofDirectory
  workingDirectory := []

/-- A project over both files with these texts for top-level requests. -/
def project (tops : List String) : Project where
  libraries := [{ name := "WORK", paths := ["spare.vhd", "top.vhd"], tops := tops }]

/-- What is read from the files. -/
def found : Analysis where
  corpus := ⟨[{ DesignUnit.declare .package "SPARE" "WORK" "spare.vhd" 1 [] [] with endLine := 2 },
    { DesignUnit.declare .entity "TOP" "WORK" "top.vhd" 1 [] [] with endLine := 2 },
    { DesignUnit.declare (.architecture "RTL" []) "TOP" "WORK" "top.vhd" 3 []
        [⟨"WORK", some "TOP"⟩] with endLine := 4 }]⟩
  diagnostics := []
  fileCount := 2

/-- The same is read whatever the requests are. -/
theorem analyze_project (tops : List String) : tree.analyze (project tops) = .ok found := by
  have hread : tree.analyze (project []) = .ok found := by decide +kernel
  simpa only [FileTree.analyze, project, List.foldlM_cons, List.foldlM_nil] using hread

/-- Beside a malformed text the request restricts the plan to what it needs. -/
theorem restricted_by_top :
    tree.analyze (project ["top", "bad("]) = .ok found ∧
      ∃ plan, tree.plan Graph.components (project ["top", "bad("]) = .ok plan ∧
        (∀ name, name ∈ plan.files.map (·.name) ↔ name ∈ ["top.vhd", "top.vhd"]) ∧
        .malformedRequest "bad(" ∈ plan.diagnostics := by
  have hclosure : ((found.selected (project ["top", "bad("])).closure
      (project ["top", "bad("]).topRequests).1.units.map (·.file) = ["top.vhd", "top.vhd"] := by
    decide +kernel
  have hread := analyze_project ["top", "bad("]
  obtain ⟨plan, hplan, -, hrestricted, -, hreported, -⟩ := plan_files_of_tops _ _ _ _ hread
  refine ⟨hread, plan, hplan, ?_, hreported.subset (by decide +kernel)⟩
  rw [← hclosure]
  exact hrestricted ⟨_, List.mem_singleton_self _, "top", by decide, by decide +kernel⟩

/-- With a malformed text alone the plan holds a file that nothing needs. -/
theorem unrestricted_by_malformed :
    tree.analyze (project ["bad("]) = .ok found ∧
      ∃ plan, tree.plan Graph.components (project ["bad("]) = .ok plan ∧
        "spare.vhd" ∈ plan.files.map (·.name) ∧
        "spare.vhd" ∉ ((found.selected (project ["bad("])).closure
          (project ["bad("]).topRequests).1.units.map (·.file) := by
  have hread := analyze_project ["bad("]
  refine ⟨hread, .ofAnalysis _ (project ["bad("]) found,
    FileTree.plan_eq_ok.mpr ⟨found, hread, rfl⟩, ?_, ?_⟩
  · rw [Plan.mem_files_ofAnalysis]
    decide +kernel
  · decide +kernel

end Tops

end CompileOrder
