import CompileOrder.Proofs.FileGraph.Cycles

/-!
# Agreement of the strategies

Away from cycles the two strategies cannot differ: both give a file the number of files
on the longest chain of users that ends in it. Without cycles they therefore produce the
same build order, and neither reports anything the other does not.
-/

namespace CompileOrder

open CompileOrder.Graph CompileOrder.Levels Relation

/-- Each file of the list is used by the one after it. -/
def ChainOfUsers (files : List SourceFile) (chain : List String) : Prop :=
  chain.IsChain fun a b => DependsOn files b a

/-- No file on a cycle of dependencies is the file or depends on it at any distance. -/
def ClearOfCycles (files : List SourceFile) (name : String) : Prop :=
  ∀ c, ReflTransGen (DependsOn files) c name → ¬ TransGen (DependsOn files) c c

namespace FileGraph

variable {condense : List (List Nat) → List (List Nat)} {g : FileGraph} {s : Strategy}
  {i : Nat} {a : String}

namespace Coherent

variable (h : g.Coherent)
include h

/-- A file clear of cycles stands at a tame position. -/
theorem tame_of_clear (hi : g.nameAt? i = some a) (ha : ClearOfCycles g.files a) :
    Tame g.edges i := by
  intro u hui hcycle
  obtain ⟨x, hux, -⟩ := TransGen.head'_iff.mp hcycle
  obtain ⟨⟨b, hb⟩, -⟩ := h.exists_names hux
  exact ha b ((h.reaches_iff hb hi).mpr hui) ((h.transGen_iff hb hb).mpr hcycle)

/-- A chain of users of positions is one of names. -/
theorem chainOfUsers_of_userChain {users : List Nat} (hi : g.nameAt? i = some a)
    (hchain : UserChain g.edges (i :: users)) :
    ∃ names, ChainOfUsers g.files (a :: names) ∧ names.length = users.length := by
  induction users generalizing i a with
  | nil => exact ⟨[], .singleton a, rfl⟩
  | cons u users ih =>
    obtain ⟨hui, htail⟩ := List.isChain_cons_cons.mp hchain
    obtain ⟨⟨b, hb⟩, -⟩ := h.exists_names hui
    obtain ⟨names, hnames, hlen⟩ := ih hb htail
    have hba : DependsOn g.files b a := (h.dependsOn_iff hb hi).mpr hui
    exact ⟨b :: names, List.isChain_cons_cons.mpr ⟨hba, hnames⟩, by simp [hlen]⟩

/-- A chain of users of names is one of positions. -/
theorem userChain_of_chainOfUsers {names : List String} (hi : g.nameAt? i = some a)
    (hchain : ChainOfUsers g.files (a :: names)) :
    ∃ users, UserChain g.edges (i :: users) ∧ users.length = names.length := by
  induction names generalizing i a with
  | nil => exact ⟨[], .singleton i, rfl⟩
  | cons b names ih =>
    obtain ⟨hba, htail⟩ := List.isChain_cons_cons.mp hchain
    obtain ⟨j, i', hj, hi', hji⟩ := h.dependsOn_iff_exists.mp hba
    obtain ⟨users, husers, hlen⟩ := ih hj htail
    rw [← h.position_unique hi hi'] at hji
    exact ⟨j :: users, List.isChain_cons_cons.mpr ⟨hji, husers⟩, by simp [hlen]⟩

/-- Chains of users have the same lengths under both names. -/
theorem chain_lengths_eq (hi : g.nameAt? i = some a) :
    {n | ∃ names, ChainOfUsers g.files (a :: names) ∧ n = names.length + 1} =
      {n | ∃ users, UserChain g.edges (i :: users) ∧ n = users.length + 1} := by
  ext n
  constructor
  · rintro ⟨names, hnames, rfl⟩
    obtain ⟨users, husers, hlen⟩ := h.userChain_of_chainOfUsers hi hnames
    exact ⟨users, husers, by rw [hlen]⟩
  · rintro ⟨users, husers, rfl⟩
    obtain ⟨names, hnames, hlen⟩ := h.chainOfUsers_of_userChain hi husers
    exact ⟨names, hnames, by rw [hlen]⟩

/-- A file without dependencies and dependents has no edges. -/
theorem edges_iff_links {f : SourceFile} (hf : g.files[i]? = some f) :
    ((∃ w, Edge g.edges i w) ∨ ∃ u, Edge g.edges u i) ↔
      f.dependencies ≠ [] ∨ f.dependents ≠ [] := by
  refine or_congr ⟨?_, fun hne => ?_⟩ ⟨?_, fun hne => ?_⟩
  · rintro ⟨w, hiw⟩
    obtain ⟨-, b, hb⟩ := h.exists_names hiw
    exact List.ne_nil_of_mem ((h.mem_dependencies i f hf b).mpr ⟨w, hiw, hb⟩)
  · obtain ⟨b, hb⟩ := List.exists_mem_of_ne_nil _ hne
    obtain ⟨w, hiw, -⟩ := (h.mem_dependencies i f hf b).mp hb
    exact ⟨w, hiw⟩
  · rintro ⟨u, hui⟩
    obtain ⟨⟨b, hb⟩, -⟩ := h.exists_names hui
    exact List.ne_nil_of_mem ((h.mem_dependents i f hf b).mpr ⟨u, hui, hb⟩)
  · obtain ⟨b, hb⟩ := List.exists_mem_of_ne_nil _ hne
    obtain ⟨u, hui, -⟩ := (h.mem_dependents i f hf b).mp hb
    exact ⟨u, hui⟩

end Coherent

/-- At a tame position both strategies give levels that chains of users witness. -/
theorem levels_witnessed (hc : Condensing condense) (h : g.Coherent) (s : Strategy)
    (hi : Tame g.edges i) : Witnessed g.edges (g.levels condense s) i := by
  cases s with
  | propagate => exact propagate_witnessed h.wellFormed i
  | topological => exact topological_witnessed h.wellFormed (hc g.edges h.wellFormed) hi

/-- At a tame position both strategies give the same level. -/
theorem levels_agree (hc : Condensing condense) (h : g.Coherent) (hi : Tame g.edges i) :
    (g.levels condense .propagate).getD i 0 = (g.levels condense .topological).getD i 0 :=
  (levels_layering hc h .propagate).level_eq (levels_layering hc h .topological) hi
    (levels_witnessed hc h .propagate hi) (levels_witnessed hc h .topological hi)

/-- Without cycles both strategies give all files the same levels. -/
theorem levels_eq (hc : Condensing condense) (h : g.Coherent)
    (hacyclic : ∀ v, ¬ TransGen (Edge g.edges) v v) :
    g.levels condense .propagate = g.levels condense .topological := by
  have hp := (levels_layering hc h .propagate).length_eq
  have ht := (levels_layering hc h .topological).length_eq
  refine List.ext_getElem (hp.trans ht.symm) fun i hi hi' => ?_
  have hlevel := levels_agree hc h (i := i) fun u _ => hacyclic u
  simpa [List.getD_eq_getElem?_getD, hi, hi'] using hlevel

/-- A file clear of cycles has one record in both build orders: its level is zero if it has
no links, else the number of files on the longest chain of users that ends in it. -/
theorem agree_of_clear (hc : Condensing condense) (h : g.Coherent) {f : SourceFile}
    (hf : f ∈ g.sorted condense .propagate)
    (hclear : ClearOfCycles (g.sorted condense .propagate) f.name) :
    f ∈ g.sorted condense .topological ∧
    (f.dependencies = [] ∧ f.dependents = [] → f.level = 0) ∧
    (f.dependencies ≠ [] ∨ f.dependents ≠ [] →
      IsGreatest {n | ∃ users, ChainOfUsers (g.sorted condense .propagate) (f.name :: users) ∧
        n = users.length + 1} f.level) := by
  obtain ⟨i, f₀, hf₀, rfl⟩ := (mem_sorted h f).mp hf
  have hi : g.nameAt? i = some f₀.name := nameAt?_eq hf₀
  simp only [ClearOfCycles, ChainOfUsers, dependsOn_sorted h] at hclear ⊢
  have htame : Tame g.edges i := h.tame_of_clear hi hclear
  have hwitnessed := levels_witnessed hc h .propagate htame
  refine ⟨(mem_sorted h _).mpr ⟨i, f₀, hf₀, ?_⟩, fun hnone => ?_, fun hsome => ?_⟩
  · rw [levels_agree hc h htame]
  · have hlinks : ¬ ((∃ w, Edge g.edges i w) ∨ ∃ u, Edge g.edges u i) := by
      rw [h.edges_iff_links hf₀]
      rintro (hne | hne)
      · exact hne hnone.1
      · exact hne hnone.2
    exact hwitnessed.eq_zero (fun w hw => hlinks (Or.inl ⟨w, hw⟩))
      (fun u hu => hlinks (Or.inr ⟨u, hu⟩))
  · have hlengths := h.chain_lengths_eq hi
    simp only [ChainOfUsers] at hlengths
    rw [hlengths]
    exact (levels_layering hc h .propagate).isGreatest htame hwitnessed
      ((h.edges_iff_links hf₀).mpr hsome)

end FileGraph

/-- A file clear of cycles gets the same level from both strategies: zero if it has no
links, else the number of files on the longest chain of users that ends in it. Without
cycles the strategies give equal build orders and findings. -/
theorem strategies_agree {condense : List (List Nat) → List (List Nat)}
    (hc : Condensing condense) (units : List DesignUnit) (crossLibrary : Bool) :
    let propagated := orderFiles condense units ⟨.propagate, crossLibrary⟩
    let levelled := orderFiles condense units ⟨.topological, crossLibrary⟩
    (∀ f ∈ propagated.1, ClearOfCycles propagated.1 f.name →
      f ∈ levelled.1 ∧
      (f.dependencies = [] ∧ f.dependents = [] → f.level = 0) ∧
      (f.dependencies ≠ [] ∨ f.dependents ≠ [] →
        IsGreatest {n | ∃ users, ChainOfUsers propagated.1 (f.name :: users) ∧
          n = users.length + 1} f.level)) ∧
    ((∀ name, ¬ TransGen (DependsOn propagated.1) name name) → propagated = levelled) := by
  have h := FileGraph.ofUnits_coherent crossLibrary units
  let g := FileGraph.ofUnits crossLibrary units
  refine ⟨fun f hf hclear => FileGraph.agree_of_clear hc h hf hclear, fun hacyclic => ?_⟩
  have hdep : DependsOn (g.sorted condense .propagate) = DependsOn g.files :=
    FileGraph.dependsOn_sorted h
  have hacyclic' : ∀ v, ¬ TransGen (Edge g.edges) v v :=
    h.edges_acyclic fun name hname => hacyclic name (hdep ▸ hname)
  have hlevels := FileGraph.levels_eq hc h hacyclic'
  have hcycles := FileGraph.cycles_eq_nil hc h hacyclic'
  refine Prod.ext ?_ ?_
  · change g.sorted condense .propagate = g.sorted condense .topological
    rw [FileGraph.sorted, FileGraph.levelled, hlevels]
    rfl
  · change g.undefined ++ [] = g.undefined ++ g.cycles condense
    rw [hcycles]

namespace Loop

/-- The files of the units with a loop, levelled by propagation. -/
def propagated : List SourceFile :=
  [{ right with level := 1 }, left, { below with level := 2 }, above, beside]

theorem levelled_propagate :
    (FileGraph.ofUnits false units).levelled Graph.components .propagate = propagated := by
  decide +kernel

/-- The package beside the loop is clear of it: only the entity on top leads there. -/
theorem clearOfCycles_beside : ClearOfCycles propagated beside.name := by
  have hfrom : ∀ f ∈ propagated, beside.name ∈ f.dependencies → f.name = above.name := by decide
  have habove : ∀ f ∈ propagated, above.name ∉ f.dependencies := by decide
  have hbeside : ∀ f ∈ propagated, f.name = beside.name → f.dependencies = [] := by decide
  intro c hc hcycle
  rcases ReflTransGen.cases_tail hc with he | ⟨d, hcd, f, hf, hfd, hdep⟩
  · obtain ⟨x, ⟨f, hf, hfc, hx⟩, -⟩ := TransGen.head'_iff.mp hcycle
    rw [hbeside f hf (hfc.trans he.symm)] at hx
    exact absurd hx List.not_mem_nil
  · rw [← hfd, hfrom f hf hdep] at hcd
    rcases ReflTransGen.cases_tail hcd with he | ⟨e, -, f', hf', -, hdep'⟩
    · obtain ⟨x, -, f', hf', -, hdep'⟩ := TransGen.tail'_iff.mp hcycle
      exact habove f' hf' (he ▸ hdep')
    · exact habove f' hf' hdep'

end Loop

open Loop in
/-- Beside the loop both strategies count the chain of two files. -/
theorem beside_loop_agrees :
    let propagated := orderFiles Graph.components units ⟨.propagate, false⟩
    let levelled := orderFiles Graph.components units ⟨.topological, false⟩
    Condensing Graph.components ∧ ClearOfCycles propagated.1 beside.name ∧
    beside ∈ propagated.1 ∧ beside ∈ levelled.1 ∧
    IsGreatest {n | ∃ users, ChainOfUsers propagated.1 (beside.name :: users) ∧
      n = users.length + 1} 2 := by
  intro files _
  have hmem : ∀ f, f ∈ files.1 ↔ f ∈ propagated := fun f => by
    rw [← levelled_propagate]
    exact List.mem_mergeSort
  have hclear : ClearOfCycles files.1 beside.name := by
    rw [ClearOfCycles, dependsOn_congr hmem]
    exact clearOfCycles_beside
  have hbeside : beside ∈ files.1 := (hmem _).mpr (by decide)
  obtain ⟨hboth, -, hlongest⟩ :=
    (strategies_agree components_condensing units false).1 beside hbeside hclear
  exact ⟨components_condensing, hclear, hbeside, hboth, hlongest (Or.inr (by decide))⟩

end CompileOrder
