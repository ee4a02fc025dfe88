import CompileOrder.FileGraph
import CompileOrder.Proofs.FileGraph.Layering
import CompileOrder.Proofs.Text.Order

/-!
# Links between files

The dependencies recorded in the files of a graph are its edges under other names: no
two files share a name, so walks along recorded dependencies and walks along edges
correspond step by step.
-/

namespace CompileOrder

open CompileOrder.Graph Relation

/-- The file named `a` records a dependency on the file named `b`. -/
def DependsOn (files : List SourceFile) (a b : String) : Prop :=
  ∃ f ∈ files, f.name = a ∧ b ∈ f.dependencies

/-- What files depend on is a matter of which files there are. -/
theorem dependsOn_congr {files files' : List SourceFile} (h : ∀ f, f ∈ files ↔ f ∈ files') :
    DependsOn files = DependsOn files' := by
  funext a b
  simp only [DependsOn, h]

namespace FileGraph

/-- The name of the file at a position. -/
def nameAt? (g : FileGraph) (i : Nat) : Option String := g.files[i]?.map (·.name)

/-- The edges of the graph are the dependencies its files record. -/
structure Coherent (g : FileGraph) : Prop where
  /-- No two files share a name. -/
  names_nodup : (g.files.map (·.name)).Nodup
  /-- Every file has its edges. -/
  length_eq : g.edges.length = g.files.length
  /-- Edges lead to files. -/
  wellFormed : WellFormed g.edges
  /-- The dependencies of a file are the files its edges lead to. -/
  mem_dependencies : ∀ i f, g.files[i]? = some f → ∀ b,
    b ∈ f.dependencies ↔ ∃ j, Edge g.edges i j ∧ g.nameAt? j = some b
  /-- The dependents of a file are the files whose edges lead to it. -/
  mem_dependents : ∀ i f, g.files[i]? = some f → ∀ b,
    b ∈ f.dependents ↔ ∃ j, Edge g.edges j i ∧ g.nameAt? j = some b

@[simp] theorem map_name_gather (crossLibrary : Bool) (units : List DesignUnit) :
    (gather crossLibrary units).map (·.name) = (units.map (·.file)).eraseDups := by
  simp [gather, Function.comp_def, SourceFile.ofUnits]

/-- A file depends on the other files that define a name it uses. -/
theorem mem_dependenciesOf (files : List SourceFile) (f : SourceFile) (i j : Nat) :
    j ∈ dependenciesOf files f i ↔ ∃ h, files[j]? = some h ∧ j ≠ i ∧ f.usesFile h = true := by
  simp only [dependenciesOf, List.mem_map, List.mem_filter, Prod.exists,
    List.mk_mem_zipIdx_iff_getElem?, Bool.and_eq_true, bne_iff_ne, ne_eq]
  constructor
  · rintro ⟨h, k, ⟨hk, hne, huse⟩, rfl⟩
    exact ⟨h, hk, hne, huse⟩
  · rintro ⟨h, hj, hne, huse⟩
    exact ⟨h, j, ⟨hj, hne, huse⟩, rfl⟩

/-- The dependents of a position are the nodes with an edge to it. -/
theorem mem_dependentsOf (edges : List (List Nat)) (i j : Nat) :
    j ∈ dependentsOf edges i ↔ Edge edges j i := by
  simp only [dependentsOf, List.mem_map, List.mem_filter, Prod.exists,
    List.mk_mem_zipIdx_iff_getElem?, List.contains_iff_mem]
  constructor
  · rintro ⟨ws, k, ⟨hk, hi⟩, rfl⟩
    simpa [Edge, successors, List.getD_eq_getElem?_getD, hk] using hi
  · intro hji
    have hj := hji.source_lt
    refine ⟨edges[j], j, ⟨List.getElem?_eq_getElem hj, ?_⟩, rfl⟩
    simpa [Edge, successors, List.getD_eq_getElem?_getD, hj] using hji

/-- The names at some positions are those of the files there. -/
theorem mem_namesAt (files : List SourceFile) (is : List Nat) (b : String) :
    b ∈ namesAt files is ↔ ∃ i ∈ is, files[i]?.map (·.name) = some b := by
  simp [namesAt]

section

variable (crossLibrary : Bool) (units : List DesignUnit)

theorem successors_ofUnits (i : Nat) :
    successors (ofUnits crossLibrary units).edges i =
      ((gather crossLibrary units)[i]?.map fun f =>
        dependenciesOf (gather crossLibrary units) f i).getD [] := by
  simp [successors, ofUnits, List.getD_eq_getElem?_getD, List.getElem?_zipIdx, Function.comp_def]

theorem getElem?_files_ofUnits (i : Nat) :
    (ofUnits crossLibrary units).files[i]? = (gather crossLibrary units)[i]?.map fun f =>
      { f with
        dependencies := namesAt (gather crossLibrary units)
          (successors (ofUnits crossLibrary units).edges i)
        dependents := namesAt (gather crossLibrary units)
          (dependentsOf (ofUnits crossLibrary units).edges i) } := by
  simp [successors, ofUnits, List.getElem?_zipIdx, Function.comp_def]

/-- The files of the graph are the files of the units, each once. -/
@[simp] theorem map_name_ofUnits :
    (ofUnits crossLibrary units).files.map (·.name) = (units.map (·.file)).eraseDups := by
  rw [← map_name_gather crossLibrary units]
  refine List.ext_getElem? fun i => ?_
  rw [List.getElem?_map, getElem?_files_ofUnits, Option.map_map, List.getElem?_map]
  rfl

theorem nameAt?_ofUnits (i : Nat) :
    (ofUnits crossLibrary units).nameAt? i =
      (gather crossLibrary units)[i]?.map (·.name) := by
  simp [nameAt?, getElem?_files_ofUnits, Function.comp_def]

/-- The graph of some units is coherent. -/
theorem ofUnits_coherent : (ofUnits crossLibrary units).Coherent where
  names_nodup := by
    rw [map_name_ofUnits]
    exact Text.nodup_eraseDups _
  length_eq := by simp [ofUnits]
  wellFormed v w hvw := by
    rw [Edge, successors_ofUnits] at hvw
    cases hv : (gather crossLibrary units)[v]? with
    | none => simp [hv] at hvw
    | some f =>
      rw [hv] at hvw
      obtain ⟨h, hw, -⟩ := (mem_dependenciesOf _ f v w).mp hvw
      simpa [ofUnits] using (List.getElem?_eq_some_iff.mp hw).1
  mem_dependencies i f hf b := by
    rw [getElem?_files_ofUnits] at hf
    obtain ⟨f', -, rfl⟩ := Option.map_eq_some_iff.mp hf
    simp only [mem_namesAt, nameAt?_ofUnits]
    rfl
  mem_dependents i f hf b := by
    rw [getElem?_files_ofUnits] at hf
    obtain ⟨f', -, rfl⟩ := Option.map_eq_some_iff.mp hf
    simp only [mem_namesAt, nameAt?_ofUnits, mem_dependentsOf]

end

section

variable {g : FileGraph} {i j : Nat} {a b : String}

theorem nameAt?_eq {f : SourceFile} (hf : g.files[i]? = some f) : g.nameAt? i = some f.name := by
  rw [nameAt?, hf]
  rfl

theorem nameAt?_lt (hi : g.nameAt? i = some a) : i < g.files.length := by
  obtain ⟨f, hf, -⟩ := Option.map_eq_some_iff.mp hi
  exact (List.getElem?_eq_some_iff.mp hf).1

theorem exists_nameAt? (hi : i < g.files.length) : ∃ a, g.nameAt? i = some a :=
  ⟨g.files[i].name, by simp [nameAt?, hi]⟩

theorem exists_nameAt?_iff (g : FileGraph) (a : String) :
    (∃ i, g.nameAt? i = some a) ↔ a ∈ g.files.map (·.name) := by
  simp only [nameAt?, ← List.getElem?_map]
  exact List.mem_iff_getElem?.symm

namespace Coherent

variable (h : g.Coherent)
include h

/-- A name determines its position. -/
theorem position_unique (hi : g.nameAt? i = some a) (hj : g.nameAt? j = some a) : i = j := by
  have hi' : (g.files.map (·.name))[i]? = some a := by rw [List.getElem?_map]; exact hi
  have hj' : (g.files.map (·.name))[j]? = some a := by rw [List.getElem?_map]; exact hj
  obtain ⟨hlt, hia⟩ := List.getElem?_eq_some_iff.mp hi'
  obtain ⟨hlt', hja⟩ := List.getElem?_eq_some_iff.mp hj'
  exact (h.names_nodup.getElem_inj_iff).mp (hia.trans hja.symm)

/-- An edge leads from a file to a file. -/
theorem exists_names (hij : Edge g.edges i j) :
    (∃ a, g.nameAt? i = some a) ∧ ∃ b, g.nameAt? j = some b := by
  have hi := hij.source_lt
  have hj := h.wellFormed i j hij
  rw [h.length_eq] at hi hj
  exact ⟨exists_nameAt? hi, exists_nameAt? hj⟩

/-- Recorded dependencies are edges between the positions of the names. -/
theorem dependsOn_iff_exists :
    DependsOn g.files a b ↔
      ∃ i j, g.nameAt? i = some a ∧ g.nameAt? j = some b ∧ Edge g.edges i j := by
  constructor
  · rintro ⟨f, hf, rfl, hb⟩
    obtain ⟨i, hi⟩ := List.mem_iff_getElem?.mp hf
    obtain ⟨j, hij, hj⟩ := (h.mem_dependencies i f hi b).mp hb
    exact ⟨i, j, nameAt?_eq hi, hj, hij⟩
  · rintro ⟨i, j, hi, hj, hij⟩
    obtain ⟨f, hf, hfa⟩ := Option.map_eq_some_iff.mp hi
    exact ⟨f, List.mem_of_getElem? hf, hfa, (h.mem_dependencies i f hf b).mpr ⟨j, hij, hj⟩⟩

/-- The file at one position depends on the file at another iff there is an edge. -/
theorem dependsOn_iff (hi : g.nameAt? i = some a) (hj : g.nameAt? j = some b) :
    DependsOn g.files a b ↔ Edge g.edges i j := by
  rw [h.dependsOn_iff_exists]
  constructor
  · rintro ⟨i', j', hi', hj', hij⟩
    rw [h.position_unique hi hi', h.position_unique hj hj']
    exact hij
  · exact fun hij => ⟨i, j, hi, hj, hij⟩

/-- Walks along recorded dependencies are walks along edges. -/
theorem reaches_iff (hi : g.nameAt? i = some a) (hj : g.nameAt? j = some b) :
    ReflTransGen (DependsOn g.files) a b ↔ Reaches g.edges i j := by
  constructor
  · intro hab
    induction hab generalizing j with
    | refl => rw [h.position_unique hi hj]
    | @tail c b _ hcb ih =>
      obtain ⟨k, j', hk, hj', hkj⟩ := h.dependsOn_iff_exists.mp hcb
      rw [h.position_unique hj hj']
      exact (ih hk).tail hkj
  · intro hij
    induction hij generalizing b with
    | refl =>
      rw [hi, Option.some.injEq] at hj
      rw [hj]
    | @tail k j _ hkj ih =>
      obtain ⟨⟨c, hc⟩, -⟩ := h.exists_names hkj
      exact (ih hc).tail ((h.dependsOn_iff hc hj).mpr hkj)

/-- Proper walks along recorded dependencies are proper walks along edges. -/
theorem transGen_iff (hi : g.nameAt? i = some a) (hj : g.nameAt? j = some b) :
    TransGen (DependsOn g.files) a b ↔ TransGen (Edge g.edges) i j := by
  simp only [TransGen.head'_iff]
  constructor
  · rintro ⟨c, hac, hcb⟩
    obtain ⟨i', k, hi', hk, hik⟩ := h.dependsOn_iff_exists.mp hac
    rw [h.position_unique hi hi']
    exact ⟨k, hik, (h.reaches_iff hk hj).mp hcb⟩
  · rintro ⟨k, hik, hkj⟩
    obtain ⟨-, c, hc⟩ := h.exists_names hik
    exact ⟨c, (h.dependsOn_iff hi hc).mpr hik, (h.reaches_iff hc hj).mpr hkj⟩

/-- Where no file leads back to itself, no position does. -/
theorem edges_acyclic (hacyclic : ∀ name, ¬ TransGen (DependsOn g.files) name name) (v : Nat) :
    ¬ TransGen (Edge g.edges) v v := by
  intro hv
  obtain ⟨w, hvw, -⟩ := TransGen.head'_iff.mp hv
  obtain ⟨⟨a, ha⟩, -⟩ := h.exists_names hvw
  exact hacyclic a ((h.transGen_iff ha ha).mpr hv)

end Coherent

end

end FileGraph

end CompileOrder
