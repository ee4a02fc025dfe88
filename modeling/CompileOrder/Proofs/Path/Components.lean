import CompileOrder.Path
import CompileOrder.Proofs.Text.Order
import CompileOrder.Proofs.Text.Split

/-!
# The components of a path

A path is compared with another one component by component: a slash or a point that begins it,
and then the names between slashes. The path of an entry has the components of its directory and
the name of the entry, so paths below one directory are in the order of the names that lead to
them.
-/

namespace CompileOrder

/-- A name that an entry of a directory can have. -/
def IsEntryName (name : String) : Prop :=
  name ≠ "" ∧ name ≠ "." ∧ name ≠ ".." ∧ '/' ∉ name.toList

instance : DecidablePred IsEntryName := fun _ => inferInstanceAs (Decidable (_ ∧ _ ∧ _ ∧ _))

namespace Path

/-- The stretches between the slashes of a text. -/
def stretches (cs : List Char) : List String :=
  (Text.splitAt (· == '/') cs).map String.ofList

/-- The components of a path: a slash, a point or a name that begins it, and the names behind
slashes. Repeated slashes, a slash at the end and other single points do not count. -/
def components (path : String) : List String :=
  match stretches path.toList with
  | [] => []
  | first :: rest =>
    (if isAbsolute path then ["/"] else [first].filter fun s => s != "") ++
      rest.filter fun s => s != "" && s != "."

/-- One path stands before another one if its components are smaller, each compared byte by
byte. -/
def Before (p q : String) : Prop :=
  (components p).map Text.encode < (components q).map Text.encode

/-- The path that names lead to from a directory with the given path. -/
def below (path : String) (names : List String) : String := names.foldl join path

theorem stretches_append_slash (cs ds : List Char) :
    stretches (cs ++ '/' :: ds) = stretches cs ++ stretches ds := by
  rw [stretches, Text.splitAt_append_separator (by rfl), List.map_append]
  rfl

theorem stretches_of_notMem {cs : List Char} (h : '/' ∉ cs) :
    stretches cs = [String.ofList cs] := by
  have hnone : ∀ c ∈ cs, (c == '/') = false := by
    intro c hc
    exact beq_eq_false_iff_ne.mpr fun heq => h (heq ▸ hc)
  rw [stretches, Text.splitAt_eq_singleton hnone, List.map_singleton]

theorem stretches_toList {name : String} (h : '/' ∉ name.toList) :
    stretches name.toList = [name] := by
  rw [stretches_of_notMem h, String.ofList_toList]

theorem exists_stretches (cs : List Char) : ∃ first rest, stretches cs = first :: rest := by
  rcases Text.splitAt_cases (· == '/') cs with ⟨-, h⟩ | ⟨first, -, rest, -, -, -, h⟩
  · exact ⟨_, _, by rw [stretches, h, List.map_singleton]⟩
  · exact ⟨_, _, by rw [stretches, h, List.map_cons]⟩

/-- A name is put behind a slash, which is there already or is added. -/
theorem exists_toList_join {path : String} (hpath : path ≠ "") {name : String}
    (hname : IsEntryName name) :
    ∃ body, (join path name).toList = body ++ '/' :: name.toList ∧
      (path.toList = body ∨ path.toList = body ++ ['/']) := by
  obtain ⟨hne, -, -, hslash⟩ := hname
  have hrelative : isAbsolute name = false := by
    rw [isAbsolute, beq_eq_false_iff_ne]
    exact fun hfirst => hslash (List.mem_of_mem_head? hfirst)
  have hempty : path.isEmpty = false := by
    rw [Bool.eq_false_iff]
    exact fun h => hpath (String.isEmpty_iff.mp h)
  rw [join, hrelative, hempty, Bool.or_self, if_neg Bool.false_ne_true]
  by_cases hends : path.toList.getLast? = some '/'
  · obtain ⟨body, hbody⟩ := List.getLast?_eq_some_iff.mp hends
    refine ⟨body, ?_, Or.inr hbody⟩
    rw [if_pos (beq_iff_eq.mpr hends), String.toList_append, hbody, List.append_assoc]
    rfl
  · refine ⟨path.toList, ?_, Or.inl rfl⟩
    rw [if_neg (mt beq_iff_eq.mp hends), String.toList_append, String.toList_append,
      List.append_assoc]
    rfl

theorem join_ne_empty {path : String} (hpath : path ≠ "") {name : String}
    (hname : IsEntryName name) : join path name ≠ "" := by
  obtain ⟨body, hbody, -⟩ := exists_toList_join hpath hname
  rw [ne_eq, ← String.toList_eq_nil_iff, hbody]
  simp

/-- An entry has one more component than its directory. -/
theorem components_join {path : String} (hpath : path ≠ "") {name : String}
    (hname : IsEntryName name) : components (join path name) = components path ++ [name] := by
  obtain ⟨body, hjoin, hbody⟩ := exists_toList_join hpath hname
  obtain ⟨hne, hpoint, -, hslash⟩ := hname
  obtain ⟨first, rest, hfirst⟩ := exists_stretches body
  have habsolute : isAbsolute (join path name) = isAbsolute path := by
    have hnil : path.toList ≠ [] := mt String.toList_eq_nil_iff.mp hpath
    rw [isAbsolute, isAbsolute, hjoin]
    cases body with
    | cons c cs => rcases hbody with hbody | hbody <;> rw [hbody] <;> rfl
    | nil =>
      have hroot : path.toList = ['/'] := hbody.resolve_left hnil
      rw [hroot]
      rfl
  have hkept : ∀ names : List String, (names ++ [name]).filter (fun s => s != "" && s != ".") =
      names.filter (fun s => s != "" && s != ".") ++ [name] := by
    intro names
    rw [List.filter_append]
    simp [hne, hpoint]
  have hempty : ∀ names : List String, (names ++ [""]).filter (fun s => s != "" && s != ".") =
      names.filter fun s => s != "" && s != "." := by
    intro names
    rw [List.filter_append]
    simp
  have hend : stretches [] = [""] := rfl
  rw [components, components, hjoin, stretches_append_slash, hfirst, stretches_toList hslash,
    habsolute]
  rcases hbody with hbody | hbody
  · rw [hbody, hfirst]
    simp only [List.cons_append, hkept, List.append_assoc]
  · rw [hbody, stretches_append_slash, hfirst, hend]
    simp only [List.cons_append, hkept, hempty, List.append_assoc]

section

variable {path : String} {names : List String}

theorem below_ne_empty (hpath : path ≠ "") (hnames : ∀ name ∈ names, IsEntryName name) :
    below path names ≠ "" := by
  induction names generalizing path with
  | nil => exact hpath
  | cons name names ih =>
    obtain ⟨hname, hnames⟩ := List.forall_mem_cons.mp hnames
    exact ih (join_ne_empty hpath hname) hnames

theorem below_append_singleton (path : String) (names : List String) (name : String) :
    below path (names ++ [name]) = join (below path names) name := by
  rw [below, List.foldl_append]
  rfl

/-- The names below a directory follow its own components. -/
theorem components_below (hpath : path ≠ "") (hnames : ∀ name ∈ names, IsEntryName name) :
    components (below path names) = components path ++ names := by
  induction names generalizing path with
  | nil => rw [below, List.foldl_nil, List.append_nil]
  | cons name names ih =>
    obtain ⟨hname, hnames⟩ := List.forall_mem_cons.mp hnames
    have hrest := ih (join_ne_empty hpath hname) hnames
    rw [components_join hpath hname, List.append_assoc] at hrest
    exact hrest

/-- Lists of names are in the order of their bytes. -/
theorem map_encode_lt {names names' : List String} (h : names < names') :
    names.map Text.encode < names'.map Text.encode := by
  induction names' generalizing names with
  | nil => exact absurd h (List.not_lt_nil names)
  | cons name' names' ih =>
    cases names with
    | nil => exact List.nil_lt_cons _ _
    | cons name names =>
      rw [List.map_cons, List.map_cons]
      rcases List.cons_lt_cons_iff.mp h with hlt | ⟨rfl, hrest⟩
      · exact List.cons_lt_cons_iff.mpr (Or.inl (Text.encode_lt_encode hlt))
      · exact List.cons_lt_cons_iff.mpr (Or.inr ⟨rfl, ih hrest⟩)

/-- Paths below one directory are in the order of the names that lead to them. -/
theorem before_below (hpath : path ≠ "") {names' : List String}
    (hnames : ∀ name ∈ names, IsEntryName name) (hnames' : ∀ name ∈ names', IsEntryName name)
    (h : names < names') : Before (below path names) (below path names') := by
  rw [Before, components_below hpath hnames, components_below hpath hnames', List.map_append,
    List.map_append]
  exact List.append_left_lt (map_encode_lt h)

end

/-- The stretch behind the last slash, or the whole path, if it has none. -/
def EndsIn (path name : String) : Prop :=
  '/' ∉ name.toList ∧
    (path.toList = name.toList ∨ ∃ body, path.toList = body ++ '/' :: name.toList)

theorem endsIn_join {path : String} (hpath : path ≠ "") {name : String}
    (hname : IsEntryName name) : EndsIn (join path name) name := by
  obtain ⟨body, hjoin, -⟩ := exists_toList_join hpath hname
  exact ⟨hname.2.2.2, Or.inr ⟨body, hjoin⟩⟩

/-- Every path ends in some stretch. -/
theorem exists_endsIn (path : String) : ∃ name, EndsIn path name := by
  have hsplit : ∀ cs : List Char, ∃ last, '/' ∉ last ∧
      (cs = last ∨ ∃ body, cs = body ++ '/' :: last) := by
    intro cs
    induction cs with
    | nil => exact ⟨[], by simp, Or.inl rfl⟩
    | cons c cs ih =>
      obtain ⟨last, hlast, rfl | ⟨body, rfl⟩⟩ := ih
      · by_cases hc : c = '/'
        · exact ⟨cs, hlast, Or.inr ⟨[], by rw [hc]; rfl⟩⟩
        · exact ⟨c :: cs, by simp [hlast, Ne.symm hc], Or.inl rfl⟩
      · exact ⟨last, hlast, Or.inr ⟨c :: body, rfl⟩⟩
  obtain ⟨last, hlast, hpath⟩ := hsplit path.toList
  refine ⟨String.ofList last, ?_⟩
  rw [EndsIn, String.toList_ofList]
  exact ⟨hlast, hpath⟩

/-- Without its first character a path ends as before, unless it is a single stretch. -/
theorem ends_of_cons {c : Char} {cs : List Char} {name : String} (hne : c :: cs ≠ name.toList)
    (h : c :: cs = name.toList ∨ ∃ body, c :: cs = body ++ '/' :: name.toList) :
    cs = name.toList ∨ ∃ body, cs = body ++ '/' :: name.toList := by
  obtain ⟨body, hbody⟩ := h.resolve_left hne
  cases body with
  | nil => exact Or.inl (List.cons.inj hbody).2
  | cons d body => exact Or.inr ⟨body, (List.cons.inj hbody).2⟩

theorem getLast?_stretches {cs : List Char} {name : String} (hslash : '/' ∉ name.toList)
    (hcs : cs = name.toList ∨ ∃ body, cs = body ++ '/' :: name.toList) :
    (stretches cs).getLast? = some name := by
  rcases hcs with rfl | ⟨body, rfl⟩
  · rw [stretches_toList hslash]
    rfl
  · rw [stretches_append_slash, stretches_toList hslash, List.getLast?_append]
    rfl

/-- The last of the names that a path walks through is the stretch that it ends in. -/
theorem getLast?_names {path name : String} (h : EndsIn path name) (hne : name ≠ "") :
    (names path).getLast? = some name := by
  obtain ⟨body, hbody⟩ := List.getLast?_eq_some_iff.mp (getLast?_stretches h.1 h.2)
  have hnames : names path = (stretches path.toList).filter fun s => s != "" := rfl
  have hkept : [name].filter (fun s => s != "") = [name] := by simp [hne]
  rw [hnames, hbody, List.filter_append, hkept, List.getLast?_concat]

/-- So is the last of the stretches that a file name is looked for in. -/
theorem getLast?_anatomy {path name : String} (h : EndsIn path name) (hpoint : name ≠ ".") :
    (anatomy path).2.getLast? = some name := by
  obtain ⟨hslash, hpath⟩ := h
  rw [anatomy]
  split
  · rename_i cs hcs
    rw [hcs] at hpath
    have hname : '/' :: cs ≠ name.toList := fun heq => hslash (heq ▸ by simp)
    exact getLast?_stretches hslash (ends_of_cons hname hpath)
  · rename_i hcs
    rw [hcs] at hpath
    rcases hpath with hname | ⟨body, hbody⟩
    · have heq : ".".toList = name.toList := hname
      exact absurd (String.toList_inj.mp heq).symm hpoint
    · cases body <;> simp at hbody
  · rename_i cs hcs
    rw [hcs] at hpath
    have hname : '.' :: '/' :: cs ≠ name.toList := fun heq => hslash (heq ▸ by simp)
    exact getLast?_stretches hslash (ends_of_cons hname hpath)
  · exact getLast?_stretches hslash hpath

/-- A name that a path ends in is its file name. -/
theorem fileName?_eq {path name : String} (h : EndsIn path name) (hname : IsEntryName name) :
    fileName? path = some name := by
  obtain ⟨hne, hpoint, habove, -⟩ := hname
  obtain ⟨body, hbody⟩ := List.getLast?_eq_some_iff.mp (getLast?_anatomy h hpoint)
  have htrim : trimStretches (anatomy path).2 = body ++ [name] := by
    rw [hbody, trimStretches, List.reverse_append, List.reverse_singleton, List.singleton_append,
      List.dropWhile_cons_of_neg (by simp [hne, hpoint]), List.reverse_cons, List.reverse_reverse]
  rw [fileName?, htrim, List.getLast?_concat]
  simp [habove]

end Path

end CompileOrder
