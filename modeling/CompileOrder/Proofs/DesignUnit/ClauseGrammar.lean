import CompileOrder.DesignUnit.Clause
import CompileOrder.Proofs.Text.Split

/-!
# The grammar of context clauses

A clause is its reserved word, items divided by commas, and a semicolon. Items are
identifiers in a library clause and selected names in a use clause. No item holds a comma or
a semicolon, so the first semicolon ends the clause and the commas before it divide the
items: reading a clause accepts exactly what the grammar does, and takes exactly its tokens.
-/

namespace CompileOrder.Clause

/-- The tokens are items, each with a comma or, behind the last, a semicolon. -/
inductive Listed {α : Type} (Item : α → List Token → Prop) : List α → List Token → Prop
  | last {a : α} {item : List Token} {semicolon : Token} (hitem : Item a item)
    (hsemicolon : semicolon.symbol = .delimiter ';') : Listed Item [a] (item ++ [semicolon])
  | more {a : α} {as : List α} {item ts : List Token} {comma : Token} (hitem : Item a item)
    (hcomma : comma.symbol = .delimiter ',') (hmore : Listed Item as ts) :
    Listed Item (a :: as) (item ++ comma :: ts)

/-- The tokens are one identifier, the name of a library. -/
inductive IsLibraryName : String → List Token → Prop
  | identifier {t : Token} (ht : t.symbol = .identifier) : IsLibraryName (Text.upper t.text) [t]

/-- The tokens are a selected name, which makes a library or one of its units visible. -/
inductive IsSelectedName : UseClause → List Token → Prop
  /-- `lib.all` -/
  | library {lib point word : Token} (hlib : lib.symbol = .identifier)
    (hpoint : point.symbol = .delimiter '.') (hword : word.symbol = .keyword .ALL) :
    IsSelectedName ⟨Text.upper lib.text, none⟩ [lib, point, word]
  /-- `lib.unit` -/
  | unit {lib point name : Token} (hlib : lib.symbol = .identifier)
    (hpoint : point.symbol = .delimiter '.') (hname : name.symbol = .identifier) :
    IsSelectedName ⟨Text.upper lib.text, some (Text.upper name.text)⟩ [lib, point, name]
  /-- `lib.unit.item` -/
  | item {lib point name point' inner : Token} (hlib : lib.symbol = .identifier)
    (hpoint : point.symbol = .delimiter '.') (hname : name.symbol = .identifier)
    (hpoint' : point'.symbol = .delimiter '.') (hinner : inner.symbol = .identifier) :
    IsSelectedName ⟨Text.upper lib.text, some (Text.upper name.text)⟩
      [lib, point, name, point', inner]
  /-- `lib.unit.all` -/
  | everything {lib point name point' word : Token} (hlib : lib.symbol = .identifier)
    (hpoint : point.symbol = .delimiter '.') (hname : name.symbol = .identifier)
    (hpoint' : point'.symbol = .delimiter '.') (hword : word.symbol = .keyword .ALL) :
    IsSelectedName ⟨Text.upper lib.text, some (Text.upper name.text)⟩
      [lib, point, name, point', word]

/-- The tokens of a clause and what it makes visible. -/
inductive Spells : Clause → List Token → Prop
  /-- `library a, b;` -/
  | library {word : Token} {ts : List Token} {names : List String}
    (hword : word.symbol = .keyword .LIBRARY) (hnames : Listed IsLibraryName names ts) :
    Spells (.library names) (word :: ts)
  /-- `use a.b.all, c.d;` -/
  | use {word : Token} {ts : List Token} {clauses : List UseClause}
    (hword : word.symbol = .keyword .USE) (hclauses : Listed IsSelectedName clauses ts) :
    Spells (.use clauses) (word :: ts)

/-- A library name is read exactly from one identifier. -/
theorem libraryName?_eq_some_iff {item : List Token} {name : String} :
    libraryName? item = some name ↔ IsLibraryName name item := by
  constructor
  · intro h
    match item, h with
    | [t], h =>
      simp only [libraryName?, Option.ite_none_right_eq_some, Option.some.injEq] at h
      obtain ⟨ht, rfl⟩ := h
      exact .identifier (beq_iff_eq.mp ht)
  · rintro ⟨ht⟩
    simp [libraryName?, Token.isIdentifier, Token.name, ht]

/-- A use is read exactly from a selected name. -/
theorem selectedName?_eq_some_iff {item : List Token} {c : UseClause} :
    selectedName? item = some c ↔ IsSelectedName c item := by
  constructor
  · intro h
    match item, h with
    | [lib, point, suffix], h =>
      simp only [selectedName?, Option.ite_none_right_eq_some, Bool.and_eq_true,
        Option.some.injEq] at h
      obtain ⟨⟨⟨hlib, hpoint⟩, hsuffix⟩, rfl⟩ := h
      rcases Bool.or_eq_true_iff.mp hsuffix with hname | hword
      · rw [if_pos hname]
        exact .unit (beq_iff_eq.mp hlib) (beq_iff_eq.mp hpoint) (beq_iff_eq.mp hname)
      · have hsymbol : suffix.symbol = .keyword .ALL := beq_iff_eq.mp hword
        rw [if_neg (by simp [Token.isIdentifier, hsymbol])]
        exact .library (beq_iff_eq.mp hlib) (beq_iff_eq.mp hpoint) hsymbol
    | [lib, point, name, point', suffix], h =>
      simp only [selectedName?, Option.ite_none_right_eq_some, Bool.and_eq_true,
        Option.some.injEq] at h
      obtain ⟨⟨⟨⟨⟨hlib, hpoint⟩, hname⟩, hpoint'⟩, hsuffix⟩, rfl⟩ := h
      rcases Bool.or_eq_true_iff.mp hsuffix with hinner | hword
      · exact .item (beq_iff_eq.mp hlib) (beq_iff_eq.mp hpoint) (beq_iff_eq.mp hname)
          (beq_iff_eq.mp hpoint') (beq_iff_eq.mp hinner)
      · exact .everything (beq_iff_eq.mp hlib) (beq_iff_eq.mp hpoint) (beq_iff_eq.mp hname)
          (beq_iff_eq.mp hpoint') (beq_iff_eq.mp hword)
  · intro h
    cases h <;>
      simp [selectedName?, isSuffix, Token.isIdentifier, Token.isDelimiter, Token.isKeyword,
        Token.name, *]

/-- What a token of a clause can stand for: a word, or punctuation that divides words. -/
def IsPart (s : Symbol) : Prop :=
  (∃ k, s = .keyword k) ∨ s = .identifier ∨ s = .delimiter '.' ∨ s = .delimiter ',' ∨
    s = .delimiter ';'

/-- The tokens of an item divide neither items nor clauses. -/
def Undivided (item : List Token) : Prop :=
  ∀ t ∈ item, IsPart t.symbol ∧ t.isDelimiter ',' = false ∧ t.isDelimiter ';' = false

theorem IsLibraryName.undivided {name : String} {item : List Token}
    (h : IsLibraryName name item) : Undivided item := by
  obtain ⟨ht⟩ := h
  simp [Undivided, IsPart, Token.isDelimiter, ht]

theorem IsSelectedName.undivided {c : UseClause} {item : List Token}
    (h : IsSelectedName c item) : Undivided item := by
  cases h <;> simp [Undivided, IsPart, Token.isDelimiter, *]

section
variable {α : Type} {Item : α → List Token → Prop} {read : List Token → Option α} {as : List α}
  {ts : List Token}

/-- Items read from the stretches between the commas are listed. -/
theorem listed_of_mapM (hread : ∀ {a item}, read item = some a → Item a item)
    {body : List Token} {semicolon : Token} (hsemicolon : semicolon.symbol = .delimiter ';')
    (h : (Text.splitAt (Token.isDelimiter ',') body).mapM read = some as) :
    Listed Item as (body ++ [semicolon]) := by
  induction hlength : body.length using Nat.strongRecOn generalizing body as with
  | ind n ih =>
    rcases Text.splitAt_cases (Token.isDelimiter ',') body with
      ⟨-, hsplit⟩ | ⟨first, comma, rest, rfl, -, hcomma, hsplit⟩
    · simp only [hsplit, List.mapM_cons, List.mapM_nil, Option.pure_def, Option.bind_eq_bind,
        Option.bind_eq_some_iff, Option.some.injEq] at h
      obtain ⟨a, ha, _, rfl, rfl⟩ := h
      exact .last (hread ha) hsemicolon
    · simp only [hsplit, List.mapM_cons, Option.pure_def, Option.bind_eq_bind,
        Option.bind_eq_some_iff, Option.some.injEq] at h
      obtain ⟨a, ha, as', has', rfl⟩ := h
      have hrest : rest.length < n := by
        rw [← hlength, List.length_append, List.length_cons]
        omega
      rw [List.append_assoc, List.cons_append]
      exact .more (hread ha) (beq_iff_eq.mp hcomma) (ih _ hrest has' rfl)

/-- A list of items is its body, in which no semicolon stands, and a semicolon, and its items
are read from the stretches between the commas. -/
theorem Listed.exists_body (h : Listed Item as ts)
    (hread : ∀ {a item}, Item a item → read item = some a)
    (hitem : ∀ {a item}, Item a item → Undivided item) :
    ∃ body semicolon, ts = body ++ [semicolon] ∧ semicolon.symbol = .delimiter ';' ∧
      (∀ t ∈ body, IsPart t.symbol ∧ t.isDelimiter ';' = false) ∧
      (Text.splitAt (Token.isDelimiter ',') body).mapM read = some as := by
  induction h with
  | @last a item semicolon ha hsemicolon =>
    have hplain := hitem ha
    refine ⟨item, semicolon, rfl, hsemicolon, fun t ht => ⟨(hplain t ht).1, (hplain t ht).2.2⟩, ?_⟩
    rw [Text.splitAt_eq_singleton fun t ht => (hplain t ht).2.1]
    simp [hread ha]
  | @more a as item ts comma ha hcomma _ ih =>
    have hplain := hitem ha
    obtain ⟨body, semicolon, rfl, hsemicolon, hbody, hitems⟩ := ih
    refine ⟨item ++ comma :: body, semicolon, by simp, hsemicolon, ?_, ?_⟩
    · refine List.forall_mem_append.mpr ⟨fun t ht => ⟨(hplain t ht).1, (hplain t ht).2.2⟩,
        List.forall_mem_cons.mpr ⟨?_, hbody⟩⟩
      simp [IsPart, Token.isDelimiter, hcomma]
    · rw [Text.splitAt_append_cons (fun t ht => (hplain t ht).2.1) (beq_iff_eq.mpr hcomma)]
      simp [hread ha, hitems]

end

/-- The items of a clause stand before the first semicolon. -/
theorem items?_append {body : List Token} {semicolon : Token}
    (hbody : ∀ t ∈ body, t.isDelimiter ';' = false) (hsemicolon : semicolon.symbol = .delimiter ';')
    (more : List Token) :
    items? (body ++ semicolon :: more) =
      some (Text.splitAt (Token.isDelimiter ',') body, body.length + 1) := by
  have hrun : (body ++ semicolon :: more).takeWhile (fun t => !t.isDelimiter ';') = body := by
    rw [List.takeWhile_append_of_pos (by simpa using hbody)]
    simp [Token.isDelimiter, hsemicolon]
  simp only [items?, hrun, List.length_append, List.length_cons]
  rw [if_pos (by omega)]

/-- Items are found only before a semicolon. -/
theorem exists_of_items? {ts : List Token} {items : List (List Token)} {taken : Nat}
    (h : items? ts = some (items, taken)) :
    ∃ body semicolon more, ts = body ++ semicolon :: more ∧
      semicolon.symbol = .delimiter ';' ∧ taken = body.length + 1 ∧
      items = Text.splitAt (Token.isDelimiter ',') body := by
  simp only [items?, Option.ite_none_right_eq_some, Option.some.injEq, Prod.mk.injEq] at h
  obtain ⟨hlength, rfl, rfl⟩ := h
  have hsplit := List.takeWhile_append_dropWhile (p := fun t => !Token.isDelimiter ';' t) (l := ts)
  cases hrest : ts.dropWhile fun t => !Token.isDelimiter ';' t with
  | nil =>
    rw [hrest, List.append_nil] at hsplit
    rw [hsplit] at hlength
    exact absurd hlength (Nat.lt_irrefl _)
  | cons semicolon more =>
    have hstop := List.head?_dropWhile_not (fun t => !Token.isDelimiter ';' t) ts
    rw [hrest] at hsplit hstop
    exact ⟨_, semicolon, more, hsplit.symm, by simpa [Token.isDelimiter] using hstop, rfl, rfl⟩

/-- The tokens of a clause are words and punctuation, and the last of them is a semicolon. -/
theorem Spells.exists_body {c : Clause} {ts : List Token} (h : Spells c ts) :
    ∃ body semicolon, ts = body ++ [semicolon] ∧ semicolon.symbol = .delimiter ';' ∧
      ∀ t ∈ body, IsPart t.symbol := by
  cases h with
  | @library word _ _ hword hnames =>
    obtain ⟨body, semicolon, rfl, hsemicolon, hbody, -⟩ :=
      hnames.exists_body libraryName?_eq_some_iff.mpr IsLibraryName.undivided
    exact ⟨word :: body, semicolon, rfl, hsemicolon,
      List.forall_mem_cons.mpr ⟨Or.inl ⟨_, hword⟩, fun t ht => (hbody t ht).1⟩⟩
  | @use word _ _ hword hclauses =>
    obtain ⟨body, semicolon, rfl, hsemicolon, hbody, -⟩ :=
      hclauses.exists_body selectedName?_eq_some_iff.mpr IsSelectedName.undivided
    exact ⟨word :: body, semicolon, rfl, hsemicolon,
      List.forall_mem_cons.mpr ⟨Or.inl ⟨_, hword⟩, fun t ht => (hbody t ht).1⟩⟩

/-- A clause is read wherever it stands at the beginning, whatever follows. -/
theorem Spells.read?_append {c : Clause} {word : Token} {ts : List Token}
    (h : Spells c (word :: ts)) (more : List Token) :
    read? word (ts ++ more) = some (c, ts.length) := by
  cases h with
  | library hword hnames =>
    obtain ⟨body, semicolon, rfl, hsemicolon, hbody, hitems⟩ :=
      hnames.exists_body libraryName?_eq_some_iff.mpr IsLibraryName.undivided
    rw [List.append_assoc, List.singleton_append, read?,
      items?_append (fun t ht => (hbody t ht).2) hsemicolon]
    simp [Token.isKeyword, hword, hitems]
  | use hword hclauses =>
    obtain ⟨body, semicolon, rfl, hsemicolon, hbody, hitems⟩ :=
      hclauses.exists_body selectedName?_eq_some_iff.mpr IsSelectedName.undivided
    rw [List.append_assoc, List.singleton_append, read?,
      items?_append (fun t ht => (hbody t ht).2) hsemicolon]
    simp [Token.isKeyword, hword, hitems]

/-- A clause is read exactly if one stands at the beginning; it is then read as that clause,
and as many tokens are taken as it has. -/
theorem read?_eq_some_iff {word : Token} {rest : List Token} {c : Clause} {taken : Nat} :
    read? word rest = some (c, taken) ↔
      ∃ ts more, rest = ts ++ more ∧ ts.length = taken ∧ Spells c (word :: ts) := by
  constructor
  · intro h
    simp only [read?, Option.bind_eq_bind, Option.bind_eq_some_iff, Prod.exists] at h
    obtain ⟨items, _, hitems, h⟩ := h
    obtain ⟨body, semicolon, more, rfl, hsemicolon, rfl, rfl⟩ := exists_of_items? hitems
    refine ⟨body ++ [semicolon], more, by simp, ?_⟩
    split at h
    · rename_i hword
      simp only [Option.pure_def, Option.bind_eq_some_iff, Option.some.injEq,
        Prod.mk.injEq] at h
      obtain ⟨names, hnames, rfl, rfl⟩ := h
      exact ⟨List.length_append, .library (beq_iff_eq.mp hword)
        (listed_of_mapM libraryName?_eq_some_iff.mp hsemicolon hnames)⟩
    · split at h
      · rename_i hword
        simp only [Option.pure_def, Option.bind_eq_some_iff, Option.some.injEq,
          Prod.mk.injEq] at h
        obtain ⟨clauses, hclauses, rfl, rfl⟩ := h
        exact ⟨List.length_append, .use (beq_iff_eq.mp hword)
          (listed_of_mapM selectedName?_eq_some_iff.mp hsemicolon hclauses)⟩
      · cases h
  · rintro ⟨ts, more, rfl, rfl, h⟩
    exact h.read?_append more

end CompileOrder.Clause
