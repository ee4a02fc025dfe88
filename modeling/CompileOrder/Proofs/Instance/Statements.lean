import CompileOrder.Proofs.Instance.Shapes
import CompileOrder.Token.Lexer
import Mathlib.Data.List.Basic

/-!
# Instantiation statements

A statement is a header and one or two map clauses, whose parentheses are balanced. The
header stands right before its first map clause and is found there, whatever came before.
Before a second map clause stand the parentheses of the first, and no header ends in them:
the shapes that end in a parenthesis have a name before the opening one, where the clause has
`map`. As only map clauses hold the word `map`, nothing else is found.
-/

namespace CompileOrder

/-- `library .`, or nothing, and the library named. -/
inductive Qualifier : List Token → Option String → Prop
  | none : Qualifier [] none
  | library {l point : Token} (hl : l.symbol = .identifier) (hp : point.symbol = .delimiter '.') :
    Qualifier [l, point] (some l.name)

/-- `( architecture )`, or nothing, and the architecture named. -/
inductive Choice : List Token → Option String → Prop
  | none : Choice [] none
  | architecture {left a right : Token} (hleft : left.symbol = .delimiter '(')
    (ha : a.symbol = .identifier) (hright : right.symbol = .delimiter ')') :
    Choice [left, a, right] (some a.name)

/-- The tokens of a header and the instance it describes. -/
inductive Describes : List Token → Instance → Prop
  /-- `label : entity target`, with a library or not, with an architecture or not. -/
  | entity {label colon word target : Token} {qualifier choice : List Token}
    {library architecture : Option String} (hlabel : label.symbol = .identifier)
    (hcolon : colon.symbol = .delimiter ':') (hword : word.symbol = .keyword .ENTITY)
    (hqualifier : Qualifier qualifier library) (htarget : target.symbol = .identifier)
    (hchoice : Choice choice architecture) :
    Describes (label :: colon :: word :: (qualifier ++ target :: choice))
      ⟨label.name, library, .entity target.name architecture⟩
  /-- `label : component target`, with a library or not. -/
  | component {label colon word target : Token} {qualifier : List Token}
    {library : Option String} (hlabel : label.symbol = .identifier)
    (hcolon : colon.symbol = .delimiter ':') (hword : word.symbol = .keyword .COMPONENT)
    (hqualifier : Qualifier qualifier library) (htarget : target.symbol = .identifier) :
    Describes (label :: colon :: word :: (qualifier ++ [target]))
      ⟨label.name, library, .component target.name⟩
  /-- `label : target`, with a library or not. -/
  | plain {label colon target : Token} {qualifier : List Token} {library : Option String}
    (hlabel : label.symbol = .identifier) (hcolon : colon.symbol = .delimiter ':')
    (hqualifier : Qualifier qualifier library) (htarget : target.symbol = .identifier) :
    Describes (label :: colon :: (qualifier ++ [target]))
      ⟨label.name, library, .component target.name⟩
  /-- `label : library . package . target`. -/
  | selected {label colon library point package point' target : Token}
    (hlabel : label.symbol = .identifier) (hcolon : colon.symbol = .delimiter ':')
    (hlibrary : library.symbol = .identifier) (hpoint : point.symbol = .delimiter '.')
    (hpackage : package.symbol = .identifier) (hpoint' : point'.symbol = .delimiter '.')
    (htarget : target.symbol = .identifier) :
    Describes [label, colon, library, point, package, point', target]
      ⟨label.name, some library.name, .component target.name⟩

/-- A header has the symbols of one of the shapes, which describes its instance. -/
theorem Describes.exists_shape {header : List Token} {i : Instance} (h : Describes header i) :
    ∃ s ∈ Shape.all, header.map (·.symbol) = s.symbols ∧ s.build header = some i := by
  cases h with
  | entity hlabel hcolon hword hqualifier htarget hchoice =>
    cases hqualifier <;> cases hchoice <;>
      simp [Shape.all, Shape.symbols, Part.symbol, Shape.build, Shape.nameOf, *]
  | component hlabel hcolon hword hqualifier htarget =>
    cases hqualifier <;>
      simp [Shape.all, Shape.symbols, Part.symbol, Shape.build, Shape.nameOf, *]
  | plain hlabel hcolon hqualifier htarget =>
    cases hqualifier <;>
      simp [Shape.all, Shape.symbols, Part.symbol, Shape.build, Shape.nameOf, *]
  | selected =>
    simp [Shape.all, Shape.symbols, Part.symbol, Shape.build, Shape.nameOf, *]

/-- No token is the word `map`. -/
def MapFree (ts : List Token) : Prop := ∀ t ∈ ts, t.symbol ≠ .keyword .MAP

/-- The first token, if there is one, is not the word `map`. -/
def StartsMapFree (ts : List Token) : Prop := ∀ t ∈ ts.head?, t.symbol ≠ .keyword .MAP

theorem MapFree.starts {ts rest : List Token} (hts : MapFree ts) (hrest : StartsMapFree rest) :
    StartsMapFree (ts ++ rest) := by
  cases ts with
  | nil => exact hrest
  | cons t ts => exact fun u hu => hts u (by simp_all)

/-- No header holds the word `map`. -/
theorem Describes.mapFree {header : List Token} {i : Instance} (h : Describes header i) :
    MapFree header := by
  obtain ⟨shape, hshape, hsymbols, -⟩ := h.exists_shape
  have hall : ∀ shape ∈ Shape.all, .keyword .MAP ∉ shape.symbols := by decide
  intro t ht hmap
  refine hall shape hshape (hsymbols ▸ ?_)
  exact List.mem_map.mpr ⟨t, ht, hmap⟩

/-- As many parentheses are opened as are closed, and nowhere are more closed than opened. -/
def Balanced (ts : List Token) : Prop :=
  ts.countP (Token.isDelimiter '(') = ts.countP (Token.isDelimiter ')') ∧
    ∀ start ∈ ts.inits,
      start.countP (Token.isDelimiter ')') ≤ start.countP (Token.isDelimiter '(')

instance : DecidablePred MapFree := fun ts =>
  inferInstanceAs (Decidable (∀ t ∈ ts, t.symbol ≠ .keyword .MAP))

instance : DecidablePred Balanced := fun _ => inferInstanceAs (Decidable (_ ∧ _))

/-- The end of a balanced row of tokens closes what it opens. -/
theorem Balanced.countP_le_of_suffix {ts last : List Token} (h : Balanced ts)
    (hlast : last <:+ ts) :
    last.countP (Token.isDelimiter '(') ≤ last.countP (Token.isDelimiter ')') := by
  obtain ⟨start, rfl⟩ := hlast
  have hstart := h.2 start ((List.mem_inits ..).mpr (List.prefix_append start last))
  have htotal := h.1
  simp only [List.countP_append] at htotal
  omega

/-- A map clause `k map ( body )`. -/
structure MapClause (k : Keyword) where
  /-- The word that says what is mapped. -/
  word : Token
  /-- The word `map`. -/
  map : Token
  /-- The opening parenthesis. -/
  left : Token
  /-- The tokens between the parentheses. -/
  body : List Token
  /-- The closing parenthesis. -/
  right : Token
  /-- The word is `k`. -/
  word_symbol : word.symbol = .keyword k
  /-- The word `map` follows. -/
  map_symbol : map.symbol = .keyword .MAP
  /-- The body is put in parentheses. -/
  left_symbol : left.symbol = .delimiter '('
  /-- The body is put in parentheses. -/
  right_symbol : right.symbol = .delimiter ')'
  /-- The parentheses of the body are balanced. -/
  balanced : Balanced body
  /-- There is no other word `map`. -/
  mapFree : MapFree body

namespace MapClause

variable {k : Keyword} (c : MapClause k)

/-- The tokens of a map clause. -/
def tokens : List Token := c.word :: c.map :: c.left :: (c.body ++ [c.right])

theorem starts (hk : k = .PORT ∨ k = .GENERIC) (rest : List Token) :
    StartsMapFree (c.tokens ++ rest) := by
  intro t ht
  obtain rfl : c.word = t := by simpa [tokens] using ht
  rw [c.word_symbol]
  rcases hk with rfl | rfl <;> decide

/-- No header ends in a map clause. -/
theorem ofHeader?_append (before : List Token) :
    Instance.ofHeader? (before ++ c.tokens) = none := by
  refine Instance.ofHeader?_eq_none fun s hs hsuffix => ?_
  have hends : ∀ s ∈ Shape.all, [.identifier] <+: s.symbols.reverse ∨
      [.delimiter ')', .identifier, .delimiter '(', .identifier] <+: s.symbols.reverse := by decide
  have hclause : ((before ++ c.tokens).map (·.symbol)).reverse =
      .delimiter ')' :: (c.body.reverse.map (·.symbol) ++ .delimiter '(' :: .keyword .MAP ::
        .keyword k :: (before.map (·.symbol)).reverse) := by
    simp [tokens, c.word_symbol, c.map_symbol, c.left_symbol, c.right_symbol]
  have hprefix := List.reverse_prefix.mpr hsuffix
  rw [hclause] at hprefix
  rcases hends s hs with hend | hend
  · have := hend.trans hprefix
    simp at this
  · have hbody := hend.trans hprefix
    cases hreverse : c.body.reverse with
    | nil => simp [hreverse] at hbody
    | cons a rest =>
      cases rest with
      | nil => simp [hreverse] at hbody
      | cons b rest =>
        simp only [hreverse, List.map_cons, List.cons_append, List.cons_prefix_cons] at hbody
        obtain ⟨-, ha, hb, -⟩ := hbody
        have hlast : [b, a] <:+ c.body := by
          rw [← List.reverse_prefix, hreverse]
          exact ⟨rest, rfl⟩
        have hcount := c.balanced.countP_le_of_suffix hlast
        simp [Token.isDelimiter, ← ha, ← hb] at hcount

end MapClause

namespace Instance

variable {before ts rest : List Token}

/-- Without the word `map` as the second token no map clause is opened. -/
theorem opensMap_eq_false {t : Token} (h : StartsMapFree rest) : opensMap (t :: rest) = false := by
  match rest, h with
  | [], _ | [_], _ => rfl
  | a :: b :: rest, h =>
    have ha : a.symbol ≠ .keyword .MAP := h a rfl
    simp [opensMap, Token.isKeyword, ha]

/-- Nothing is found in tokens without the word `map`. -/
theorem mineFrom_append (hts : MapFree ts) (hrest : StartsMapFree rest) (before : List Token) :
    mineFrom before (ts ++ rest) = mineFrom (ts.reverse ++ before) rest := by
  induction ts generalizing before with
  | nil => rfl
  | cons t ts ih =>
    have hts' : MapFree ts := fun u hu => hts u (List.mem_cons_of_mem t hu)
    rw [List.cons_append, mineFrom, opensMap_eq_false (hts'.starts hrest)]
    simp [ih hts']

/-- At a map clause the header before it is found, and nothing in the clause. -/
theorem mineFrom_clause {k : Keyword} (c : MapClause k) (hk : k = .PORT ∨ k = .GENERIC)
    (hrest : StartsMapFree rest) (before : List Token) :
    mineFrom before (c.tokens ++ rest) =
      (ofHeader? before.reverse).toList ++ mineFrom (c.tokens.reverse ++ before) rest := by
  have hinner : MapFree (c.left :: (c.body ++ [c.right])) := by
    intro t ht
    simp only [List.mem_cons, List.mem_append, List.not_mem_nil, or_false] at ht
    rcases ht with rfl | ht | rfl
    · simp [c.left_symbol]
    · exact c.mapFree t ht
    · simp [c.right_symbol]
  have hword : opensMap (c.word :: c.map :: (c.left :: (c.body ++ [c.right]) ++ rest)) = true := by
    rcases hk with rfl | rfl <;>
      simp [opensMap, Token.isKeyword, Token.isDelimiter, c.word_symbol, c.map_symbol,
        c.left_symbol]
  have hmap : opensMap (c.map :: (c.left :: (c.body ++ [c.right]) ++ rest)) = false :=
    opensMap_eq_false fun t ht => hinner t (by simp_all)
  have htokens : c.tokens ++ rest =
      c.word :: c.map :: (c.left :: (c.body ++ [c.right]) ++ rest) := rfl
  rw [htokens, mineFrom, if_pos hword, ofHeader?_window, mineFrom]
  simp only [hmap, Bool.false_eq_true, if_false, List.nil_append, mineFrom_append hinner hrest]
  simp [MapClause.tokens]

end Instance

/-- The map clauses of a statement. -/
inductive MapClauses where
  /-- `generic map ( body )` -/
  | generic (g : MapClause .GENERIC)
  /-- `port map ( body )` -/
  | port (p : MapClause .PORT)
  /-- `generic map ( body ) port map ( body )` -/
  | both (g : MapClause .GENERIC) (p : MapClause .PORT)

/-- The tokens of the map clauses. -/
def MapClauses.tokens : MapClauses → List Token
  | generic g => g.tokens
  | port p => p.tokens
  | both g p => g.tokens ++ p.tokens

theorem MapClauses.starts (m : MapClauses) (rest : List Token) :
    StartsMapFree (m.tokens ++ rest) := by
  cases m with
  | generic g => exact g.starts (Or.inr rfl) rest
  | port p => exact p.starts (Or.inl rfl) rest
  | both g p =>
    rw [tokens, List.append_assoc]
    exact g.starts (Or.inr rfl) (p.tokens ++ rest)

/-- At the map clauses the header before them is found, and nothing in them. -/
theorem Instance.mineFrom_clauses (m : MapClauses) {rest : List Token}
    (hrest : StartsMapFree rest) (before : List Token) :
    mineFrom before (m.tokens ++ rest) =
      (ofHeader? before.reverse).toList ++ mineFrom (m.tokens.reverse ++ before) rest := by
  cases m with
  | generic g => exact mineFrom_clause g (Or.inr rfl) hrest before
  | port p => exact mineFrom_clause p (Or.inl rfl) hrest before
  | both g p =>
    have hsecond : ofHeader? (g.tokens.reverse ++ before).reverse = none := by
      rw [List.reverse_append, List.reverse_reverse]
      exact g.ofHeader?_append before.reverse
    rw [MapClauses.tokens, List.append_assoc,
      mineFrom_clause g (Or.inr rfl) (p.starts (Or.inl rfl) rest),
      mineFrom_clause p (Or.inl rfl) hrest, hsecond, List.reverse_append, List.append_assoc]
    rfl

/-- An instantiation statement. -/
structure Statement where
  /-- The tokens before the map clauses. -/
  header : List Token
  /-- The instance that they describe. -/
  described : Instance
  /-- They are a header of that instance. -/
  describes : Describes header described
  /-- The map clauses. -/
  clauses : MapClauses
  /-- The end of the statement. -/
  semicolon : Token
  /-- The statement ends in a semicolon. -/
  semicolon_symbol : semicolon.symbol = .delimiter ';'

/-- The tokens of a statement. -/
def Statement.tokens (s : Statement) : List Token :=
  s.header ++ (s.clauses.tokens ++ [s.semicolon])

/-- What stands between statements: any tokens but the word `map`. -/
structure Gap where
  /-- The tokens. -/
  tokens : List Token
  /-- None of them is the word `map`. -/
  mapFree : MapFree tokens

/-- The tokens of statements, each with the gap after it. -/
def Statement.listTokens (ss : List (Statement × Gap)) : List Token :=
  ss.flatMap fun s => s.1.tokens ++ s.2.tokens

namespace Statement

theorem starts_listTokens (ss : List (Statement × Gap)) : StartsMapFree (listTokens ss) := by
  cases ss with
  | nil => exact fun t ht => nomatch ht
  | cons s ss =>
    rw [listTokens, List.flatMap_cons, tokens, List.append_assoc, List.append_assoc,
      List.append_assoc]
    exact s.1.describes.mapFree.starts (s.1.clauses.starts _)

/-- In a statement its instance is found, and nothing else. -/
theorem mineFrom_tokens (s : Statement) {rest : List Token} (hrest : StartsMapFree rest)
    (before : List Token) :
    Instance.mineFrom before (s.tokens ++ rest) =
      s.described :: Instance.mineFrom (s.tokens.reverse ++ before) rest := by
  obtain ⟨shape, hshape, hsymbols, hbuild⟩ := s.describes.exists_shape
  have hfound : Instance.ofHeader? (s.header.reverse ++ before).reverse = some s.described := by
    rw [List.reverse_append, List.reverse_reverse]
    exact Instance.ofHeader?_append hshape hsymbols hbuild before.reverse
  have hend : MapFree [s.semicolon] := by
    intro t ht
    rw [List.mem_singleton.mp ht, s.semicolon_symbol]
    decide
  calc Instance.mineFrom before (s.tokens ++ rest)
      = Instance.mineFrom before (s.header ++ (s.clauses.tokens ++ ([s.semicolon] ++ rest))) := by
        simp [tokens]
    _ = Instance.mineFrom (s.header.reverse ++ before)
          (s.clauses.tokens ++ ([s.semicolon] ++ rest)) :=
        Instance.mineFrom_append s.describes.mapFree (s.clauses.starts _) before
    _ = s.described :: Instance.mineFrom (s.clauses.tokens.reverse ++ (s.header.reverse ++ before))
          ([s.semicolon] ++ rest) := by
        rw [Instance.mineFrom_clauses s.clauses (hend.starts hrest), hfound]
        rfl
    _ = s.described :: Instance.mineFrom (s.tokens.reverse ++ before) rest := by
        rw [Instance.mineFrom_append hend hrest]
        simp [tokens]

end Statement

/-- Mining undoes writing: statements one after another, with any tokens but the word `map`
between them, hold the instances that their headers describe, each once and in order. -/
theorem mine_statements (before : Gap) (ss : List (Statement × Gap)) :
    Instance.mine (before.tokens ++ Statement.listTokens ss) = ss.map fun s => s.1.described := by
  rw [Instance.mine, Instance.mineFrom_append before.mapFree (Statement.starts_listTokens ss)]
  generalize before.tokens.reverse ++ [] = passed
  induction ss generalizing passed with
  | nil => rfl
  | cons s ss ih =>
    have hstarts := Statement.starts_listTokens ss
    have hsplit : Statement.listTokens (s :: ss) =
        s.1.tokens ++ (s.2.tokens ++ Statement.listTokens ss) := by
      simp [Statement.listTokens]
    rw [hsplit, s.1.mineFrom_tokens (s.2.mapFree.starts hstarts),
      Instance.mineFrom_append s.2.mapFree hstarts, ih, List.map_cons]

namespace Statement

/-- A token of the first line. -/
def lexeme (symbol : Symbol) (text : String) : Token := ⟨symbol, text, 1⟩

/-- A map clause of tokens of the first line. -/
def clause (k : Keyword) (body : List Token) (balanced : Balanced body) (mapFree : MapFree body) :
    MapClause k where
  word := lexeme (.keyword k) k.spelling
  map := lexeme (.keyword .MAP) "MAP"
  left := lexeme (.delimiter '(') "("
  body := body
  right := lexeme (.delimiter ')') ")"
  word_symbol := rfl
  map_symbol := rfl
  left_symbol := rfl
  right_symbol := rfl
  balanced := balanced
  mapFree := mapFree

/-- A statement whose generic map ends in a name in parentheses. -/
def fifo : Statement where
  header := [lexeme .identifier "u", lexeme (.delimiter ':') ":",
    lexeme (.keyword .ENTITY) "ENTITY", lexeme .identifier "work", lexeme (.delimiter '.') ".",
    lexeme .identifier "fifo"]
  described := ⟨"U", some "WORK", .entity "FIFO" none⟩
  describes := .entity rfl rfl rfl (.library rfl rfl) rfl .none
  clauses := .both
    (clause .GENERIC [lexeme .identifier "f", lexeme (.delimiter '(') "(", lexeme .identifier "n",
      lexeme (.delimiter ')') ")"] (by decide) (by decide))
    (clause .PORT [lexeme .identifier "x"] (by decide) (by decide))
  semicolon := lexeme (.delimiter ';') ";"
  semicolon_symbol := rfl

example : fifo.tokens =
    Lexer.tokenize "u : entity work.fifo generic map (f(n)) port map (x);" 1 := by
  decide +kernel

end Statement

end CompileOrder
