import CompileOrder.Proofs.DesignUnit.Boundaries
import CompileOrder.Proofs.DesignUnit.Concatenation
import CompileOrder.Proofs.DesignUnit.Printing
import CompileOrder.Proofs.DesignUnit.Visibility

/-!
# Reading printed units

Printed units are read back: between two of them the extractor is at rest, the clauses are
kept, the header opens the unit with them, no line of the body closes it, and its end does.
What is read back is the unit itself, whatever its body holds and whatever stands before it,
under the clauses printed for it and no others.
-/

namespace CompileOrder

/-- Lines further down have the same tokens, further down. -/
theorem Lexer.tokenizeFrom_add (number below : Nat) (lines : List String) :
    tokenizeFrom (number + below) lines =
      (tokenizeFrom number lines).map (Token.renumber (· + below)) := by
  induction lines generalizing number with
  | nil => rfl
  | cons line lines ih =>
    have hnext : number + below + 1 = number + 1 + below := by omega
    rw [tokenizeFrom_cons, tokenizeFrom_cons, List.map_append, hnext, ih,
      tokenize_renumber (· + below) line number]

/-- The tokens of a line and of those after it, as those of a file of its own. -/
theorem Lexer.tokenize_append_tokenizeFrom (line : String) (below : Nat) (lines : List String) :
    tokenize line (below + 1) ++ tokenizeFrom (below + 1 + 1) lines =
      (tokenizeLines (line :: lines)).map (Token.renumber (· + below)) := by
  rw [← tokenizeFrom_cons, Nat.add_comm below 1, tokenizeFrom_add]
  rfl

/-- The numbers of lines play no part in which words an end accepts. -/
theorem Header.acceptsEnd_renumber {h : Header} {f : Nat → Nat} {words : List Token} :
    h.AcceptsEnd (words.map (Token.renumber f)) ↔ h.AcceptsEnd words := by
  have hpart : ∀ (part : EndPart) (t : Token),
      part.Fits h.closingName (t.renumber f) = part.Fits h.closingName t := by
    rintro (_ | _) t <;> rfl
  simp only [AcceptsEnd, List.forall₂_map_right_iff, hpart]

/-- Whether tokens end a unit does not depend on the numbers of their lines. -/
theorem Header.endsIn_renumber {h : Header} {f : Nat → Nat} {tokens : List Token} :
    h.EndsIn (tokens.map (Token.renumber f)) ↔ h.EndsIn tokens := by
  constructor
  · rintro ⟨start, e, words, semicolon, htokens, he, hwords, hsemicolon⟩
    obtain ⟨start', ending, rfl, rfl, hending⟩ := List.map_eq_append_iff.mp htokens
    obtain ⟨e', rest, rfl, rfl, hrest⟩ := List.map_eq_cons_iff.mp hending
    obtain ⟨words', last, rfl, rfl, hlast⟩ := List.map_eq_append_iff.mp hrest
    obtain ⟨semicolon', rfl, rfl⟩ := List.map_eq_singleton_iff.mp hlast
    exact ⟨start', e', words', semicolon', rfl, he, acceptsEnd_renumber.mp hwords, hsemicolon⟩
  · rintro ⟨start, e, words, semicolon, rfl, he, hwords, hsemicolon⟩
    exact ⟨start.map (Token.renumber f), e.renumber f, words.map (Token.renumber f),
      semicolon.renumber f, by simp, he, acceptsEnd_renumber.mpr hwords, hsemicolon⟩

namespace Written

/-- A unit as it is written, with the clauses before it. -/
structure Unit where
  /-- The context clauses, one on each line. -/
  context : List Clause
  /-- The header, on a line of its own. -/
  heading : Heading
  /-- The lines of the body. -/
  body : List String
  /-- The words of the end, on a line of its own. -/
  form : List EndPart
  /-- The name that the end may repeat. -/
  closing : Name
  /-- The lines of the body are single lines. -/
  single : ∀ line ∈ body, '\n' ∉ line.toList
  /-- The end has one of the forms accepted for the kind of unit. -/
  accepted : form ∈ heading.meaning.kind.endForms
  /-- Its name is the one that closes the unit, in any case of letters. -/
  closes : Text.upper closing.text = heading.meaning.closingName
  /-- At no line of the body do the tokens from the header on end the unit. -/
  stays_open : ∀ k < body.length,
    ¬ heading.meaning.EndsIn
      (Lexer.tokenizeLines (Piece.line heading.pieces :: body.take (k + 1)))

namespace Unit

/-- The line of the end. -/
def endLine (u : Unit) : String := Piece.line (endPieces u.form u.closing)

/-- The lines from the header to the end. -/
def span (u : Unit) : List String := Piece.line u.heading.pieces :: (u.body ++ [u.endLine])

/-- All lines of the unit, its clauses first. -/
def lines (u : Unit) : List String := u.context.map (fun c => Piece.line c.pieces) ++ u.span

/-- The libraries of the clauses, in order. -/
def libraryNames (u : Unit) : List String := u.context.flatMap fun c => c.meaning.libraryNames

/-- The names that the clauses use. -/
def useClauses (u : Unit) : List UseClause := u.context.flatMap fun c => c.meaning.useClauses

/-- The last line of a unit ends it. -/
theorem endsIn_span (u : Unit) : u.heading.meaning.EndsIn (Lexer.tokenizeLines u.span) := by
  have hlast : Lexer.tokenizeLines u.span =
      Lexer.tokenizeLines (Piece.line u.heading.pieces :: u.body) ++
        (endPieces u.form u.closing).map (Piece.token (u.body.length + 2)) := by
    simp only [span, Lexer.tokenizeLines, ← List.cons_append, List.zipIdx_append,
      List.flatMap_append, List.zipIdx_singleton, List.flatMap_singleton, endLine,
      Piece.tokenize_line]
    rw [List.length_cons, Nat.add_comm 1]
  rw [hlast]
  exact endsIn_endPieces u.accepted u.closes _ _

/-- No line before it does. -/
theorem not_endsIn (u : Unit) {k : Nat} (hk : k ≤ u.body.length) :
    ¬ u.heading.meaning.EndsIn
      (Lexer.tokenizeLines (Piece.line u.heading.pieces :: u.body.take k)) := by
  cases k with
  | zero =>
    have hheading : Lexer.tokenizeLines [Piece.line u.heading.pieces] =
        u.heading.pieces.map (Piece.token 1) := by
      simp [Lexer.tokenizeLines, Piece.tokenize_line]
    rw [List.take_zero, hheading]
    exact u.heading.not_endsIn_tokens 1
  | succ k => exact u.stays_open k hk

/-- No line of a unit holds a line feed. -/
theorem not_mem_lines (u : Unit) : ∀ line ∈ u.lines, '\n' ∉ line.toList := by
  intro line hline
  simp only [lines, span, List.mem_append, List.mem_cons, List.mem_map, List.not_mem_nil,
    or_false] at hline
  rcases hline with ⟨c, -, rfl⟩ | rfl | hline | rfl
  · exact Piece.not_mem_line _
  · exact Piece.not_mem_line _
  · exact u.single line hline
  · exact Piece.not_mem_line _

end Unit

/-- The text of a file that holds these units. -/
def print (us : List Unit) : String :=
  String.ofList ((us.flatMap Unit.lines).flatMap fun line => line.toList ++ ['\n'])

/-- The use of its own entity or package that a unit of the library `own` implies. -/
def Heading.implied (own : String) : Heading → List UseClause
  | architecture _ owner => [⟨own, some (Text.upper owner.text)⟩]
  | packageBody name => [⟨own, some (Text.upper name.text)⟩]
  | entity _ | package _ => []

/-- The kind of unit that a header opens, an architecture with these instances. -/
def Heading.kind (instances : List Instance) : Heading → UnitKind
  | entity _ => .entity
  | architecture name _ => .architecture (Text.upper name.text) instances
  | package _ => .package
  | packageBody _ => .packageBody

/-- The design unit is the written one, in the library `own` and behind `n` lines of the
file: it has its clauses and the implied use, and what is instantiated in its own lines. -/
structure ReadAs (own file : String) (n : Nat) (u : Unit) (d : DesignUnit) : Prop where
  /-- The kind is that of the header, and the instances are those of the unit's lines. -/
  kind : d.kind = u.heading.kind
    ((Instance.mine (Lexer.tokenizeLines u.span)).map (OpenUnit.resolveInstance own))
  /-- The name is that of the header, in upper case. -/
  name : d.name = u.heading.meaning.name
  /-- It belongs to the library. -/
  library : d.library = own
  /-- It was found in the file. -/
  file : d.file = file
  /-- It begins at its header. -/
  beginLine : d.beginLine = n + u.context.length + 1
  /-- It ends at its last line. -/
  endLine : d.endLine = n + u.lines.length
  /-- Its libraries are those of its clauses, each once. -/
  libraries : d.libraries = (u.libraryNames.map (resolveWork own)).eraseDups
  /-- It uses what its clauses name, and what it implies. -/
  uses : d.uses.Lists own (u.useClauses ++ u.heading.implied own)

/-- The design units are the written ones, in order, the first behind `n` lines. -/
inductive ReadInOrder (own file : String) : Nat → List Unit → List DesignUnit → Prop
  /-- Nothing is read where nothing is written. -/
  | nil (n : Nat) : ReadInOrder own file n [] []
  /-- The first is read as it is written, and the others behind its lines. -/
  | cons {n : Nat} {u : Unit} {us : List Unit} {d : DesignUnit} {ds : List DesignUnit}
    (hd : ReadAs own file n u d) (hds : ReadInOrder own file (n + u.lines.length) us ds) :
    ReadInOrder own file n (u :: us) (d :: ds)

end Written

open Extractor Written

namespace Extractor

variable {x : Extractor}

/-- The clauses before a unit are kept. -/
theorem feed_context (hx : x.current = none) (context : List Written.Clause) :
    (context.map fun c => Piece.line c.pieces).foldl feed x =
      { x with
        lineCount := x.lineCount + context.length
        libraries := x.libraries ++ context.flatMap fun c => c.meaning.libraryNames
        clauses := x.clauses ++ context.flatMap fun c => c.meaning.useClauses } := by
  induction context generalizing x with
  | nil => simp
  | cons c context ih =>
    have hread : Clause.readAll 0 (Lexer.tokenize (Piece.line c.pieces) (x.lineCount + 1)) =
        ([c.meaning], []) := by
      rw [Piece.tokenize_line, Written.Clause.readAll_tokens]
    have hfeed : x.feed (Piece.line c.pieces) =
        { x with
          lineCount := x.lineCount + 1
          libraries := x.libraries ++ c.meaning.libraryNames
          clauses := x.clauses ++ c.meaning.useClauses } := by
      rw [feed_idle hx (by rw [hread]; rfl), keeping, hread, foldl_collect]
      simp
    have hcount : x.lineCount + 1 + context.length = x.lineCount + (c :: context).length := by
      rw [List.length_cons]
      omega
    rw [List.map_cons, List.foldl_cons, hfeed, ih]
    · simp only [hcount, List.flatMap_cons, List.append_assoc]
    · exact hx

/-- A written header opens its unit. -/
theorem opens_heading (hx : x.current = none) (h : Heading) :
    x.Opens (Piece.line h.pieces) h.meaning
      (Lexer.tokenize (Piece.line h.pieces) (x.lineCount + 1)) where
  idle := hx
  rest_eq := by rw [Piece.tokenize_line, (h.read?_tokens _).1]
  header := by rw [Piece.tokenize_line, (h.read?_tokens _).2]

/-- The unit that a written header opens, under the clauses kept. -/
theorem opening_heading (x : Extractor) (h : Heading) (tokens : List Token) :
    x.opening (Piece.line h.pieces) h.meaning tokens =
      { unit := .declare h.meaning.kind h.meaning.name x.library x.file (x.lineCount + 1)
          x.libraries (x.clauses ++ h.implied x.library)
        instantiates := false
        tokens := tokens } := by
  have hkeeping : x.keeping (Piece.line h.pieces) = { x with lineCount := x.lineCount + 1 } := by
    rw [keeping, Piece.tokenize_line, (h.read?_tokens _).1, List.foldl_nil]
  rw [opening, hkeeping]
  cases h <;> rfl

/-- The unit that a written header opens on the next line, with the tokens of the lines
after it. -/
def opened (x : Extractor) (h : Heading) (lines : List String) : OpenUnit :=
  (x.opening (Piece.line h.pieces) h.meaning
    (Lexer.tokenize (Piece.line h.pieces) (x.lineCount + 1))).through (x.lineCount + 1 + 1) lines

/-- It is closed exactly when the tokens of all these lines end it. -/
theorem isClosed_opened (x : Extractor) (h : Heading) (lines : List String) :
    (x.opened h lines).isClosed = true ↔
      h.meaning.EndsIn (Lexer.tokenizeLines (Piece.line h.pieces :: lines)) := by
  have hnew : h.meaning.instantiates = false := by cases h <;> rfl
  rw [opened, isClosed_opening hnew, Lexer.tokenize_append_tokenizeFrom, Header.endsIn_renumber]

/-- Closing a unit gives an architecture its instances, and keeps the kind of any other. -/
theorem kind_close {o : OpenUnit} {h : Heading} (ho : o.unit.kind = h.meaning.kind)
    (line : Nat) :
    (o.close line).kind =
      h.kind ((Instance.mine o.tokens).map (OpenUnit.resolveInstance o.unit.library)) := by
  simp only [OpenUnit.close, ho]
  cases h <;> rfl

/-- What is read when the end of a written unit closes it. -/
theorem readAs_close (x : Extractor) (n : Nat) (u : Written.Unit)
    (hcount : x.lineCount = n + u.context.length) (hlibraries : x.libraries = u.libraryNames)
    (hclauses : x.clauses = u.useClauses) :
    ReadAs x.library x.file n u
      ((x.opened u.heading (u.body ++ [u.endLine])).close (n + u.lines.length)) := by
  have hmine := Instance.mine_map (Token.faithful_renumber (· + x.lineCount))
    (Lexer.tokenizeLines u.span)
  rw [Written.Unit.span, ← Lexer.tokenize_append_tokenizeFrom, ← Written.Unit.span] at hmine
  rw [opened, opening_heading, hlibraries, hclauses]
  exact {
    kind := hmine ▸ kind_close rfl _
    name := rfl
    library := rfl
    file := rfl
    beginLine := congrArg (· + 1) hcount
    endLine := rfl
    libraries := rfl
    uses := UseTable.lists_ofClauses _ _ }

/-- A written unit is read as it is written, and nothing is left behind by it. -/
theorem feed_unit (hx : x.Resting) (u : Written.Unit) :
    (u.lines.foldl feed x).Resting ∧
      ∃ d, (u.lines.foldl feed x).units = x.units ++ [d] ∧
        ReadAs x.library x.file x.lineCount u d := by
  have hy := feed_context hx.current u.context
  rw [hx.libraries, hx.clauses, List.nil_append, List.nil_append] at hy
  rw [Written.Unit.lines, List.foldl_append, hy, Written.Unit.span, List.foldl_cons]
  set y : Extractor := { x with
    lineCount := x.lineCount + u.context.length
    libraries := u.context.flatMap fun c => c.meaning.libraryNames
    clauses := u.context.flatMap fun c => c.meaning.useClauses }
  have hcurrent : y.current = none := hx.current
  have hopens := opens_heading hcurrent u.heading
  have hopen : ∀ k < (u.body ++ [u.endLine]).length,
      (y.opened u.heading ((u.body ++ [u.endLine]).take k)).isClosed = false := by
    intro k hk
    have hle : k ≤ u.body.length := by
      rw [List.length_append, List.length_singleton] at hk
      omega
    rw [List.take_append_of_le_length hle, Bool.eq_false_iff]
    exact fun hclosed => u.not_endsIn hle ((isClosed_opened y u.heading _).mp hclosed)
  have hclosed : (y.opened u.heading (u.body ++ [u.endLine])).isClosed = true :=
    (isClosed_opened y u.heading _).mpr u.endsIn_span
  obtain ⟨hrest, hunits⟩ :=
    (Receives.opened hopens).run_closed rfl (u.body ++ [u.endLine]) hopen hclosed
  have hlast : y.lineCount + 1 + (u.body ++ [u.endLine]).length = x.lineCount + u.lines.length := by
    simp only [y, Written.Unit.lines, Written.Unit.span, List.length_append, List.length_map,
      List.length_cons]
    omega
  rw [hlast] at hunits
  exact ⟨hrest, _, hunits, readAs_close y x.lineCount u rfl rfl rfl⟩

/-- Written units are read in order. -/
theorem feed_units (hx : x.Resting) (us : List Written.Unit) :
    ((us.flatMap Written.Unit.lines).foldl feed x).Resting ∧
      ∃ ds, ((us.flatMap Written.Unit.lines).foldl feed x).units = x.units ++ ds ∧
        ReadInOrder x.library x.file x.lineCount us ds := by
  induction us generalizing x with
  | nil => exact ⟨hx, [], (List.append_nil _).symm, .nil _⟩
  | cons u us ih =>
    obtain ⟨hrest, d, hunits, hd⟩ := feed_unit hx u
    obtain ⟨hrest', ds, hunits', hds⟩ := ih hrest
    rw [library_foldl_feed, file_foldl_feed, lineCount_foldl_feed] at hds
    rw [List.flatMap_cons, List.foldl_append]
    refine ⟨hrest', d :: ds, ?_, .cons hd hds⟩
    rw [hunits', hunits, List.append_assoc, List.singleton_append]

/-- A carriage return at the end of a line makes no difference. -/
theorem feed_dropReturn (x : Extractor) (line : String) :
    x.feed (String.ofList (Text.dropReturn line.toList)) = x.feed line := by
  simp only [feed, Lexer.tokenize, String.toList_ofList, Lexer.code_dropReturn]

end Extractor

/-- The units in the text that some lines make up are those in the lines. -/
theorem extract_eq_extractLines {lines : List String} (h : ∀ line ∈ lines, '\n' ∉ line.toList)
    (file library : String) :
    extract (String.ofList (lines.flatMap fun line => line.toList ++ ['\n'])) file library =
      extractLines lines file library := by
  have hlines : Text.lines (lines.flatMap fun line => line.toList ++ ['\n']) =
      (lines.map String.toList).map Text.dropReturn := by
    rw [← Text.lines_flatMap, List.flatMap_map]
    simpa using h
  rw [extract, String.toList_ofList, hlines, extractLines, extractLines, List.map_map,
    List.map_map, List.foldl_map]
  simp only [Function.comp_apply, feed_dropReturn]

/-- Reading undoes printing: the units that are printed, and no others, are found in their
order, none of them left open. -/
theorem extract_print (us : List Written.Unit) (file library : String) :
    ∃ ds, extract (print us) file library = ⟨ds, none⟩ ∧
      ReadInOrder (Text.upper library) file 0 us ds := by
  have hsingle : ∀ line ∈ us.flatMap Written.Unit.lines, '\n' ∉ line.toList := by
    intro line hline
    obtain ⟨u, -, hu⟩ := List.mem_flatMap.mp hline
    exact u.not_mem_lines line hu
  have hstart : (start file library).Resting := ⟨rfl, rfl, rfl⟩
  obtain ⟨hrest, ds, hunits, hds⟩ := feed_units hstart us
  refine ⟨ds, ?_, hds⟩
  rw [print, extract_eq_extractLines hsingle, extractLines, finish, hrest.current, hunits]
  rfl

namespace Printed

/-- A name. -/
def top : Name := ⟨"top", by decide +kernel⟩

/-- Another name. -/
def rtl : Name := ⟨"rtl", by decide +kernel⟩

/-- An architecture whose body holds a clause, a header and an end. -/
def nested : Written.Unit where
  context := [.library top [rtl], .use (.everything rtl top) [.library top]]
  heading := .architecture rtl top
  body := ["use work.p.all; entity e is", "end e; -- end rtl;"]
  form := [.word .ARCHITECTURE, .name]
  closing := ⟨"RTL", by decide +kernel⟩
  single := by decide +kernel
  accepted := by decide
  closes := by decide
  stays_open := by decide +kernel

example : nested.lines =
    ["LIBRARY top,rtl;", "USE rtl.top.ALL,top.ALL;", "ARCHITECTURE rtl OF top IS",
      "use work.p.all; entity e is", "end e; -- end rtl;", "END ARCHITECTURE RTL;"] := by
  decide +kernel

end Printed

end CompileOrder
