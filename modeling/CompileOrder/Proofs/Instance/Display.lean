import CompileOrder.Proofs.Instance.Statements
import CompileOrder.Proofs.Token.Case
import CompileOrder.Proofs.Token.Lexemes

/-!
# Displayed instances

The names of an instance come from identifiers of the source. In upper case these are still
words, and still no reserved words. So an instance is displayed as a text that is lexed as a
header which describes the same instance, and before a map clause that header is found.
-/

namespace CompileOrder

/-- The text is an identifier in upper case. -/
structure IsShownName (s : String) : Prop where
  /-- It is in upper case. -/
  upper : Text.upper s = s
  /-- It is a word. -/
  isWord : Lexer.IsWord s.toList
  /-- The word is not reserved. -/
  wordSymbol : Lexer.wordSymbol s.toList = .identifier

/-- A word in upper case is a word. -/
theorem Lexer.IsWord.map_toUpper {word : List Char} (h : IsWord word) :
    IsWord (word.map Char.toUpper) := by
  cases word with
  | nil => exact h
  | cons c cs =>
    obtain ⟨hc, hcs⟩ := isWord_cons_iff.mp h
    exact isWord_cons_iff.mpr ⟨by simpa using hc, by simpa using hcs⟩

/-- The name of an identifier on a line is shown as it is. -/
theorem isShownName_name {line : String} {n : Nat} {t : Token}
    (ht : t ∈ Lexer.tokenize line n) (hsymbol : t.symbol = .identifier) : IsShownName t.name := by
  obtain ⟨hword, hfree⟩ := Lexer.isWord_of_mem_scan ht hsymbol
  refine ⟨Text.upper_upper t.text, ?_, ?_⟩
  · rw [Token.name, Text.toList_upper]
    exact hword.map_toUpper
  · rw [Token.name, Text.toList_upper, Lexer.wordSymbol_toUpper, hfree]

theorem IsShownName.hyphen_not_mem {s : String} (h : IsShownName s) : '-' ∉ s.toList :=
  fun hmem => absurd (h.isWord.isWordChar hmem) (by decide)

/-- All parts of the instance are names as they are shown. -/
structure Instance.Named (i : Instance) : Prop where
  /-- The label is. -/
  label : IsShownName i.label
  /-- The library is, if there is one. -/
  library : ∀ l, i.library = some l → IsShownName l
  /-- The entity or component is. -/
  target : IsShownName i.target.name
  /-- The architecture is, if there is one. -/
  architecture : ∀ a, i.target.architecture = some a → IsShownName a

section
variable {s : Shape} {ts : List Token} {i : Instance}

/-- A named part of a fitting header is the name of one of its identifiers. -/
theorem Shape.isShownName_of_nameOf
    (hts : ∀ t ∈ ts, t.symbol = .identifier → IsShownName t.name) (hfits : s.fits ts = true)
    {p : Part} (hp : p.symbol = .identifier) {n : String} (h : s.nameOf p ts = some n) :
    IsShownName n := by
  obtain ⟨⟨q, t⟩, hfind, rfl⟩ := Option.map_eq_some_iff.mp h
  have hpart := List.find?_some hfind
  obtain rfl : q = p := beq_iff_eq.mp hpart
  have hmem := List.mem_of_find?_eq_some hfind
  have hfit : q.fits t = true :=
    List.all_eq_true.mp (Bool.and_eq_true_iff.mp hfits).2 (q, t) hmem
  exact hts t (List.of_mem_zip hmem).2 (((q.fits_iff t).mp hfit).trans hp)

theorem Shape.named_of_build (hts : ∀ t ∈ ts, t.symbol = .identifier → IsShownName t.name)
    (hfits : s.fits ts = true) (h : s.build ts = some i) : i.Named := by
  have hname {p : Part} (hp : p.symbol = .identifier) {n : String} (hn : s.nameOf p ts = some n) :
      IsShownName n := isShownName_of_nameOf hts hfits hp hn
  rw [build] at h
  obtain ⟨label, hlabel, h⟩ := Option.bind_eq_some_iff.mp h
  obtain ⟨name, htarget, h⟩ := Option.bind_eq_some_iff.mp h
  cases h
  refine ⟨hname rfl hlabel, fun l hl => hname rfl hl, ?_, ?_⟩
  · split <;> exact hname rfl htarget
  · intro a ha
    split at ha
    · exact hname rfl ha
    · cases ha

/-- The instances found in the lines of a file have names as they are shown. -/
theorem Instance.named_of_mem_mine {lines : List String}
    (hi : i ∈ mine (Lexer.tokenizeLines lines)) : i.Named := by
  obtain ⟨s, header, hfits, hbuild, hheader⟩ := exists_header_of_mem_mine hi
  refine Shape.named_of_build (fun t ht hsymbol => ?_) hfits hbuild
  obtain ⟨⟨line, number⟩, -, hline⟩ := List.mem_flatMap.mp (hheader t ht)
  exact isShownName_name hline hsymbol

end

namespace Lexer

open Text

variable {rest : List Char} (n : Nat)

/-- A shown name is one token where no character follows that could be part of it. -/
theorem scan_name {s : String} (h : IsShownName s)
    (hrest : ∀ d ∈ rest.head?, isWordChar d = false) :
    scan n 0 (s.toList ++ rest) = ⟨.identifier, s, n⟩ :: scan n 0 rest := by
  rw [scan_word h.isWord hrest, h.wordSymbol, tokenText, String.ofList_toList]
  simp

end Lexer

/-- The reserved word that introduces the target. -/
def Target.keyword : Target → Keyword
  | .entity _ _ => .ENTITY
  | .component _ => .COMPONENT

namespace Instance

variable {rest : List Char} (n : Nat)

/-- The tokens of the library and the point behind it. -/
def qualifierTokens : Option String → List Token
  | none => []
  | some l => [⟨.identifier, l, n⟩, ⟨.delimiter '.', ".", n⟩]

/-- The tokens of the architecture in parentheses. -/
def choiceTokens : Option String → List Token
  | none => []
  | some a => [⟨.delimiter '(', "(", n⟩, ⟨.identifier, a, n⟩, ⟨.delimiter ')', ")", n⟩]

/-- The tokens of the instance as it is displayed. -/
def displayTokens (i : Instance) : List Token :=
  ⟨.identifier, i.label, n⟩ :: ⟨.delimiter ':', ":", n⟩ ::
    ⟨.keyword i.target.keyword, i.target.keyword.spelling, n⟩ ::
      (qualifierTokens n i.library ++
        ⟨.identifier, i.target.name, n⟩ :: choiceTokens n i.target.architecture)

theorem scan_qualifier {library : Option String} (h : ∀ l, library = some l → IsShownName l) :
    Lexer.scan n 0 ((optionalPart "" "." library).toList ++ rest) =
      qualifierTokens n library ++ Lexer.scan n 0 rest := by
  cases library with
  | none => rfl
  | some l =>
    have hchars : (optionalPart "" "." (some l)).toList ++ rest = l.toList ++ '.' :: rest := by
      simp [optionalPart]
    rw [hchars, Lexer.scan_name n (h l rfl) (by simp; decide),
      Lexer.scan_delimiter n (by decide) rfl]
    rfl

theorem scan_choice {architecture : Option String}
    (h : ∀ a, architecture = some a → IsShownName a) :
    Lexer.scan n 0 ((optionalPart "(" ")" architecture).toList ++ rest) =
      choiceTokens n architecture ++ Lexer.scan n 0 rest := by
  cases architecture with
  | none => rfl
  | some a =>
    have hchars : (optionalPart "(" ")" (some a)).toList ++ rest =
        '(' :: (a.toList ++ ')' :: rest) := by
      simp [optionalPart]
    rw [hchars, Lexer.scan_delimiter n (by decide) rfl,
      Lexer.scan_name n (h a rfl) (by simp; decide), Lexer.scan_delimiter n (by decide) rfl]
    rfl

/-- The word of a target is the reserved word that introduces it. -/
theorem scan_targetWord (t : Target) :
    Lexer.scan n 0 (t.word.toList ++ ' ' :: rest) =
      ⟨.keyword t.keyword, t.keyword.spelling, n⟩ :: Lexer.scan n 0 rest := by
  have hword : Lexer.IsWord t.word.toList ∧
      Lexer.wordSymbol t.word.toList = .keyword t.keyword := by
    have hentity : Lexer.IsWord "entity".toList ∧
        Lexer.wordSymbol "entity".toList = .keyword .ENTITY := by decide +kernel
    have hcomponent : Lexer.IsWord "component".toList ∧
        Lexer.wordSymbol "component".toList = .keyword .COMPONENT := by decide +kernel
    cases t with
    | entity => exact hentity
    | component => exact hcomponent
  rw [Lexer.scan_word hword.1 (by simp; decide), hword.2, Lexer.tokenText, Lexer.scan_space]

/-- A displayed instance is lexed word by word and mark by mark. -/
theorem scan_display {i : Instance} (h : i.Named) :
    Lexer.scan n 0 (i.display.toList ++ ' ' :: rest) =
      displayTokens n i ++ Lexer.scan n 0 rest := by
  have hchars : i.display.toList ++ ' ' :: rest =
      i.label.toList ++ ' ' :: ':' :: ' ' :: (i.target.word.toList ++ ' ' ::
        ((optionalPart "" "." i.library).toList ++ (i.target.name.toList ++
          ((optionalPart "(" ")" i.target.architecture).toList ++ ' ' :: rest)))) := by
    simp [display]
  have hchoice : ∀ d ∈ ((optionalPart "(" ")" i.target.architecture).toList ++ ' ' :: rest).head?,
      Text.isWordChar d = false := by
    cases i.target.architecture <;> simp [optionalPart] <;> decide
  rw [hchars, Lexer.scan_name n h.label (by simp; decide), Lexer.scan_space,
    Lexer.scan_delimiter n (by decide) rfl, Lexer.scan_space, scan_targetWord,
    scan_qualifier n h.library, Lexer.scan_name n h.target hchoice,
    scan_choice n h.architecture, Lexer.scan_space]
  simp [displayTokens]

/-- A shown name is the canonical name of its token. -/
theorem name_identifier {s : String} (h : IsShownName s) : Token.name ⟨.identifier, s, n⟩ = s :=
  h.upper

/-- These tokens are a header that describes the instance. -/
theorem describes_displayTokens {i : Instance} (h : i.Named) :
    Describes (displayTokens n i) i := by
  obtain ⟨label, library, target⟩ := i
  have hlabel : Token.name ⟨.identifier, label, n⟩ = label := name_identifier n h.label
  have hqualifier : Qualifier (qualifierTokens n library) library := by
    cases library with
    | none => exact .none
    | some l =>
      have hlibrary : Qualifier (qualifierTokens n (some l))
          (some (Token.name ⟨.identifier, l, n⟩)) := .library rfl rfl
      rwa [name_identifier n (h.library l rfl)] at hlibrary
  cases target with
  | entity name architecture =>
    have hname : Token.name ⟨.identifier, name, n⟩ = name := name_identifier n h.target
    have hchoice : Choice (choiceTokens n architecture) architecture := by
      cases architecture with
      | none => exact .none
      | some a =>
        have hchosen : Choice (choiceTokens n (some a))
            (some (Token.name ⟨.identifier, a, n⟩)) := .architecture rfl rfl rfl
        rwa [name_identifier n (h.architecture a rfl)] at hchosen
    have hentity : Describes (displayTokens n ⟨label, library, .entity name architecture⟩)
        ⟨Token.name ⟨.identifier, label, n⟩, library,
          .entity (Token.name ⟨.identifier, name, n⟩) architecture⟩ :=
      .entity rfl rfl rfl hqualifier rfl hchoice
    rwa [hlabel, hname] at hentity
  | component name =>
    have hname : Token.name ⟨.identifier, name, n⟩ = name := name_identifier n h.target
    have hcomponent : Describes (displayTokens n ⟨label, library, .component name⟩)
        ⟨Token.name ⟨.identifier, label, n⟩, library,
          .component (Token.name ⟨.identifier, name, n⟩)⟩ :=
      .component rfl rfl rfl hqualifier rfl
    rwa [hlabel, hname] at hcomponent

/-- A header right before the beginning of a port map is found, and nothing else. -/
theorem mine_append_portMap {header : List Token} {i : Instance} (h : Describes header i)
    {port map left : Token} (hport : port.symbol = .keyword .PORT)
    (hmap : map.symbol = .keyword .MAP) (hleft : left.symbol = .delimiter '(') :
    mine (header ++ [port, map, left]) = [i] := by
  obtain ⟨shape, hshape, hsymbols, hbuild⟩ := h.exists_shape
  have hfound : ofHeader? header = some i := by
    simpa using ofHeader?_append hshape hsymbols hbuild []
  have hstarts : StartsMapFree [port, map, left] := by
    rintro t ⟨⟩
    rw [hport]
    decide
  have hopens : opensMap [port, map, left] = true := by
    simp [opensMap, Token.isKeyword, Token.isDelimiter, hport, hmap, hleft]
  rw [mine, mineFrom_append h.mapFree hstarts, mineFrom, if_pos hopens, ofHeader?_window,
    List.append_nil, List.reverse_reverse, hfound]
  rfl

/-- No comment begins in the text of a displayed instance. -/
theorem hyphen_not_mem_display {i : Instance} (h : i.Named) : '-' ∉ i.display.toList := by
  have hword : '-' ∉ i.target.word.toList := by
    cases i.target <;> simp [Target.word]
  have hlibrary : '-' ∉ (optionalPart "" "." i.library).toList := by
    cases hlibrary : i.library with
    | none => exact List.not_mem_nil
    | some l => simp [optionalPart, (h.library l hlibrary).hyphen_not_mem]
  have harchitecture : '-' ∉ (optionalPart "(" ")" i.target.architecture).toList := by
    cases harchitecture : i.target.architecture with
    | none => exact List.not_mem_nil
    | some a => simp [optionalPart, (h.architecture a harchitecture).hyphen_not_mem]
  simp [display, h.label.hyphen_not_mem, h.target.hyphen_not_mem, *]

/-- An instance found in the lines of a file is displayed as a text in which, before a port
map, the same instance is found, and no other. -/
theorem mine_display (lines : List String) (number : Nat) {i : Instance}
    (hi : i ∈ mine (Lexer.tokenizeLines lines)) :
    mine (Lexer.tokenize (i.display ++ " port map (") number) = [i] := by
  have hnamed := named_of_mem_mine hi
  have hplain : '-' ∉ (i.display ++ " port map (").toList := by
    rw [String.toList_append]
    exact List.not_mem_append (hyphen_not_mem_display hnamed) (by decide)
  have htokens : Lexer.tokenize (i.display ++ " port map (") number =
      displayTokens number i ++
        [⟨.keyword .PORT, "PORT", number⟩, ⟨.keyword .MAP, "MAP", number⟩,
          ⟨.delimiter '(', "(", number⟩] := by
    rw [Lexer.tokenize_eq_scan, Lexer.beforeComment_eq_self hplain, String.toList_append]
    exact scan_display number hnamed
  rw [htokens]
  exact mine_append_portMap (describes_displayTokens number hnamed) rfl rfl rfl

/-- A component selected from a package, under a label with a letter outside ASCII; its map
clause stands on the next line. -/
theorem mine_display_selected :
    ⟨"Ü1", some "IEEE", .component "ADDER"⟩ ∈
        mine (Lexer.tokenizeLines ["Ü1 : ieee.prims.Adder", "generic map (8)"]) ∧
      mine (Lexer.tokenize ("Ü1 : component IEEE.ADDER" ++ " port map (") 2) =
        [⟨"Ü1", some "IEEE", .component "ADDER"⟩] := by
  have hfound : ⟨"Ü1", some "IEEE", .component "ADDER"⟩ ∈
      mine (Lexer.tokenizeLines ["Ü1 : ieee.prims.Adder", "generic map (8)"]) := by
    decide +kernel
  have hdisplay : Instance.display ⟨"Ü1", some "IEEE", .component "ADDER"⟩ =
      "Ü1 : component IEEE.ADDER" := by
    decide +kernel
  exact ⟨hfound, hdisplay ▸ mine_display _ 2 hfound⟩

end Instance

end CompileOrder
