import CompileOrder.Template
import Mathlib.Data.List.Infix

/-!
# Templates in a single pass

A template is filled in by one replacement after the other, each over the whole text that the
last one left. Names that hold no brace and no number sign, and some character that no place is
spelled with, cannot be told from this: no place begins or ends inside such a name, and none
reaches over one. So the replacements find just the places that a single scan of the template
finds, which copies everything else and never looks at what it has put in.
-/

namespace CompileOrder.Template

/-- A scan that first passes over `skip` characters of the place before. -/
def scanFrom (places : List (List Char × List Char)) : Nat → List Char → List Char
  | _, [] => []
  | skip + 1, _ :: cs => scanFrom places skip cs
  | 0, c :: cs =>
    match places.find? fun place => place.1.isPrefixOf (c :: cs) with
    | some place => place.2 ++ scanFrom places (place.1.length - 1) cs
    | none => c :: scanFrom places 0 cs

/-- The text with every place, found in one scan from the left, replaced by what it stands for
and everything else copied. -/
def scan (places : List (List Char × List Char)) (text : List Char) : List Char :=
  scanFrom places 0 text

section

variable {places : List (List Char × List Char)} {place : List Char × List Char}

theorem scanFrom_eq_scan_drop (skip : Nat) (text : List Char) :
    scanFrom places skip text = scan places (text.drop skip) := by
  induction text generalizing skip with
  | nil => cases skip <;> rfl
  | cons c cs ih =>
    cases skip with
    | zero => rfl
    | succ skip => exact ih skip

/-- Where no place begins, a character is copied. -/
theorem scan_copy {c : Char} {cs : List Char}
    (h : ∀ place ∈ places, ¬ place.1 <+: c :: cs) :
    scan places (c :: cs) = c :: scan places cs := by
  have hnone : (places.find? fun place => place.1.isPrefixOf (c :: cs)) = none := by
    rw [List.find?_eq_none]
    exact fun place hplace hbegins => h place hplace (List.isPrefixOf_iff_prefix.mp hbegins)
  rw [scan, scanFrom, hnone]
  rfl

/-- No place begins another one. -/
def PrefixFree (places : List (List Char × List Char)) : Prop :=
  ∀ a ∈ places, ∀ b ∈ places, a.1 <+: b.1 → a = b

/-- Where a place begins it is replaced, and the scan goes on behind it. -/
theorem scan_place (hfree : PrefixFree places) (hplace : place ∈ places) (hne : place.1 ≠ [])
    (rest : List Char) : scan places (place.1 ++ rest) = place.2 ++ scan places rest := by
  have hfound : (places.find? fun p => p.1.isPrefixOf (place.1 ++ rest)) = some place := by
    have hsome : (places.find? fun p => p.1.isPrefixOf (place.1 ++ rest)).isSome = true :=
      List.find?_isSome.mpr ⟨place, hplace, by simp⟩
    obtain ⟨other, hother⟩ := Option.isSome_iff_exists.mp hsome
    have hmem := List.mem_of_find?_eq_some hother
    have hbegins := List.find?_some hother
    have hprefix := List.isPrefixOf_iff_prefix.mp hbegins
    rcases List.prefix_or_prefix_of_prefix hprefix (List.prefix_append _ rest) with h | h
    · rw [hother, hfree other hmem place hplace h]
    · rw [hother, hfree place hplace other hmem h]
  cases hspelling : place.1 with
  | nil => exact absurd hspelling hne
  | cons c cs =>
    rw [hspelling] at hfound
    have hdrop : (cs ++ rest).drop ((c :: cs).length - 1) = rest := by simp
    rw [List.cons_append] at hfound ⊢
    rw [scan, scanFrom, hfound]
    simp only [hspelling, scanFrom_eq_scan_drop, hdrop]

/-- No occurrence of `pattern` begins in `passage`, whatever follows it. -/
def Apart (pattern passage : List Char) : Prop :=
  ∀ last ∈ passage.tails, last ≠ [] → ¬ pattern <+: last ∧ ¬ last <+: pattern

instance (pattern passage : List Char) : Decidable (Apart pattern passage) :=
  inferInstanceAs (Decidable (∀ last ∈ passage.tails, last ≠ [] → _ ∧ _))

/-- A passage in which no place begins is copied. -/
theorem scan_apart {passage : List Char} (h : ∀ place ∈ places, Apart place.1 passage)
    (rest : List Char) : scan places (passage ++ rest) = passage ++ scan places rest := by
  induction passage with
  | nil => rfl
  | cons c cs ih =>
    have hbegins : ∀ place ∈ places, ¬ place.1 <+: c :: (cs ++ rest) := by
      intro place hplace hprefix
      obtain ⟨hshort, hlong⟩ := h place hplace (c :: cs) (by simp) (by simp)
      rcases List.prefix_or_prefix_of_prefix hprefix (List.prefix_append (c :: cs) rest) with h | h
      · exact hshort h
      · exact hlong h
    rw [List.cons_append, scan_copy hbegins, List.cons_append, ih]
    intro place hplace last hlast
    exact h place hplace last (by simp [hlast])

/-- A text is empty, begins with a place, or begins with a character that is copied. -/
theorem scan_cases (places : List (List Char × List Char)) (text : List Char) :
    text = [] ∨ (∃ place ∈ places, ∃ rest, text = place.1 ++ rest) ∨
      ∃ c cs, text = c :: cs ∧ ∀ place ∈ places, ¬ place.1 <+: c :: cs := by
  cases text with
  | nil => exact Or.inl rfl
  | cons c cs =>
    by_cases h : ∃ place ∈ places, place.1 <+: c :: cs
    · obtain ⟨place, hplace, rest, hrest⟩ := h
      exact Or.inr (Or.inl ⟨place, hplace, rest, hrest.symm⟩)
    · push Not at h
      exact Or.inr (Or.inr ⟨c, cs, rfl, h⟩)

end

section

variable {pattern value later : List Char} {places : List (List Char × List Char)}

theorem prefixFree_singleton (place : List Char × List Char) : PrefixFree [place] := by
  intro a ha b hb _
  rw [List.mem_singleton.mp ha, List.mem_singleton.mp hb]

/-- Replacing one pattern is a scan for one place. -/
theorem replaceAll_eq_scan (pattern value text : List Char) :
    Text.replaceAll pattern value text = scan [(pattern, value)] text := by
  rw [Text.replaceAll, scan]
  generalize 0 = skip
  induction text generalizing skip with
  | nil => cases skip <;> rfl
  | cons c cs ih =>
    cases skip with
    | succ skip => exact ih skip
    | zero =>
      rw [Text.replaceFrom, scanFrom, ih, ih, List.find?_cons]
      cases pattern.isPrefixOf (c :: cs) <;> rfl

/-- What has to hold for a place that is looked for after `pattern` was replaced by `value`. -/
structure Unmixed (pattern value later : List Char) : Prop where
  /-- The pattern does not begin in the later place. -/
  pattern_apart : Apart pattern later
  /-- The later place does not begin in the value. -/
  value_apart : Apart later value
  /-- The later place does not end in the value. -/
  ends_outside : ∀ c ∈ later.getLast?, c ∉ value
  /-- The value does not fit into the later place. -/
  foreign : ∃ c ∈ value, c ∉ later

/-- A later place that begins a text after the replacement began it before: its end stands
outside of every value, so it would have to reach over one. -/
theorem prefix_of_prefix_scan {text : List Char} (hne : pattern ≠ [])
    (hends : ∀ c ∈ later.getLast?, c ∉ value) (hforeign : ∃ c ∈ value, c ∉ later)
    (h : later <+: scan [(pattern, value)] text) : later <+: text := by
  induction later generalizing text with
  | nil => exact List.nil_prefix
  | cons d ds ih =>
    rcases scan_cases [(pattern, value)] text with
      rfl | ⟨place, hplace, rest, rfl⟩ | ⟨c, cs, rfl, hc⟩
    · exact h
    · obtain rfl := List.mem_singleton.mp hplace
      rw [scan_place (prefixFree_singleton _) hplace hne] at h
      rcases List.prefix_or_prefix_of_prefix h (List.prefix_append value _) with hinside | hover
      · have hlast : (d :: ds).getLast? = some ((d :: ds).getLast (by simp)) :=
          List.getLast?_eq_some_getLast (by simp)
        exact absurd (hinside.subset (List.getLast_mem _)) (hends _ hlast)
      · obtain ⟨x, hx, hxlater⟩ := hforeign
        exact absurd (hover.subset hx) hxlater
    · rw [scan_copy hc, List.cons_prefix_cons] at h
      obtain ⟨rfl, hrest⟩ := h
      refine List.cons_prefix_cons.mpr ⟨rfl, ih ?_ ?_ hrest⟩
      · cases ds with
        | nil => simp
        | cons e es => simpa using hends
      · obtain ⟨x, hx, hxlater⟩ := hforeign
        exact ⟨x, hx, fun hmem => hxlater (List.mem_cons_of_mem d hmem)⟩

/-- The replacements of a list of places do not disturb each other. -/
structure Independent (places : List (List Char × List Char)) : Prop where
  /-- No place is empty. -/
  ne_nil : ∀ place ∈ places, place.1 ≠ []
  /-- No replacement mixes with a later place. -/
  unmixed : places.Pairwise fun place later => Unmixed place.1 place.2 later.1

theorem Independent.tail {place : List Char × List Char} (h : Independent (place :: places)) :
    Independent places :=
  ⟨fun later hlater => h.ne_nil later (List.mem_cons_of_mem place hlater),
    (List.pairwise_cons.mp h.unmixed).2⟩

theorem Independent.prefixFree (h : Independent places) : PrefixFree places := by
  induction places with
  | nil => exact fun a ha => nomatch ha
  | cons place places ih =>
    have hapart : ∀ later ∈ places, ¬ place.1 <+: later.1 ∧ ¬ later.1 <+: place.1 := by
      intro later hlater
      have hunmixed := (List.pairwise_cons.mp h.unmixed).1 later hlater
      exact hunmixed.pattern_apart later.1 (by simp) (h.tail.ne_nil later hlater)
    intro a ha b hb hprefix
    rcases List.mem_cons.mp ha with rfl | ha' <;> rcases List.mem_cons.mp hb with rfl | hb'
    · rfl
    · exact absurd hprefix (hapart b hb').1
    · exact absurd hprefix (hapart a ha').2
    · exact ih h.tail a ha' b hb' hprefix

/-- A replacement before a scan is found by the scan itself. -/
theorem scan_scan {place : List Char × List Char} (h : Independent (place :: places))
    (text : List Char) : scan places (scan [place] text) = scan (place :: places) text := by
  obtain ⟨hunmixed, -⟩ := List.pairwise_cons.mp h.unmixed
  have hne := h.ne_nil place List.mem_cons_self
  induction hn : text.length using Nat.strong_induction_on generalizing text with
  | _ n ih =>
    have hrest : ∀ rest : List Char, rest.length < text.length →
        scan places (scan [place] rest) = scan (place :: places) rest :=
      fun rest hlt => ih rest.length (hn ▸ hlt) rest rfl
    rcases scan_cases (place :: places) text with
      rfl | ⟨found, hfound, rest, rfl⟩ | ⟨c, cs, rfl, hc⟩
    · rfl
    · have hfoundNe := h.ne_nil found hfound
      have hshorter : rest.length < (found.1 ++ rest).length := by
        have := List.length_pos_of_ne_nil hfoundNe
        rw [List.length_append]
        omega
      rw [scan_place h.prefixFree hfound hfoundNe, ← hrest rest hshorter]
      rcases List.mem_cons.mp hfound with rfl | hlater
      · rw [scan_place (prefixFree_singleton found) List.mem_cons_self hne,
          scan_apart fun later hlater => (hunmixed later hlater).value_apart]
      · have hapart : ∀ p ∈ [place], Apart p.1 found.1 := by
          intro p hp
          rw [List.mem_singleton.mp hp]
          exact (hunmixed found hlater).pattern_apart
        rw [scan_apart hapart, scan_place h.tail.prefixFree hlater hfoundNe]
    · obtain ⟨hfirst, hlater⟩ := List.forall_mem_cons.mp hc
      have hcopied : scan [place] (c :: cs) = c :: scan [place] cs :=
        scan_copy (List.forall_mem_singleton.mpr hfirst)
      have hnone : ∀ later ∈ places, ¬ later.1 <+: c :: scan [place] cs := by
        intro later hmem hbegins
        have hkept := hunmixed later hmem
        rw [← hcopied] at hbegins
        exact hlater later hmem
          (prefix_of_prefix_scan hne hkept.ends_outside hkept.foreign hbegins)
      rw [hcopied, scan_copy hnone, scan_copy hc, hrest cs (Nat.lt_succ_self _)]

/-- Independent replacements, one after the other, are one scan. -/
theorem foldl_replaceAll (h : Independent places) (text : List Char) :
    places.foldl (fun text place => Text.replaceAll place.1 place.2 text) text =
      scan places text := by
  induction places generalizing text with
  | nil =>
    induction text with
    | nil => rfl
    | cons c cs ih => exact congrArg (c :: ·) ih
  | cons place places ih => rw [List.foldl_cons, ih h.tail, replaceAll_eq_scan, scan_scan h]

end

/-- A name that cannot become a part of a place: it holds no brace and no number sign, and at
least one character other than a small letter of ASCII and the underscore. -/
structure Inert (name : String) : Prop where
  /-- It holds no brace and no number sign. -/
  unmarked : ∀ c ∈ name.toList, c ≠ '\x7b' ∧ c ≠ '\x7d' ∧ c ≠ '#'
  /-- It holds a character that no place is spelled with. -/
  foreign : ∃ c ∈ name.toList, c.isLower = false ∧ c ≠ '_'

/-- The places with their spellings and values as characters. -/
def placeChars (file library : String) : List (List Char × List Char) :=
  (places file library).map fun place => (place.1.toList, place.2.toList)

/-- A text is spelled as places are: a brace or a number sign begins it, a brace ends it, and there
are no other characters than these, small letters of ASCII and underscores. -/
def IsSpelling (text : List Char) : Prop :=
  (text.head? = some '\x7b' ∨ text.head? = some '#') ∧ text.getLast? = some '\x7d' ∧
    text.all fun c => c == '\x7b' || c == '\x7d' || c == '#' || c.isLower || c == '_'

instance : DecidablePred IsSpelling := fun _ => inferInstanceAs (Decidable (_ ∧ _ ∧ _))

/-- No place begins in a name. -/
theorem IsSpelling.apart {text : List Char} (htext : IsSpelling text) {name : String}
    (hname : Inert name) : Apart text name.toList := by
  obtain ⟨hfirst, -, -⟩ := htext
  intro last hlast hne
  cases last with
  | nil => exact absurd rfl hne
  | cons d ds =>
    have hd : d ∈ name.toList := ((List.mem_tails ..).mp hlast).subset List.mem_cons_self
    obtain ⟨hbrace, -, hsharp⟩ := hname.unmarked d hd
    cases text with
    | nil => simp at hfirst
    | cons c cs =>
      have hcd : c ≠ d := by
        rintro rfl
        simp [hbrace, hsharp] at hfirst
      simp [List.cons_prefix_cons, hcd, Ne.symm hcd]

/-- A name put in for one place does not mix with a place that is looked for later. -/
theorem Inert.unmixed {name : String} (hname : Inert name) {pattern later : List Char}
    (hpattern : Apart pattern later) (hlater : IsSpelling later) :
    Unmixed pattern name.toList later where
  pattern_apart := hpattern
  value_apart := hlater.apart hname
  ends_outside := by
    intro c hc hmem
    rw [hlater.2.1] at hc
    exact (hname.unmarked c hmem).2.1 (Option.some.inj hc).symm
  foreign := by
    obtain ⟨c, hc, hlower, hunderscore⟩ := hname.foreign
    obtain ⟨hopen, hclose, hsharp⟩ := hname.unmarked c hc
    refine ⟨c, hc, fun hmem => ?_⟩
    have hspelled := List.all_eq_true.mp hlater.2.2 c hmem
    simp [hopen, hclose, hsharp, hlower, hunderscore] at hspelled

/-- No two spellings of places overlap. -/
theorem pairwise_placeChars (file library : String) :
    (placeChars file library).Pairwise fun place later =>
      Apart place.1 later.1 ∧ IsSpelling later.1 := by
  have hsame : ((placeChars file library).map fun place => place.1) =
      (placeChars "" "").map fun place => place.1 := rfl
  have hspelled : ((placeChars "" "").map fun place => place.1).Pairwise fun spelling later =>
      Apart spelling later ∧ IsSpelling later := by
    decide +kernel
  rw [← hsame] at hspelled
  exact List.pairwise_map.mp hspelled

/-- The places of a template do not disturb each other when inert names are put in. -/
theorem independent_placeChars {file library : String} (hfile : Inert file)
    (hlibrary : Inert library) : Independent (placeChars file library) := by
  have hvalue : ∀ place ∈ placeChars file library, ∃ name, Inert name ∧ place.2 = name.toList := by
    intro place hplace
    simp only [placeChars, places, List.map_cons, List.map_nil, List.mem_cons, List.not_mem_nil,
      or_false] at hplace
    obtain rfl | rfl | rfl | rfl := hplace
    exacts [⟨file, hfile, rfl⟩, ⟨file, hfile, rfl⟩, ⟨library, hlibrary, rfl⟩,
      ⟨library, hlibrary, rfl⟩]
  constructor
  · simp [placeChars, places]
  · refine (pairwise_placeChars file library).imp_of_mem fun hplace _ hplaces => ?_
    obtain ⟨name, hname, hput⟩ := hvalue _ hplace
    rw [hput]
    exact hname.unmixed hplaces.1 hplaces.2

/-- Filling in a template is one scan of it from the left that puts the name of the file and the
name of its library in their places, with a number sign or without, and copies everything else:
what is put in is not scanned again, and no place is made of it and what stands around it. -/
theorem fill_single_pass (template : String) {file library : String} (hfile : Inert file)
    (hlibrary : Inert library) :
    fill template file library = String.ofList (scan
      [("#\x7bfile_name\x7d".toList, file.toList), ("\x7bfile_name\x7d".toList, file.toList),
        ("#\x7blibrary_name\x7d".toList, library.toList),
        ("\x7blibrary_name\x7d".toList, library.toList)] template.toList) := by
  have hscan := foldl_replaceAll (independent_placeChars hfile hlibrary) template.toList
  rw [placeChars, List.foldl_map] at hscan
  rw [fill, hscan]
  rfl

/-- Of a second number sign, of braces around a place and of an unfinished place everything is
copied. -/
theorem fill_between_braces :
    Inert "src/A.vhd" ∧ Inert "WORK" ∧
      fill "##\x7bfile_name\x7d \x7b\x7blibrary_name\x7d\x7d #\x7bfile_name" "src/A.vhd" "WORK" =
        "#src/A.vhd \x7bWORK\x7d #\x7bfile_name" := by
  have hfile : Inert "src/A.vhd" := ⟨by simp, 'A', by simp⟩
  have hlibrary : Inert "WORK" := ⟨by simp, 'W', by simp⟩
  refine ⟨hfile, hlibrary, (fill_single_pass _ hfile hlibrary).trans ?_⟩
  decide +kernel

/-- A name of small letters alone makes a new place together with what stands around it. -/
example : fill "\x7b\x7bfile_name\x7d_name\x7d" "library" "WORK" = "WORK" := by decide +kernel

end CompileOrder.Template
