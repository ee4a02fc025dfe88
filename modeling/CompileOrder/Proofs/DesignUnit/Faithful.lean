import CompileOrder.DesignUnit.Extractor
import CompileOrder.Proofs.Text.Split

/-!
# What the readers of tokens see

Clauses, headers, ends and instances are read off the symbols and the canonical names of
tokens; the number of a line and the case of a spelling play no part. So a change of
tokens that keeps symbol and name of each commutes with every reader.
-/

namespace CompileOrder

/-- A change of tokens that keeps the symbol and the canonical name of each. -/
structure Token.Faithful (g : Token → Token) : Prop where
  /-- The symbol is kept. -/
  symbol : ∀ t, (g t).symbol = t.symbol
  /-- The canonical name is kept. -/
  name : ∀ t, (g t).name = t.name

namespace Token.Faithful

variable {g : Token → Token} (hg : Faithful g)
include hg

theorem isKeyword (k : Keyword) (t : Token) : (g t).isKeyword k = t.isKeyword k := by
  simp only [Token.isKeyword, hg.symbol]

theorem isIdentifier (t : Token) : (g t).isIdentifier = t.isIdentifier := by
  simp only [Token.isIdentifier, hg.symbol]

theorem isDelimiter (c : Char) (t : Token) : (g t).isDelimiter c = t.isDelimiter c := by
  simp only [Token.isDelimiter, hg.symbol]

end Token.Faithful

section
variable {g : Token → Token} (hg : Token.Faithful g)
include hg

namespace Clause

theorem items?_map (ts : List Token) :
    items? (ts.map g) = (items? ts).map fun x => (x.1.map (List.map g), x.2) := by
  have hbody : (ts.map g).takeWhile (fun t => !t.isDelimiter ';') =
      (ts.takeWhile fun t => !t.isDelimiter ';').map g := by
    simp only [List.takeWhile_map, Function.comp_def, hg.isDelimiter]
  simp only [items?, hbody, List.length_map, Text.splitAt_map (hg.isDelimiter ',')]
  split <;> rfl

theorem libraryName?_map (item : List Token) : libraryName? (item.map g) = libraryName? item := by
  match item with
  | [] | _ :: _ :: _ => rfl
  | [t] => simp only [List.map_cons, List.map_nil, libraryName?, hg.isIdentifier, hg.name]

theorem selectedName?_map (item : List Token) :
    selectedName? (item.map g) = selectedName? item := by
  match item with
  | [_, _, _] | [_, _, _, _, _] =>
    simp [selectedName?, isSuffix, hg.isIdentifier, hg.isDelimiter, hg.isKeyword, hg.name]
  | [] | [_] | [_, _] | [_, _, _, _] | _ :: _ :: _ :: _ :: _ :: _ :: _ => rfl

theorem read?_map (word : Token) (ts : List Token) :
    read? (g word) (ts.map g) = read? word ts := by
  simp only [read?, items?_map hg, hg.isKeyword]
  cases items? ts with
  | none => rfl
  | some x =>
    simp only [Option.map_some, Option.bind_eq_bind, Option.bind_some, List.mapM_map,
      Function.comp_def, libraryName?_map hg, selectedName?_map hg]

theorem readAll_map (skip : Nat) (ts : List Token) :
    readAll skip (ts.map g) = ((readAll skip ts).1, (readAll skip ts).2.map g) := by
  induction ts generalizing skip with
  | nil => cases skip <;> rfl
  | cons t ts ih =>
    cases skip with
    | succ skip => exact ih skip
    | zero =>
      simp only [List.map_cons, readAll, read?_map hg]
      cases read? t ts with
      | none => rfl
      | some x => simp only [ih]

end Clause

theorem Header.read?_map (ts : List Token) : Header.read? (ts.map g) = Header.read? ts := by
  have hentity : entity? (ts.map g) = entity? ts := by
    match ts with
    | _ :: _ :: _ :: _ =>
      simp only [List.map_cons, entity?, hg.isKeyword, hg.isIdentifier, hg.name]
    | [] | [_] | [_, _] => rfl
  have harchitecture : architecture? (ts.map g) = architecture? ts := by
    match ts with
    | _ :: _ :: _ :: _ :: _ :: _ =>
      simp only [List.map_cons, architecture?, hg.isKeyword, hg.isIdentifier, hg.name]
    | [] | [_] | [_, _] | [_, _, _] | [_, _, _, _] => rfl
  have hpackage : package? (ts.map g) = package? ts := by
    match ts with
    | _ :: _ :: _ :: _ =>
      simp only [List.map_cons, package?, hg.isKeyword, hg.isIdentifier, hg.name,
        List.head?_map, Option.map_map, Function.comp_def]
    | [] | [_] | [_, _] => rfl
  have hbody : packageBody? (ts.map g) = packageBody? ts := by
    match ts with
    | _ :: _ :: _ :: _ :: _ =>
      simp only [List.map_cons, packageBody?, hg.isKeyword, hg.isIdentifier, hg.name]
    | [] | [_] | [_, _] | [_, _, _] => rfl
  simp only [read?, hentity, harchitecture, hpackage, hbody]

namespace OpenUnit

theorem startsWith_map (ks : List Keyword) (ts : List Token) :
    startsWith ks (ts.map g) = startsWith ks ts := by
  induction ks generalizing ts with
  | nil => rfl
  | cons k ks ih =>
    cases ts with
    | nil => rfl
    | cons t ts => simp only [List.map_cons, startsWith, hg.isKeyword, ih]

theorem isClosingName_map (o : OpenUnit) (ts : List Token) :
    o.isClosingName (ts.map g) = o.isClosingName ts := by
  match ts with
  | [] | _ :: _ :: _ => rfl
  | [t] => simp only [List.map_cons, List.map_nil, isClosingName, hg.isIdentifier, hg.name]

theorem acceptsEnd_map (o : OpenUnit) (words : List Token) :
    o.acceptsEnd (words.map g) = o.acceptsEnd words := by
  simp only [acceptsEnd, ← List.map_drop, List.isEmpty_map, isClosingName_map hg,
    startsWith_map hg]

theorem hasEnd_map (o : OpenUnit) (ts : List Token) : o.hasEnd (ts.map g) = o.hasEnd ts := by
  induction ts with
  | nil => rfl
  | cons t ts ih => simp only [List.map_cons, hasEnd, hg.isKeyword, acceptsEnd_map hg, ih]

end OpenUnit

namespace Shape

theorem nameOf_map (s : Shape) (p : Part) (ts : List Token) :
    s.nameOf p (ts.map g) = s.nameOf p ts := by
  simp only [nameOf, List.zip_map_right, List.find?_map, Option.map_map, Function.comp_def,
    Prod.map, id, hg.name]

theorem build_map (s : Shape) (ts : List Token) : s.build (ts.map g) = s.build ts := by
  simp only [build, nameOf_map hg]

theorem fits_map (s : Shape) (ts : List Token) : s.fits (ts.map g) = s.fits ts := by
  have hpart : ∀ (p : Part) (t : Token), p.fits (g t) = p.fits t := by
    intro p t
    cases p <;> simp only [Part.fits, hg.isKeyword, hg.isDelimiter, hg.isIdentifier]
  simp only [fits, List.length_map, List.zip_map_right, List.all_map, Function.comp_def,
    Prod.map, id, hpart]

theorem read?_map (s : Shape) (header : List Token) :
    s.read? (header.map g) = s.read? header := by
  have htail : s.tail (header.map g) = (s.tail header).map g := by
    simp only [tail, List.length_map, List.map_drop]
  simp only [read?, htail, fits_map hg, build_map hg]

end Shape

namespace Instance

theorem opensMap_map (ts : List Token) : opensMap (ts.map g) = opensMap ts := by
  match ts with
  | _ :: _ :: _ :: _ => simp only [List.map_cons, opensMap, hg.isKeyword, hg.isDelimiter]
  | [] | [_] | [_, _] => rfl

theorem mineFrom_map (before ts : List Token) :
    mineFrom (before.map g) (ts.map g) = mineFrom before ts := by
  induction ts generalizing before with
  | nil => rfl
  | cons t ts ih =>
    have hmap : opensMap (g t :: ts.map g) = opensMap (t :: ts) := opensMap_map hg (t :: ts)
    have hrest : mineFrom (g t :: before.map g) (ts.map g) = mineFrom (t :: before) ts :=
      ih (t :: before)
    simp only [List.map_cons, mineFrom, hmap, hrest, ofHeader?, ← List.map_take,
      ← List.map_reverse, Shape.read?_map hg]

theorem mine_map (ts : List Token) : mine (ts.map g) = mine ts := mineFrom_map hg [] ts

end Instance

end

end CompileOrder
