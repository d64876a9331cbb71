import SceneMarkup.Module.Basic
import SceneMarkup.Proofs.Document.Acceptance
import SceneMarkup.Proofs.Document.WellFormed
import SceneMarkup.Proofs.Text.Margin

/-! # The layout of a module

A module has its parts one below the other: the header, a block for every script that goes into it,
and the scaffold with a comment for every root. Whatever the scripts and the names of the roots are,
they add no line to their parts, and the lines of the text are those that were written.
-/

namespace SceneMarkup

open Text

/-- Parts one below the other, an empty line between them. Below a part that ends with an empty
line, that one is enough. -/
inductive Listing.Spaced : List (List String) → List String → Prop
  | top (line : String) : Spaced [[line]] [line]
  | apart {parts : List (List String)} {lines : List String} (part : List String) :
      Spaced parts lines → lines.getLast? ≠ some "" →
      Spaced (parts ++ [part]) (lines ++ "" :: part)
  | close {parts : List (List String)} {lines : List String} (part : List String) :
      Spaced parts lines → lines.getLast? = some "" → Spaced (parts ++ [part]) (lines ++ part)

/-- Rows that hold a text: the lines of its block, each without the margin. -/
def Listing.Holds (rows : List String) (text : String) : Prop :=
  Outdented text.toList (rows.map String.toList)

/-- The scripts that go into a module: those in JavaScript or TypeScript with more than blanks. -/
def Module.inlined (d : Document) : List Script :=
  d.scripts.filter fun s =>
    ["", "js", "javascript", "ts", "typescript"].contains s.lang &&
      s.source.toList.any fun c => !isBlank c

/-- The lines of a module: the header, the scripts that go into it, and the scaffold. -/
def Module.Laid (d : Document) (lines : List String) : Prop :=
  ∃ blocks : List (List String),
    List.Forall₂ (fun s rows => Listing.Holds rows s.source) (inlined d) blocks ∧
    Listing.Spaced
      (["import * as THREE from 'three';"] :: blocks ++
        ["const scene = new THREE.Scene();" :: d.fragments.map ("// fragment: " ++ ·.name) ++
          ["const renderer = new THREE.WebGLRenderer();",
            "document.getElementById(\"root\").appendChild(renderer.domElement);"]]) lines

variable {source text : String} {path : Option String} {document : Document} {l : Listing}
  {line : String} {lines rows : List String} {parts : List (List String)}

/-! ### Listings -/

namespace Listing

@[simp]
theorem lines_writeLine (l : Listing) (line : String) :
    (l.writeLine line).lines = l.lines ++ [line] := rfl

@[simp]
theorem lines_foldl_writeLine {α : Type} (f : α → String) (xs : List α) (l : Listing) :
    (xs.foldl (fun l x => l.writeLine (f x)) l).lines = l.lines ++ xs.map f := by
  induction xs generalizing l with
  | nil => simp
  | cons x xs ih => simp [ih]

theorem exists_lines_writeBlock (l : Listing)
    (h : ∃ c ∈ text.toList, c ∉ [' ', '\t', '\n']) :
    ∃ rows, (l.writeBlock text).lines = l.lines ++ rows ∧ Holds rows text := by
  obtain ⟨c, hc, hn⟩ := h
  simp only [List.mem_cons, List.not_mem_nil, or_false, not_or] at hn
  refine ⟨_, rfl, ?_⟩
  unfold Holds
  have hid : String.toList ∘ String.ofList = id := funext fun _ => String.toList_ofList
  rw [List.map_map, hid, List.map_id]
  exact outdented_blockLines (exists_line_of_mem hc hn.2.2 (by simp [isIndent, hn]))

theorem Holds.no_blank_end (h : Holds rows text) :
    ∀ row ∈ rows, '\n' ∉ row.toList ∧ ∀ c ∈ row.toList.getLast?, isBlank c = false :=
  List.forall_mem_map.mp (Outdented.no_blank_end h)

theorem code_eq_intercalate (h : l.lines ≠ []) : l.code = "\n".intercalate (l.lines ++ [""]) := by
  rw [String.intercalate_append_of_ne_nil h (by simp), String.intercalate_singleton,
    String.append_empty, code]

theorem lines_code (hn : l.lines ≠ []) (h : ∀ line ∈ l.lines, '\n' ∉ line.toList) :
    Text.lines l.code.toList = l.lines.map String.toList ++ [[]] := by
  rw [code_eq_intercalate hn, String.toList_intercalate, List.map_append]
  refine lines_join (by simp) ?_
  simpa [or_imp, forall_and] using h

namespace Spaced

theorem ne_nil (h : Spaced parts lines) : lines ≠ [] := by
  induction h with
  | top => simp
  | apart => simp
  | close part _ _ ih => exact List.append_ne_nil_of_left_ne_nil ih part

/-- There are no lines but those of the parts and empty ones. -/
theorem eq_empty_or_mem (h : Spaced parts lines) (hl : line ∈ lines) :
    line = "" ∨ ∃ part ∈ parts, line ∈ part := by
  induction h with
  | top => exact .inr ⟨_, List.mem_singleton_self _, hl⟩
  | apart part _ _ ih =>
    rw [List.mem_append, List.mem_cons] at hl
    grind
  | close part _ _ ih => grind

theorem writeBlank (h : Spaced parts l.lines) (part : List String) :
    Spaced (parts ++ [part]) (l.writeBlank.lines ++ part) := by
  unfold Listing.writeBlank
  split
  · next hn => exact absurd (List.getLast?_eq_none_iff.mp hn) h.ne_nil
  · next last hl =>
    split
    · next he => exact .close part h (String.isEmpty_iff.mp he ▸ hl)
    · next he =>
      rw [lines_writeLine, List.append_assoc]
      refine .apart part h ?_
      rw [hl]
      rintro ⟨⟩
      exact he rfl

end Spaced

end Listing

/-! ### Modules -/

theorem Document.parseLogged_of_parse {result : Except Diagnosis Document}
    (h : parse source path = result) : ∃ records, parseLogged source path = (result, records) := by
  subst h
  unfold parseLogged parse
  cases read source.toList with
  | ok r => exact ⟨_, rfl⟩
  | error f => exact ⟨_, rfl⟩

namespace Module

open Listing

theorem compile_of_ok (h : Document.parse source path = .ok document) :
    (compile source path).1 = .ok ⟨(listing document).code, document, fingerprintOf source,
      path⟩ := by
  obtain ⟨records, hl⟩ := Document.parseLogged_of_parse h
  rw [compile, hl]

theorem exists_of_isBlank {s : Script} (h : s.isBlank = false) :
    ∃ c ∈ s.source.toList, c ∉ [' ', '\t', '\n'] := by
  rw [Script.isBlank, List.all_eq_false] at h
  obtain ⟨c, hc, hb⟩ := h
  refine ⟨c, hc, fun hm => hb ?_⟩
  simp only [List.mem_cons, List.not_mem_nil, or_false] at hm
  rcases hm with rfl | rfl | rfl <;> decide

/-- Each script that goes into a module is a part of its own. -/
theorem spaced_foldl_writeScript (scripts : List Script) (h : Spaced parts l.lines) :
    ∃ blocks, List.Forall₂ (fun s rows => Holds rows s.source)
        (scripts.filter fun s => s.isInlinable && !s.isBlank) blocks ∧
      Spaced (parts ++ blocks) (scripts.foldl writeScript l).lines := by
  induction scripts generalizing l parts with
  | nil => exact ⟨[], .nil, by rwa [List.append_nil]⟩
  | cons s scripts ih =>
    rw [List.foldl_cons, List.filter_cons, writeScript]
    split
    · next hs =>
      rw [Bool.and_eq_true, Bool.not_eq_true'] at hs
      obtain ⟨rows, hl, ho⟩ := l.writeBlank.exists_lines_writeBlock (exists_of_isBlank hs.2)
      have hw : Spaced (parts ++ [rows]) (l.writeBlank.writeBlock s.source).lines :=
        hl ▸ h.writeBlank rows
      -- The rows are the last part above what comes of the other scripts.
      obtain ⟨blocks, hf, hb⟩ := ih hw
      refine ⟨rows :: blocks, .cons ho hf, ?_⟩
      rwa [List.append_assoc] at hb
    · exact ih h

theorem inlined_eq (d : Document) :
    inlined d = d.scripts.filter fun s => s.isInlinable && !s.isBlank := by
  simp only [inlined, Script.isBlank, List.not_all_eq_any_not]
  rfl

theorem laid_listing (d : Document) : Laid d (listing d).lines := by
  have ht : Spaced [[headerLine]] (Listing.empty.writeLine headerLine).lines := .top headerLine
  obtain ⟨blocks, hf, hs⟩ := spaced_foldl_writeScript d.scripts ht
  rw [← inlined_eq] at hf
  have hl : (listing d).lines =
      (d.scripts.foldl writeScript (Listing.empty.writeLine headerLine)).writeBlank.lines ++
        (sceneLine :: d.fragments.map fragmentLine ++ [rendererLine, mountLine]) := by
    simp [listing]
  exact ⟨blocks, hf, hl ▸ hs.writeBlank _⟩

theorem lineFeed_not_mem_name {f : Fragment} (h : f.WellFormed) : '\n' ∉ f.name.toList := by
  cases h with
  | mk hn => exact fun hc => absurd (hn.mem hc) (by decide)

theorem Laid.ne_nil (h : Laid document lines) : lines ≠ [] := by
  obtain ⟨blocks, -, hs⟩ := h
  exact hs.ne_nil

/-- A well-formed document has no name with a line feed in it. -/
theorem Laid.lineFeed_not_mem (h : Laid document lines) (hd : document.WellFormed) :
    ∀ line ∈ lines, '\n' ∉ line.toList := by
  obtain ⟨blocks, hf, hs⟩ := h
  intro line hl
  obtain rfl | ⟨part, hp, hl⟩ := hs.eq_empty_or_mem hl
  · simp
  rw [List.mem_append, List.mem_cons, List.mem_singleton] at hp
  obtain (rfl | hp) | rfl := hp
  · rw [List.mem_singleton.mp hl]
    decide
  · obtain ⟨s, -, hr⟩ := exists_rel_of_mem hf hp
    exact (hr.no_blank_end line hl).1
  · simp only [List.cons_append, List.mem_cons, List.mem_append, List.mem_map, List.not_mem_nil,
      or_false] at hl
    obtain rfl | ⟨f, hm, rfl⟩ | rfl | rfl := hl
    · decide
    · rw [String.toList_append, List.mem_append, not_or]
      exact ⟨by decide, lineFeed_not_mem_name (hd.fragments f hm)⟩
    · decide
    · decide

theorem compileText_of_ok {text : List Point}
    (h : Document.parse (String.ofList (text.map Point.character)) path = .ok document)
    (hn : text.any Point.isHalf = false) :
    (compileText text path).1 = .ok ⟨(listing document).code, document,
      fingerprintOf (String.ofList (text.map Point.character)), path⟩ := by
  have hc := compile_of_ok h
  unfold compileText
  split
  · next he =>
    rw [he] at hc
    cases hc
  · next he =>
    rw [he] at hc
    rw [hn, if_neg Bool.false_ne_true, Except.ok.inj hc]

/-- A text keeps its lines, and each line what is behind the margin, when it is written below
others. The module of a source that parses and holds no halves has the header, the scripts that go
into it and the scaffold one below the other, and each of these lines is a line of its text. -/
theorem compile_lays_out :
    (∀ (l : Listing) (text : String), (∃ c ∈ text.toList, c ∉ [' ', '\t', '\n']) →
      ∃ rows, (l.writeBlock text).lines = l.lines ++ rows ∧ Holds rows text ∧
        ∀ row ∈ rows, '\n' ∉ row.toList ∧ ∀ c ∈ row.toList.getLast?, isBlank c = false) ∧
    ∀ (text : List Point) (path : Option String) (document : Document),
      (∀ point ∈ text, point.isHalf = false) →
      Document.parse (String.ofList (text.map Point.character)) path = .ok document →
      ∃ m lines, (compileText text path).1 = .ok m ∧ Laid document lines ∧
        Text.lines m.code.toList = lines.map String.toList ++ [[]] := by
  constructor
  · intro l text h
    obtain ⟨rows, hl, hr⟩ := l.exists_lines_writeBlock h
    exact ⟨rows, hl, hr, hr.no_blank_end⟩
  · intro text path document hh h
    have hl := laid_listing document
    have hn := hl.lineFeed_not_mem (Document.derives_of_parse h).wellFormed
    have ha : text.any Point.isHalf = false := List.any_eq_false.mpr fun point hp => by
      rw [hh point hp]
      decide
    exact ⟨_, _, compileText_of_ok h ha, hl, lines_code hl.ne_nil hn⟩

/-- A margin of a tab, behind which there are two lines, one of nothing but indentation between them
and blanks at the end of the last. -/
def tabbed : String := "\n\t  a\n\t \n\tb  \n"

/-- A script of the text, one that is left out, and two roots. -/
def sheet : String :=
  "<script>" ++ tabbed ++ "</script><script lang=\"glsl\">c</script><x/><scene></scene>"

theorem compile_lays_out_tabbed :
    (∃ c ∈ tabbed.toList, c ∉ [' ', '\t', '\n']) ∧ Holds ["  a", "", "b"] tabbed ∧
    (∀ point ∈ sheet.toList.map Point.char, point.isHalf = false) ∧
    ∃ document m,
      Document.parse (String.ofList ((sheet.toList.map Point.char).map Point.character)) none =
        .ok document ∧
      (compileText (sheet.toList.map Point.char) none).1 = .ok m ∧
      m.code = "\n".intercalate
        ["import * as THREE from 'three';", "", "  a", "", "b", "",
          "const scene = new THREE.Scene();", "// fragment: x", "// fragment: scene",
          "const renderer = new THREE.WebGLRenderer();",
          "document.getElementById(\"root\").appendChild(renderer.domElement);"] ++ "\n" ∧
      ∃ lines, Laid document lines ∧
        Text.lines m.code.toList = lines.map String.toList ++ [[]] := by
  have hc : ∃ c ∈ tabbed.toList, c ∉ [' ', '\t', '\n'] := ⟨'a', by decide, by decide⟩
  have hh : ∀ point ∈ sheet.toList.map Point.char, point.isHalf = false := by decide
  have hp : Document.parse (String.ofList ((sheet.toList.map Point.char).map Point.character)) none =
      .ok ⟨[⟨tabbed, []⟩, ⟨"c", [("lang", .text "glsl")]⟩],
        [.mk "x" [] [] [] 5 40, .mk "scene" [] [] [] 5 44]⟩ := by with_unfolding_all rfl
  obtain ⟨hw, hm⟩ := compile_lays_out
  obtain ⟨rows, hl, hr, -⟩ := hw Listing.empty tabbed hc
  have he : (Listing.empty.writeBlock tabbed).lines = ["  a", "", "b"] := by decide
  rw [Listing.empty, List.nil_append] at hl
  obtain ⟨m, lines, ho, hl', hi⟩ := hm _ none _ hh hp
  have ha : (sheet.toList.map Point.char).any Point.isHalf = false := by decide
  obtain rfl := Except.ok.inj (ho.symm.trans (compileText_of_ok hp ha))
  exact ⟨hc, hl.symm.trans he ▸ hr, hh, _, _, hp, ho, congrArg Listing.code (by decide), lines,
    hl', hi⟩

/-- A source in which half of a surrogate pair stands alone is read, but has no bytes to take the
digest of. -/
theorem not_compile_lays_out_half :
    ¬ ∀ (text : List Point) (path : Option String) (document : Document),
      Document.parse (String.ofList (text.map Point.character)) path = .ok document →
      ∃ m, (compileText text path).1 = .ok m := by
  intro h
  have hp : Document.parse (String.ofList
      (("<a x=\"".toList.map Point.char ++ Point.half 0 :: "\"/>".toList.map Point.char).map
        Point.character)) none =
      .ok ⟨[], [.mk "a" [("x", .text (String.singleton (Char.ofNat 0xFDD0)))] [] [] 1 1]⟩ := by
    with_unfolding_all rfl
  obtain ⟨m, hm⟩ := h _ none _ hp
  have hf : (compileText
      ("<a x=\"".toList.map Point.char ++ Point.half 0 :: "\"/>".toList.map Point.char) none).1 =
      .error .unencodable := by
    with_unfolding_all rfl
  cases hf.symm.trans hm

end Module

end SceneMarkup
