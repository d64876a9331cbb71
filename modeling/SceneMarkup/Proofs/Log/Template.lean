import SceneMarkup.Log.Layout

/-! # Filling templates in

In a template of text and plain fields the values of the fields stand where the fields were, and
the text around them stays. Braces are doubled in the text of a template, but values are not read
again, so a message may hold any.
-/

namespace SceneMarkup.Log

namespace Template

inductive Part where
  | char (c : Char)
  | field (name : List Char)

def IsBrace (c : Char) : Prop := c = openBrace ∨ c = closeBrace

instance : DecidablePred IsBrace := fun _ => inferInstanceAs (Decidable (_ ∨ _))

namespace Part

def written : Part → List Char
  | char c => if IsBrace c then [c, c] else [c]
  | field name => openBrace :: name ++ [closeBrace]

def value (fields : List (String × String)) : Part → Except Problem (List Char)
  | char c => .ok [c]
  | field name => (lookup fields name).map plain

/-- The name of a field is not ended or bracketed by any of its characters. -/
def IsPlain : Part → Prop
  | char _ => True
  | field name => ∀ c ∈ name, c ∉ [openBrace, closeBrace, '[', ':', '!']

instance : DecidablePred IsPlain
  | char _ => isTrue trivial
  | field name => List.decidableBAll _ name

end Part

variable {fields : List (String × String)} {depth fuel : Nat} {c : Char}
  {cs name out : List Char} {ps : List Piece} {problem : Option Problem}

def fillPiece (fields : List (String × String)) (depth : Nat) (out : List Char) :
    Piece → Except Problem (List Char)
  | .literal text => pure (out ++ text)
  | .field name conversion format => do
      let thing ← lookup fields name
      let thing ← convert thing conversion
      let format ← if format.contains openBrace then expand fields depth format else pure format
      return out ++ (← written thing format)

/-- Fill pieces in, up to the place where the template is malformed. -/
def fillPieces (fields : List (String × String)) (depth : Nat)
    (ps : List Piece × Option Problem) (out : List Char) : Except Problem (List Char) := do
  let out ← ps.1.foldlM (fillPiece fields depth) out
  match ps.2 with
  | some problem => throw problem
  | none => return out

theorem expand_eq (fields : List (String × String)) (depth : Nat) (cs : List Char) :
    expand fields (depth + 1) cs = fillPieces fields depth (pieces (cs.length + 1) cs) [] := by
  rw [expand, fillPieces]
  rfl

theorem fillPieces_literal (text : List Char) :
    fillPieces fields depth (.literal text :: ps, problem) out =
      fillPieces fields depth (ps, problem) (out ++ text) := by
  rw [fillPieces, List.foldlM_cons]
  rfl

theorem fillPieces_nil (fields : List (String × String)) (depth fuel : Nat) (out : List Char) :
    fillPieces fields depth (pieces (fuel + 1) []) out = .ok out := by
  rw [pieces]
  dsimp only [List.takeWhile_nil, List.dropWhile_nil]
  rw [fillPieces_literal, List.append_nil]
  rfl

theorem fillPieces_char (hc : ¬ IsBrace c) (fields : List (String × String)) (depth fuel : Nat)
    (cs out : List Char) : fillPieces fields depth (pieces (fuel + 1) (c :: cs)) out =
      fillPieces fields depth (pieces (fuel + 1) cs) (out ++ [c]) := by
  have hb : (fun c => !(c == openBrace || c == closeBrace)) c = true := by
    simpa [IsBrace] using hc
  rw [pieces, pieces]
  dsimp only
  rw [List.takeWhile_cons_of_pos (p := fun c => !(c == openBrace || c == closeBrace)) hb,
    List.dropWhile_cons_of_pos (p := fun c => !(c == openBrace || c == closeBrace)) hb]
  generalize List.takeWhile _ cs = text
  match List.dropWhile _ cs with
  | [] => simp [fillPieces_literal]
  | [d] => simp [fillPieces_literal]
  | d :: e :: rest =>
    dsimp only
    split
    · simp [fillPieces_literal]
    · split
      · simp [fillPieces_literal]
      · split <;> simp [fillPieces_literal]

theorem dropWhile_brace (hc : IsBrace c) (cs : List Char) :
    (c :: cs).takeWhile (fun c => !(c == openBrace || c == closeBrace)) = [] ∧
      (c :: cs).dropWhile (fun c => !(c == openBrace || c == closeBrace)) = c :: cs := by
  have hb : ¬ (!(c == openBrace || c == closeBrace)) = true := by
    rcases hc with rfl | rfl <;> decide
  exact ⟨List.takeWhile_cons_of_neg hb, List.dropWhile_cons_of_neg hb⟩

theorem fillPieces_brace (hc : IsBrace c) (fields : List (String × String)) (depth fuel : Nat)
    (cs out : List Char) : fillPieces fields depth (pieces (fuel + 1) (c :: c :: cs)) out =
      fillPieces fields depth (pieces fuel cs) (out ++ [c]) := by
  obtain ⟨ht, hd⟩ := dropWhile_brace hc (c :: cs)
  rw [pieces]
  dsimp only
  rw [ht, hd]
  dsimp only
  rw [if_pos rfl, fillPieces_literal]
  rfl

theorem splitName_plain (h : Part.IsPlain (.field name)) (out cs : List Char) :
    splitName false out (name ++ closeBrace :: cs) = .ok (out.reverse ++ name, closeBrace, cs) := by
  induction name generalizing out with
  | nil => rw [List.nil_append, splitName]; simp [openBrace, closeBrace]
  | cons c name ih =>
    obtain ⟨hc, hs⟩ := List.forall_mem_cons.mp h
    simp only [List.mem_cons, List.not_mem_nil, or_false, not_or] at hc
    obtain ⟨ho, hcl, hb, hcolon, hbang⟩ := hc
    rw [List.cons_append, splitName, if_neg (by simp), if_neg ho, if_neg hb,
      if_neg (by simp [hcl, hcolon, hbang]), ih hs]
    simp

theorem plain_ofText (s : String) : plain (.ofText s) = s.toList := rfl

theorem written_nil (t : Thing) : Template.written t [] = .ok (plain t) := by
  cases t <;> rfl

theorem fillPieces_field (h : Part.IsPlain (.field name)) (fields : List (String × String))
    (depth fuel : Nat) (cs out : List Char) :
    fillPieces fields depth (pieces (fuel + 1) (openBrace :: (name ++ closeBrace :: cs))) out =
      (Part.field name).value fields >>= fun value =>
        fillPieces fields depth (pieces fuel cs) (out ++ value) := by
  obtain ⟨d, rest, hd, hn⟩ : ∃ d rest, name ++ closeBrace :: cs = d :: rest ∧ openBrace ≠ d := by
    cases name with
    | nil => exact ⟨_, _, rfl, by decide⟩
    | cons d name => 
      refine ⟨d, _, rfl, ?_⟩
      rintro rfl
      exact (h _ List.mem_cons_self) (by simp)
  have hf : splitField (d :: rest) = .ok (.field name none [], cs) := by
    rw [← hd, splitField, splitName_plain h]
    rfl
  obtain ⟨ht, hw⟩ := dropWhile_brace (.inl rfl) (d :: rest)
  rw [hd, pieces]
  dsimp only
  rw [ht, hw]
  dsimp only
  rw [if_neg hn, if_neg (by decide), hf, fillPieces_literal, List.append_nil, fillPieces,
    List.foldlM_cons, fillPiece, Part.value]
  cases lookup fields name with
  | error problem => rfl
  | ok thing =>
    change (Template.written thing [] >>= fun text => pure (out ++ text)) >>= _ >>= _ = _
    rw [written_nil]
    rfl

/-! ### Templates of parts -/

theorem map_mapM_cons {ε α β : Type} (f : α → Except ε (List β)) (x : α) (xs : List α)
    (out : List β) : ((x :: xs).mapM f).map (fun ys => out ++ ys.flatten) =
      f x >>= fun y => (xs.mapM f).map fun ys => out ++ y ++ ys.flatten := by
  rw [List.mapM_cons]
  cases f x with
  | error e => rfl
  | ok y =>
    cases xs.mapM f with
    | error e => rfl
    | ok ys => simp [bind, Except.bind, pure, Except.pure, Except.map]

theorem fillPieces_written {parts : List Part} (h : ∀ p ∈ parts, p.IsPlain)
    (hf : (parts.flatMap Part.written).length < fuel) (out : List Char) :
    fillPieces fields depth (pieces fuel (parts.flatMap Part.written)) out =
      (parts.mapM (Part.value fields)).map fun values => out ++ values.flatten := by
  induction parts generalizing fuel out with
  | nil =>
    obtain ⟨fuel, rfl⟩ := Nat.exists_eq_succ_of_ne_zero (Nat.ne_zero_of_lt hf)
    rw [List.flatMap_nil, fillPieces_nil]
    exact congrArg Except.ok out.append_nil.symm
  | cons p parts ih =>
    obtain ⟨fuel, rfl⟩ := Nat.exists_eq_succ_of_ne_zero (Nat.ne_zero_of_lt hf)
    obtain ⟨hp, hs⟩ := List.forall_mem_cons.mp h
    rw [List.flatMap_cons, List.length_append] at hf
    rw [List.flatMap_cons, map_mapM_cons]
    cases p with
    | char c =>
      by_cases hc : IsBrace c
      · rw [Part.written, if_pos hc, List.length_cons, List.length_singleton] at hf
        rw [Part.written, if_pos hc, List.cons_append, List.singleton_append, fillPieces_brace hc]
        exact ih hs (by omega) _
      · rw [Part.written, if_neg hc, List.length_singleton] at hf
        rw [Part.written, if_neg hc, List.singleton_append, fillPieces_char hc]
        exact ih hs (by omega) _
    | field name =>
      rw [Part.written, List.length_append, List.length_cons] at hf
      rw [Part.written, List.cons_append, List.cons_append, List.append_assoc,
        List.singleton_append, fillPieces_field hp]
      congr 1
      funext value
      exact ih hs (by omega) _

/-- A template of parts is filled in part by part; what stands for a field is not read again. -/
theorem expand_written {parts : List Part} (h : ∀ p ∈ parts, p.IsPlain)
    (fields : List (String × String)) (depth : Nat) :
    expand fields (depth + 1) (parts.flatMap Part.written) =
      (parts.mapM (Part.value fields)).map List.flatten := by
  rw [expand_eq, fillPieces_written h (Nat.lt_succ_self _)]
  simp only [List.nil_append]

end Template

namespace Record

open Template

/-! ### Lines of text -/

def standardParts : List Part :=
  [.field "timestamp".toList, .char ' ', .char '[', .field "level".toList, .char ']', .char ' ',
    .field "message".toList]

theorem written_standardParts :
    standardParts.flatMap Part.written = TextLayout.defaultTemplate.toList := by
  decide

theorem fill_standard (time level message logger : String) :
    Template.fill [("timestamp", time), ("level", level), ("message", message), ("logger", logger)]
      TextLayout.defaultTemplate = .ok (time ++ " [" ++ level ++ "] " ++ message) := by
  rw [Template.fill, ← written_standardParts, expand_written (by decide), standardParts]
  refine congrArg Except.ok (String.toList_inj.mp ?_)
  simp [plain_ofText]

/-- A record in the usual layout: its time, its level and its message, whatever braces they hold,
and the cause on a line of its own if there is one. -/
theorem toText_standard (r : Record) (colored : Bool) (time : Moment) :
    r.toText (.standard colored) time =
      match r.reported? with
      | .ok cause => .ok (time.fill TextLayout.defaultDatePattern ++ " [" ++
          (if colored then r.level.color ++ r.level.name ++ "\x1b[0m" else r.level.name) ++ "] " ++
          r.fullMessage ++ ((cause.map fun f => "\n" ++ f.line).getD ""))
      | .error () => .error (.refused .noSuchMember) := by
  rw [toText, TextLayout.standard]
  dsimp only
  rw [fill_standard]
  cases r.reported? with
  | error e => rfl
  | ok cause =>
    cases cause with
    | none => simp [bind, Except.bind, pure, Except.pure]
    | some f => simp [bind, Except.bind, pure, Except.pure, String.append_assoc]

end Record

end SceneMarkup.Log
