import SceneMarkup.Client
import SceneMarkup.Proofs.Text.Splitting
import SceneMarkup.Proofs.Text.Utf8

/-! # The characters and steps of addresses

In an address that was read every character stands for itself, so what is asked for at a host is
one visible word. The path of an absolute address has no step that stays or leads back, and none
comes up by escaping.
-/

namespace SceneMarkup

namespace Url

open Text

variable {stands : Char → Bool} {c d x : Char} {cs ds path : List Char} {s : String} {u : Url}

/-! ### Escaped characters -/

theorem isHex_hexDigit : ∀ n < 16, isHex (hexDigit n) := by decide

theorem toNat_of_isHex (h : isHex c) :
    (48 ≤ c.toNat ∧ c.toNat ≤ 57) ∨ (97 ≤ c.toNat ∧ c.toNat ≤ 102) ∨
      (65 ≤ c.toNat ∧ c.toNat ≤ 70) := by
  rw [isHex, Json.hexValue?] at h
  split at h
  · next hd => exact .inl hd
  · split at h
    · next hd => exact .inr (.inl hd)
    · split at h
      · next hd => exact .inr (.inr hd)
      · cases h

theorem mem_escapeChar (h : d ∈ escapeChar stands c) :
    (d = c ∧ stands c) ∨ d = '%' ∨ isHex d := by
  rw [escapeChar] at h
  split at h
  · next hc => exact .inl ⟨List.mem_singleton.mp h, hc⟩
  · obtain ⟨b, -, hb⟩ := List.mem_flatMap.mp h
    have hl := b.toNat_lt
    simp only [escapeByte, List.mem_cons, List.not_mem_nil, or_false] at hb
    rcases hb with rfl | rfl | rfl
    · exact .inr (.inl rfl)
    · exact .inr (.inr (isHex_hexDigit _ (by omega)))
    · exact .inr (.inr (isHex_hexDigit _ (by omega)))

theorem mem_escape (h : d ∈ escape stands cs) : (d ∈ cs ∧ stands d) ∨ d = '%' ∨ isHex d := by
  have step {c : Char} {rest : List Char}
      (ih : d ∈ escape stands rest → (d ∈ rest ∧ stands d) ∨ d = '%' ∨ isHex d)
      (h : d ∈ escapeChar stands c ++ escape stands rest) :
      (d ∈ c :: rest ∧ stands d) ∨ d = '%' ∨ isHex d := by
    rcases List.mem_append.mp h with h | h
    · exact (mem_escapeChar h).imp_left fun ⟨he, hs⟩ => ⟨by simp [he], he ▸ hs⟩
    · exact (ih h).imp_left fun ⟨hm, hs⟩ => ⟨List.mem_cons_of_mem _ hm, hs⟩
  induction cs using escape.induct with
  | case1 a b rest hab ih =>
    rw [escape, if_pos hab, List.mem_cons, List.mem_cons, List.mem_cons] at h
    obtain ⟨ha, hb⟩ := Bool.and_eq_true_iff.mp hab
    rcases h with rfl | rfl | rfl | h
    · exact .inr (.inl rfl)
    · exact .inr (.inr ha)
    · exact .inr (.inr hb)
    · exact (ih h).imp_left fun ⟨hm, hs⟩ => ⟨by simp [hm], hs⟩
  | case2 a b rest hab ih =>
    rw [escape, if_neg hab] at h
    exact step ih h
  | case3 c rest hn ih =>
    rw [escape.eq_2 _ _ _ hn] at h
    exact step ih h
  | case4 =>
    rw [escape] at h
    cases h

theorem percent_mem_escapeChar (h : stands c = false) : '%' ∈ escapeChar stands c := by
  obtain ⟨b, bytes, hb⟩ := List.exists_cons_of_ne_nil
    (mt Utf8.encode_eq_nil_iff.mp (List.cons_ne_nil c []))
  rw [escapeChar, if_neg (by simp [h]), hb]
  simp [escapeByte]

/-- A text is left as it is unless there is an escape in what becomes of it. -/
theorem escape_of_percent_not_mem (h : '%' ∉ escape stands cs) : escape stands cs = cs := by
  have step {c : Char} {rest : List Char}
      (ih : '%' ∉ escape stands rest → escape stands rest = rest)
      (h : '%' ∉ escapeChar stands c ++ escape stands rest) :
      escapeChar stands c ++ escape stands rest = c :: rest := by
    rw [List.mem_append, not_or] at h
    have hc := Bool.of_not_eq_false fun hs => h.1 (percent_mem_escapeChar hs)
    rw [ih h.2, escapeChar, if_pos hc, List.singleton_append]
  induction cs using escape.induct with
  | case1 a b rest hab ih =>
    rw [escape, if_pos hab] at h
    exact absurd List.mem_cons_self h
  | case2 a b rest hab ih =>
    rw [escape, if_neg hab] at h ⊢
    exact step ih h
  | case3 c rest hn ih =>
    rw [escape.eq_2 _ _ _ hn] at h ⊢
    exact step ih h
  | case4 => rw [escape]

theorem escape_cons (h : ∀ a b rest, c = '%' → cs = a :: b :: rest → isHex a → isHex b → False) :
    escape stands (c :: cs) = escapeChar stands c ++ escape stands cs := by
  by_cases hs : ∃ a b rest, c = '%' ∧ cs = a :: b :: rest
  · obtain ⟨a, b, rest, rfl, rfl⟩ := hs
    rw [escape, if_neg fun hab => ?_]
    obtain ⟨ha, hb⟩ := Bool.and_eq_true_iff.mp hab
    exact h a b rest rfl rfl ha hb
  · exact escape.eq_2 stands c cs fun a b rest hc hcs => hs ⟨a, b, rest, hc, hcs⟩

/-- A character that is part of no escape keeps apart what is escaped on its two sides. -/
theorem escape_append_cons (hx : isHex x = false) (hp : x ≠ '%') (cs ds : List Char) :
    escape stands (cs ++ x :: ds) =
      escape stands cs ++ escapeChar stands x ++ escape stands ds := by
  have hn (h : isHex x) : False := by simp [hx] at h
  induction cs using escape.induct with
  | case1 a b rest hab ih =>
    simp only [List.cons_append]
    rw [escape, if_pos hab, escape, if_pos hab, ih]
    rfl
  | case2 a b rest hab ih =>
    simp only [List.cons_append] at ih ⊢
    rw [escape, if_neg hab, escape, if_neg hab, ih]
    simp only [List.append_assoc]
  | case3 c rest hc ih =>
    rw [escape.eq_2 _ _ _ hc, List.cons_append, escape_cons, ih]
    · simp only [List.append_assoc]
    · intro a b back hc' hr ha hb
      match rest, hr with
      | [], hr => exact hn ((List.cons.inj hr).1 ▸ ha)
      | [_], hr => exact hn ((List.cons.inj (List.cons.inj hr).2).1 ▸ hb)
      | _ :: _ :: _, _ => exact hc _ _ _ hc' rfl
  | case4 =>
    rw [List.nil_append, escape_cons fun _ _ _ h => absurd h hp, escape, List.nil_append]

/-! ### Steps -/

/-- A step of a path that leads to another place than one further down. -/
def IsDots (step : List Char) : Prop := step = ['.'] ∨ step = ['.', '.']

theorem splitOnP_escape (hs : stands '/') (pieces : List (List Char))
    (h : ∀ piece ∈ pieces, '/' ∉ piece) (hp : pieces ≠ []) :
    splitOnP (· == '/') (escape stands (join ['/'] pieces)) = pieces.map (escape stands) := by
  have hj : escape stands (join ['/'] pieces) = join ['/'] (pieces.map (escape stands)) := by
    clear h
    induction pieces with
    | nil => exact absurd rfl hp
    | cons piece pieces ih =>
      cases pieces with
      | nil => simp [join]
      | cons next pieces =>
        have hi := ih (by simp)
        rw [join, join, List.map_cons, List.map_cons] at *
        rw [List.intercalate_cons_cons, List.intercalate_cons_cons, List.append_assoc,
          List.singleton_append, escape_append_cons (by decide) (by decide), hi, escapeChar,
          if_pos hs]
  rw [hj]
  refine splitOnP_intercalate (by simpa using hp) ?_ rfl
  intro _ hm c hc
  obtain ⟨piece, hmem, rfl⟩ := List.mem_map.mp hm
  rw [beq_eq_false_iff_ne]
  rintro rfl
  rcases mem_escape hc with ⟨hc, -⟩ | hc | hc
  · exact h piece hmem hc
  · exact absurd hc (by decide)
  · exact absurd hc (by decide)

theorem normalPath_eq (path : List Char) : ∃ steps : List (List Char),
    normalPath path = join ['/'] steps ∧ ∀ step ∈ steps, '/' ∉ step ∧ ¬ IsDots step := by
  refine ⟨_, rfl, ?_⟩
  have hw : ∀ step ∈ splitOnP (· == '/') path, '/' ∉ step := by
    intro step hm hc
    have := (exists_mem_splitOnP_iff.mp ⟨step, hm, hc⟩).2
    simp at this
  simp only [List.mem_reverse]
  suffices ∀ taken : List (List Char), (∀ step ∈ taken, '/' ∉ step ∧ ¬ IsDots step) →
      ∀ step ∈ (splitOnP (· == '/') path).foldl (fun taken step =>
        if step = ['.'] then taken
        else if step = ['.', '.'] then (if taken = [[]] then taken else taken.drop 1)
        else step :: taken) taken, '/' ∉ step ∧ ¬ IsDots step from this [] (by simp)
  generalize splitOnP (· == '/') path = steps at hw ⊢
  induction steps with
  | nil => exact fun _ h => h
  | cons next steps ih =>
    obtain ⟨hn, hs⟩ := List.forall_mem_cons.mp hw
    intro taken ht
    refine ih hs _ ?_
    dsimp only
    split
    · exact ht
    · next h₁ =>
      split
      · split
        · exact ht
        · exact fun step hm => ht step (List.mem_of_mem_drop hm)
      · next h₂ => exact List.forall_mem_cons.mpr ⟨⟨hn, not_or.mpr ⟨h₁, h₂⟩⟩, ht⟩

theorem not_isDots_escape (hs : stands '/') (path : List Char) :
    ∀ step ∈ splitOnP (· == '/') (escape stands (normalPath path)), ¬ IsDots step := by
  obtain ⟨steps, hn, h⟩ := normalPath_eq path
  rw [hn]
  cases steps with
  | nil =>
    rw [join, List.intercalate_nil, escape]
    simp [splitOnP, IsDots]
  | cons first steps =>
    rw [splitOnP_escape hs _ (fun step hm => (h step hm).1) (by simp)]
    intro _ hm hd
    obtain ⟨step, hmem, rfl⟩ := List.mem_map.mp hm
    refine (h step hmem).2 ?_
    rwa [escape_of_percent_not_mem ?_] at hd
    rcases hd with hd | hd <;> simp [hd]

/-! ### Addresses that were read -/

/-- Every character of a text stands for itself, or is part of an escape. -/
def Stands (stands : Char → Bool) (s : String) : Prop :=
  ∀ c ∈ s.toList, stands c ∨ c = '%' ∨ isHex c

theorem stands_escape (stands : Char → Bool) (cs : List Char) :
    Stands stands (String.ofList (escape stands cs)) := by
  intro c hc
  rw [String.toList_ofList] at hc
  exact (mem_escape hc).imp_left And.right

/-- The parts of an address are escaped. -/
structure Escaped (u : Url) : Prop where
  user : Stands standsInUser u.user
  path : Stands standsInPath u.path
  query : ∀ q, u.query = some q → Stands standsInQuery q
  fragment : ∀ f, u.fragment = some f → Stands standsInFragment f

theorem ofText_ok (h : ofText s = .ok u) : u.Escaped ∧ (u.isAbsolute →
    ∃ path, u.path = String.ofList (escape standsInPath (normalPath path))) := by
  simp only [ofText, bind, Except.bind, throw, throwThe, MonadExceptOf.throw, pure,
    Except.pure] at h
  split at h
  · cases h
  split at h
  · cases h
  split at h
  · cases h
  split at h
  · cases h
  split at h
  · cases h
  cases h
  refine ⟨⟨stands_escape _ _, stands_escape _ _, ?_, ?_⟩, fun ha => ⟨(cut s.toList).path, ?_⟩⟩
  · rintro q hq
    obtain ⟨part, -, rfl⟩ := Option.map_eq_some_iff.mp hq
    exact stands_escape _ _
  · rintro f hf
    obtain ⟨part, -, rfl⟩ := Option.map_eq_some_iff.mp hf
    exact stands_escape _ _
  · have hs := (Bool.and_eq_true_iff.mp ha).1
    dsimp only at hs ⊢
    rw [hs, Bool.or_true, if_pos rfl]

theorem standsInPath_slash : standsInPath '/' := by
  simp only [standsInPath, standsInQuery, String.contains_char_eq]
  decide

/-- The path of an absolute address has no step that stays or leads back. -/
theorem not_isDots_of_ofText (h : ofText s = .ok u) (ha : u.isAbsolute) :
    ∀ step ∈ splitOnP (· == '/') u.path.toList, ¬ IsDots step := by
  obtain ⟨path, hp⟩ := (ofText_ok h).2 ha
  rw [hp, String.toList_ofList]
  exact not_isDots_escape standsInPath_slash path

theorem relative_ok {v : Url} (h : u.relative = .ok v) :
    v = ⟨"", "", "", none, String.ofList ('/' :: u.path.toList.dropWhile (· == '/')), u.query,
      none⟩ := by
  simp only [relative, bind, Except.bind, pure, Except.pure] at h
  split at h
  · cases h
  · exact (Except.ok.inj h).symm

theorem Escaped.relative (h : u.Escaped) {v : Url} (hv : u.relative = .ok v) : v.Escaped := by
  rw [relative_ok hv]
  refine ⟨by simp [Stands], ?_, h.query, by simp⟩
  intro c hc
  rw [String.toList_ofList, List.mem_cons] at hc
  rcases hc with rfl | hc
  · exact .inl standsInPath_slash
  · exact h.path c (List.dropWhile_suffix _ |>.subset hc)

/-- What is asked for at a host is one visible word. -/
theorem Escaped.target (h : u.Escaped) :
    ∀ c ∈ u.target.toList, 0x20 < c.toNat ∧ c.toNat < 0x7F := by
  have visible {c : Char} (hc : standsInQuery c ∨ c = '%' ∨ isHex c) :
      0x20 < c.toNat ∧ c.toNat < 0x7F := by
    rcases hc with hc | rfl | hc
    · rw [standsInQuery, isVisible] at hc
      simp only [String.contains_char_eq, Bool.and_eq_true, decide_eq_true_eq, Bool.not_eq_true',
        decide_eq_false_iff_not] at hc
      obtain ⟨⟨hl, hu⟩, hn⟩ := hc
      refine ⟨Nat.lt_of_le_of_ne hl fun he => hn ?_, hu⟩
      rw [show c = ' ' from Char.toNat_inj.mp he.symm]
      decide
    · decide
    · have := toNat_of_isHex hc
      omega
  intro c hc
  rw [Url.target, String.toList_append, List.mem_append] at hc
  rcases hc with hc | hc
  · exact visible ((h.path c hc).imp_left fun hs => (Bool.and_eq_true_iff.mp hs).1)
  · cases hq : u.query with
    | none => simp [hq] at hc
    | some q =>
      have hc : c = '?' ∨ c ∈ q.toList := by simpa [hq] using hc
      rcases hc with rfl | hc
      · decide
      · exact visible (h.query q hq c hc)

end Url

end SceneMarkup
