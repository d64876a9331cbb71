import SceneMarkup.Proofs.Entries
import SceneMarkup.Proofs.Json.Layout

/-! # Texts that are read back

The reader takes what was written in any layout and stops behind it, whatever follows. Its functions
call each other with less fuel, which the induction is on.
-/

namespace SceneMarkup.Json

/-! ### Strings -/

theorem readString_plain {c : Char} (hq : c ≠ '"') (hb : c ≠ '\\') (hc : 0x20 ≤ c.toNat)
    (out rest : List Char) : readString out (c :: rest) = readString (c :: out) rest := by
  rw [readString.eq_def]
  split
  · next h => exact absurd (List.cons.inj h).1 hq
  · next h => exact absurd (List.cons.inj h).1 hb
  · next h => exact absurd (List.cons.inj h).1 hb
  · next h =>
    obtain ⟨rfl, rfl⟩ := List.cons.inj h
    exact if_neg fun h => h.elim hb (Nat.not_lt.mpr hc)
  · next h => cases h

theorem readString_letter {c e : Char} (h : unescape? e = some c) (out rest : List Char) :
    readString out ('\\' :: e :: rest) = readString (c :: out) rest := by
  have hu : e ≠ 'u' := by
    rintro rfl
    cases h
  rw [readString.eq_def]
  split
  · next he => simp at he
  · next he => exact absurd (List.cons.inj (List.cons.inj he).2).1 hu
  · next he =>
    obtain ⟨rfl, rfl⟩ := List.cons.inj (List.cons.inj he).2
    rw [h]
  · next hn he =>
    obtain ⟨rfl, rfl⟩ := List.cons.inj he
    exact absurd rfl (hn e rest rfl)
  · next he => cases he

theorem hexValue?_lowerHexDigit {n : Nat} (h : n < 16) : hexValue? (lowerHexDigit n) = some n := by
  have : ∀ n < 16, hexValue? (lowerHexDigit n) = some n := by decide
  exact this n h

theorem readString_control {c : Char} (hc : c.toNat < 0x20) (out rest : List Char) :
    readString out ('\\' :: 'u' :: '0' :: '0' :: lowerHexDigit (c.toNat / 16) ::
      lowerHexDigit (c.toNat % 16) :: rest) = readString (c :: out) rest := by
  have hx : hex4? '0' '0' (lowerHexDigit (c.toNat / 16)) (lowerHexDigit (c.toNat % 16)) =
      some c.toNat := by
    have h0 : hexValue? '0' = some 0 := rfl
    have h16 : c.toNat / 16 < 16 := by omega
    rw [hex4?, h0, hexValue?_lowerHexDigit h16, hexValue?_lowerHexDigit (by omega)]
    simp
    omega
  have hh : isHighSurrogate c.toNat = false := by simp [isHighSurrogate]; omega
  have hl : isLowSurrogate c.toNat = false := by simp [isLowSurrogate]; omega
  rw [readString, hx]
  simp [hh, hl]

theorem readString_escapeChar (c : Char) (out rest : List Char) :
    readString out (escapeChar c ++ rest) = readString (c :: out) rest := by
  have code {n : Nat} (h : c.toNat = n) : c = Char.ofNat n := h ▸ (Char.ofNat_toNat c).symm
  have letter {e c' : Char} (h : c = c') (he : unescape? e = some c') :
      readString out (['\\', e] ++ rest) = readString (c :: out) rest :=
    h ▸ readString_letter he out rest
  unfold escapeChar
  split_ifs with h₁ h₂ h₃ h₄ h₅ h₆ h₇ h₈
  · exact letter h₁ rfl
  · exact letter h₂ rfl
  · exact letter (code h₃) rfl
  · exact letter h₄ rfl
  · exact letter h₅ rfl
  · exact letter (code h₆) rfl
  · exact letter h₇ rfl
  · exact readString_control h₈ out rest
  · exact readString_plain h₁ h₂ (Nat.not_lt.mp h₈) out rest

theorem readString_quote (out rest : List Char) :
    readString out ('"' :: rest) = some (String.ofList out.reverse, rest) := by
  rw [readString]

theorem readString_escaped (cs out k : List Char) :
    readString out (cs.foldr (fun c k => escapeChar c ++ k) ('"' :: k)) =
      some (String.ofList (out.reverse ++ cs), k) := by
  induction cs generalizing out with
  | nil => rw [List.foldr_nil, readString_quote, List.append_nil]
  | cons c cs ih => rw [List.foldr_cons, readString_escapeChar, ih]; simp

theorem exists_writeString (s : String) (k : List Char) :
    ∃ cs, writeString s k = '"' :: cs ∧ readString [] cs = some (s, k) := by
  refine ⟨_, rfl, ?_⟩
  rw [readString_escaped]
  simp

/-! ### Values without numbers -/

/-- A value that holds no number, and no key twice in any object. -/
inductive Textual : Json → Prop where
  | null : Textual null
  | bool (b : Bool) : Textual (bool b)
  | string (s : String) : Textual (string s)
  | array {xs : List Json} (h : ∀ x ∈ xs, Textual x) : Textual (array xs)
  | object {ms : List (String × Json)} (hk : (Entries.keys ms).Nodup) (h : ∀ m ∈ ms, Textual m.2) :
      Textual (object ms)

/-! ### Reading -/

variable {d : Dialect} {l : Layout} {fuel depth level : Nat} {j x : Json} {xs out : List Json}
  {ms : List (String × Json)} {before : Entries Json} {key : String}
  {b k cs keyed valued rest rest' : List Char}

theorem skipSpace_append (hb : ∀ c ∈ b, isSpace c) (cs : List Char) :
    skipSpace (b ++ cs) = skipSpace cs := by
  induction b with
  | nil => rfl
  | cons c b ih =>
    obtain ⟨hc, hb⟩ := List.forall_mem_cons.mp hb
    rw [List.cons_append, skipSpace, List.dropWhile_cons_of_pos hc]
    exact ih hb

theorem skipSpace_cons {c : Char} (hc : isSpace c = false) (cs : List Char) :
    skipSpace (c :: cs) = c :: cs :=
  List.dropWhile_cons_of_neg (by simp [hc])

/-! One step of each reader, by the character that it finds behind blanks. -/

theorem readValue_bracket (hd : depth ≠ 0) (h : skipSpace cs = '[' :: rest) :
    readValue d (fuel + 1) depth cs = match skipSpace rest with
      | ']' :: rest => some (.array [], rest)
      | rest => readElements d fuel (depth - 1) [] rest := by
  rw [readValue, h]
  exact if_neg hd

theorem readValue_brace (hd : depth ≠ 0) (h : skipSpace cs = '{' :: rest) :
    readValue d (fuel + 1) depth cs = match skipSpace rest with
      | '}' :: rest => some (.object [], rest)
      | rest => readMembers d fuel (depth - 1) [] rest := by
  rw [readValue, h]
  exact if_neg hd

theorem readElements_of (hv : readValue d fuel depth cs = some (x, rest)) :
    readElements d (fuel + 1) depth out cs = match skipSpace rest with
      | ',' :: rest => readElements d fuel depth (x :: out) rest
      | ']' :: rest => some (.array (x :: out).reverse, rest)
      | _ => none := by
  rw [readElements]
  generalize readValue d fuel depth cs = found at hv ⊢
  subst hv
  rfl

theorem readMembers_of (hq : skipSpace cs = '"' :: keyed)
    (hk : readString [] keyed = some (key, rest)) (hc : skipSpace rest = ':' :: valued)
    (hv : readValue d fuel depth valued = some (x, rest')) :
    readMembers d (fuel + 1) depth before cs = match skipSpace rest' with
      | ',' :: rest => readMembers d fuel depth (before.put key x) rest
      | '}' :: rest => some (.object (before.put key x), rest)
      | _ => none := by
  rw [readMembers, hq]
  split
  · next he =>
    obtain ⟨-, rfl⟩ := List.cons.inj he
    split
    · next hn => cases hn.symm.trans hk
    · next hs =>
      cases hs.symm.trans hk
      rw [hc]
      split
      · next he =>
        obtain ⟨-, rfl⟩ := List.cons.inj he
        generalize readValue d fuel depth _ = found at hv ⊢
        subst hv
        rfl
      · next hn => exact absurd rfl (hn valued)
  · next hn => exact absurd rfl (hn keyed)

theorem exists_lay (h : Textual j) (l : Layout) (level : Nat) (k : List Char) :
    ∃ c cs, l.lay level j k = c :: cs ∧ isSpace c = false ∧ c ≠ ']' := by
  suffices hs : ∃ c, (l.lay level j k).head? = some c ∧ isSpace c = false ∧ c ≠ ']' by
    obtain ⟨c, hc, hs⟩ := hs
    obtain ⟨cs, hl⟩ := List.head?_eq_some_iff.mp hc
    exact ⟨c, cs, hl, hs⟩
  cases h with
  | null => exact ⟨'n', by simp [Layout.lay, writeLeaf], by decide⟩
  | bool v => cases v <;> simp [Layout.lay, writeLeaf] <;> decide
  | string s => exact ⟨'"', by simp [Layout.lay, writeLeaf, writeString], by decide⟩
  | @array xs h => cases xs <;> exact ⟨'[', by simp [Layout.lay, writeLeaf], by decide⟩
  | @object ms hk h => cases ms <;> exact ⟨'{', by simp [Layout.lay, writeLeaf], by decide⟩

/-- The reader takes the text of the value behind blanks, and stops behind it. -/
def ReadsValue (d : Dialect) (fuel depth : Nat) (l : Layout) (level : Nat) (j : Json) : Prop :=
  ∀ b k, (∀ c ∈ b, isSpace c) → readValue d fuel depth (b ++ l.lay level j k) = some (j, k)

/-- It takes the elements, the first one behind blanks, after those that it has read before. -/
def ReadsElements (d : Dialect) (fuel depth : Nat) (l : Layout) (level : Nat) (out : List Json) :
    List Json → Prop
  | [] => True
  | x :: xs => ∀ b k, (∀ c ∈ b, isSpace c) →
      readElements d fuel depth out (b ++ l.lay (level + 1) x (l.layElements level xs k)) =
        some (.array (out.reverse ++ x :: xs), k)

def ReadsMembers (d : Dialect) (fuel depth : Nat) (l : Layout) (level : Nat) (out : Entries Json) :
    List (String × Json) → Prop
  | [] => True
  | (key, x) :: ms => ∀ b k, (∀ c ∈ b, isSpace c) →
      readMembers d fuel depth out (b ++ writeString key
        (':' :: (l.space ++ l.lay (level + 1) x (l.layMembers level ms k)))) =
        some (.object (out ++ (key, x) :: ms), k)

theorem readElements_lay (hx : ReadsValue d fuel depth l (level + 1) x)
    (hs : ReadsElements d fuel depth l level (x :: out) xs) :
    ReadsElements d (fuel + 1) depth l level out (x :: xs) := by
  intro b k hb
  rw [readElements_of (hx b _ hb)]
  cases xs with
  | nil =>
    rw [Layout.layElements, skipSpace_append (l.gap_blank level), skipSpace_cons rfl,
      ← List.reverse_cons]
    rfl
  | cons y ys =>
    rw [Layout.layElements, skipSpace_cons rfl]
    refine (hs _ k (l.gap_blank (level + 1))).trans ?_
    simp

theorem readMembers_lay (hk : key ∉ Entries.keys before)
    (hx : ReadsValue d fuel depth l (level + 1) x)
    (hs : ReadsMembers d fuel depth l level (before ++ [(key, x)]) ms) :
    ReadsMembers d (fuel + 1) depth l level before ((key, x) :: ms) := by
  intro b k hb
  obtain ⟨keyed, hw, hr⟩ := exists_writeString key
    (':' :: (l.space ++ l.lay (level + 1) x (l.layMembers level ms k)))
  have hq : skipSpace (b ++ '"' :: keyed) = '"' :: keyed := by
    rw [skipSpace_append hb, skipSpace_cons rfl]
  rw [hw, readMembers_of hq hr (skipSpace_cons rfl _) (hx _ _ l.space_blank),
    Entries.put_of_not_mem hk]
  cases ms with
  | nil =>
    rw [Layout.layMembers, skipSpace_append (l.gap_blank level), skipSpace_cons rfl]
    rfl
  | cons m ms =>
    rw [Layout.layMembers, skipSpace_cons rfl]
    refine (hs _ k (l.gap_blank (level + 1))).trans ?_
    simp

theorem readValue_array (hd : depth ≠ 0) (h : ∀ x ∈ xs, Textual x)
    (hs : ReadsElements d fuel (depth - 1) l level [] xs) :
    ReadsValue d (fuel + 1) depth l level (array xs) := by
  intro b k hb
  cases xs with
  | nil =>
    have hl : l.lay level (array []) k = '[' :: ']' :: k := by simp [Layout.lay, writeLeaf]
    rw [hl, readValue_bracket hd ((skipSpace_append hb _).trans (skipSpace_cons rfl _)),
      skipSpace_cons rfl]
    rfl
  | cons x xs =>
    obtain ⟨c, cs, hc, hb', hn⟩ :=
      exists_lay (h x (by simp)) l (level + 1) (l.layElements level xs k)
    have hr := hs [] k (by simp)
    rw [List.nil_append, hc] at hr
    rw [Layout.lay, hc, readValue_bracket hd ((skipSpace_append hb _).trans (skipSpace_cons rfl _)),
      skipSpace_append (l.gap_blank _), skipSpace_cons hb']
    split
    · next he => exact absurd (List.cons.inj he).1 hn
    · exact hr

theorem readValue_object (hd : depth ≠ 0) (hs : ReadsMembers d fuel (depth - 1) l level [] ms) :
    ReadsValue d (fuel + 1) depth l level (object ms) := by
  intro b k hb
  cases ms with
  | nil =>
    have hl : l.lay level (object []) k = '{' :: '}' :: k := by simp [Layout.lay, writeLeaf]
    rw [hl, readValue_brace hd ((skipSpace_append hb _).trans (skipSpace_cons rfl _)),
      skipSpace_cons rfl]
    rfl
  | cons m ms =>
    obtain ⟨cs, hw, -⟩ := exists_writeString m.1
      (':' :: (l.space ++ l.lay (level + 1) m.2 (l.layMembers level ms k)))
    have hr := hs [] k (by simp)
    rw [List.nil_append, hw] at hr
    rw [Layout.lay, hw, readValue_brace hd ((skipSpace_append hb _).trans (skipSpace_cons rfl _)),
      skipSpace_append (l.gap_blank _), skipSpace_cons rfl]
    exact hr

theorem readValue_string (s : String) : ReadsValue d (fuel + 1) depth l level (string s) := by
  intro b k hb
  obtain ⟨cs, hw, hr⟩ := exists_writeString s k
  have hl : l.lay level (string s) k = '"' :: cs := by rw [← hw]; simp [Layout.lay, writeLeaf]
  rw [readValue, skipSpace_append hb, hl, skipSpace_cons rfl]
  change (readString [] cs).map _ = _
  rw [hr]
  rfl

theorem readValue_null : ReadsValue d (fuel + 1) depth l level null := by
  intro b k hb
  have hl : l.lay level null k = 'n' :: 'u' :: 'l' :: 'l' :: k := by simp [Layout.lay, writeLeaf]
  rw [readValue, skipSpace_append hb, hl, skipSpace_cons rfl]
  rfl

theorem readValue_bool (v : Bool) : ReadsValue d (fuel + 1) depth l level (bool v) := by
  intro b k hb
  cases v with
  | false =>
    have hl : l.lay level (bool false) k = 'f' :: 'a' :: 'l' :: 's' :: 'e' :: k := by
      simp [Layout.lay, writeLeaf]
    rw [readValue, skipSpace_append hb, hl, skipSpace_cons rfl]
    rfl
  | true =>
    have hl : l.lay level (bool true) k = 't' :: 'r' :: 'u' :: 'e' :: k := by
      simp [Layout.lay, writeLeaf]
    rw [readValue, skipSpace_append hb, hl, skipSpace_cons rfl]
    rfl

/-! The three readers with some fuel take what costs no more than that, where there is room for as
many containers as it was written with. -/

def TakesValues (d : Dialect) (l : Layout) (fuel : Nat) : Prop :=
  ∀ depth level j, ∀ n ≤ depth, Textual j → writable n j → cost j < fuel →
    ReadsValue d fuel depth l level j

def TakesElements (d : Dialect) (l : Layout) (fuel : Nat) : Prop :=
  ∀ depth level out xs, ∀ n ≤ depth, (∀ x ∈ xs, Textual x) → writableElements n xs →
    costElements xs ≤ fuel → ReadsElements d fuel depth l level out xs

def TakesMembers (d : Dialect) (l : Layout) (fuel : Nat) : Prop :=
  ∀ depth level before ms, ∀ n ≤ depth, (Entries.keys (before ++ ms)).Nodup →
    (∀ m ∈ ms, Textual m.2) → writableMembers n ms → costMembers ms ≤ fuel →
    ReadsMembers d fuel depth l level before ms

theorem takesValues_succ (he : TakesElements d l fuel) (hm : TakesMembers d l fuel) :
    TakesValues d l (fuel + 1) := by
  intro depth level j n hn ht hw hc
  cases ht with
  | null => exact readValue_null
  | bool v => exact readValue_bool v
  | string s => exact readValue_string s
  | @array xs ht =>
    cases n with
    | zero => cases hw
    | succ n =>
      rw [writable] at hw
      rw [cost] at hc
      exact readValue_array (by omega) ht
        (he (depth - 1) level [] xs n (by omega) ht hw (by omega))
  | @object ms hk ht =>
    cases n with
    | zero => cases hw
    | succ n =>
      rw [writable] at hw
      rw [cost] at hc
      exact readValue_object (by omega)
        (hm (depth - 1) level [] ms n (by omega) hk ht hw (by omega))

theorem takesElements_succ (hv : TakesValues d l fuel) (he : TakesElements d l fuel) :
    TakesElements d l (fuel + 1) := by
  rintro depth level out (_ | ⟨x, xs⟩) n hn ht hw hc
  · trivial
  · rw [writableElements, Bool.and_eq_true] at hw
    rw [costElements] at hc
    obtain ⟨hx, hs⟩ := List.forall_mem_cons.mp ht
    exact readElements_lay (hv depth (level + 1) x n hn hx hw.1 (by omega))
      (he depth level (x :: out) xs n hn hs hw.2 (by omega))

theorem takesMembers_succ (hv : TakesValues d l fuel) (hm : TakesMembers d l fuel) :
    TakesMembers d l (fuel + 1) := by
  rintro depth level before (_ | ⟨⟨key, x⟩, ms⟩) n hn hk ht hw hc
  · trivial
  · rw [writableMembers, Bool.and_eq_true] at hw
    rw [costMembers] at hc
    obtain ⟨hx, hs⟩ := List.forall_mem_cons.mp ht
    have hnew : key ∉ Entries.keys before := by
      rw [Entries.keys_append] at hk
      exact fun h => List.disjoint_of_nodup_append hk h (by simp)
    refine readMembers_lay hnew (hv depth (level + 1) x n hn hx hw.1 (by omega))
      (hm depth level (before ++ [(key, x)]) ms n hn ?_ hs hw.2 (by omega))
    rwa [List.append_assoc]

theorem readers_lay (d : Dialect) (l : Layout) (fuel : Nat) :
    TakesValues d l fuel ∧ TakesElements d l fuel ∧ TakesMembers d l fuel := by
  induction fuel with
  | zero =>
    refine ⟨fun _ _ _ _ _ _ _ h => absurd h (Nat.not_lt_zero _), ?_, ?_⟩
    · rintro depth level out (_ | ⟨x, xs⟩) n - - - h
      · trivial
      · rw [costElements] at h
        omega
    · rintro depth level before (_ | ⟨m, ms⟩) n - - - - h
      · trivial
      · rw [costMembers] at h
        omega
  | succ fuel ih =>
    obtain ⟨hv, he, hm⟩ := ih
    exact ⟨takesValues_succ he hm, takesElements_succ hv he, takesMembers_succ hv hm⟩

/-- Either text of a value is read back, wherever values may nest as deeply as they are written. -/
theorem read?_write? {indented : Bool} {text : String} (hd : depth ≤ d.maxDepth)
    (h : Textual j) (hw : write? depth indented j = some text) : read? d text = some j := by
  rw [write?] at hw
  split at hw
  · next hj =>
    obtain ⟨l, hl⟩ : ∃ l : Layout, text.toList = l.lay 0 j [] := by
      rw [← Option.some.inj hw]
      cases indented with
      | false => exact ⟨.dense, by simp [Layout.lay_dense]⟩
      | true => exact ⟨.airy, by simp [Layout.lay_airy]⟩
    have hc := cost_le_lay l 0 j []
    rw [← hl, List.length_nil] at hc
    have hr := (readers_lay d l (2 * text.toList.length + 2)).1 d.maxDepth 0 j _ hd h hj (by omega)
      [] [] (by simp)
    rw [List.nil_append, ← hl] at hr
    rw [read?, hr]
    rfl
  · cases hw

end SceneMarkup.Json
