import Mathlib.Data.List.Basic
import SceneMarkup.DomainName.Basic
import SceneMarkup.Proofs.DomainName.Punycode
import SceneMarkup.Proofs.Text.Splitting

/-! # ASCII forms of domain names

The ASCII form of a name holds nothing but ASCII, keeps to the lengths of names and labels, and is
read as the name itself.
-/

namespace SceneMarkup.DomainName

open Text

variable {label form name before cs : List Char} {c : Char}

/-! ### Characters -/

/-- No run has a capital letter of ASCII. -/
theorem runs_apart_from_capitals :
    permittedRuns.all (fun r => r.last < 65 || 90 < r.first) = true := by decide +kernel

theorem not_isPermitted_capital (h : 65 ≤ c.toNat) (h' : c.toNat ≤ 90) : isPermitted c = false := by
  have ha := List.all_eq_true.mp runs_apart_from_capitals
  rw [isPermitted, List.any_eq_false]
  intro r hr hc
  have := ha r hr
  simp only [Run.has, Bool.and_eq_true, Bool.or_eq_true, decide_eq_true_eq] at hc this
  omega

theorem not_needsContext_of_ascii (h : c.toNat < 128) : needsContext c = false := by
  simp [needsContext, isJoiner, isArabicDigit, isPersianDigit]
  omega

theorem toLower_of_not_capital (h : ¬ (65 ≤ c.toNat ∧ c.toNat ≤ 90)) : c.toLower = c :=
  dif_neg fun hc => h ⟨UInt32.le_iff_toNat_le.mp (show (65 : UInt32) ≤ c.val from hc.1),
    UInt32.le_iff_toNat_le.mp (show c.val ≤ 90 from hc.2)⟩

theorem checkCharacters_ok (h : checkCharacters before cs = .ok ()) :
    ∀ c ∈ cs, isPermitted c ∨ needsContext c := by
  induction cs generalizing before with
  | nil => simp
  | cons c cs ih =>
    rw [checkCharacters] at h
    split at h
    · next hc => exact List.forall_mem_cons.mpr ⟨.inl hc, ih h⟩
    · split at h
      · cases h
      · next hc =>
        split at h
        · exact List.forall_mem_cons.mpr ⟨.inr (by simpa using hc), ih h⟩
        · split at h <;> cases h

theorem check_ok (h : check label = .ok ()) :
    label ≠ [] ∧ ∀ c ∈ label, isPermitted c ∨ needsContext c := by
  rw [check] at h
  split at h
  · cases h
  · next hf =>
    constructor
    · rintro rfl
      simp at hf
    · cases hc : checkCharacters [] label with
      | error e =>
        rw [hc] at h
        cases h
      | ok u => exact checkCharacters_ok hc

theorem not_capital_of_check (h : check label = .ok ()) (hm : c ∈ label) :
    ¬ (65 ≤ c.toNat ∧ c.toNat ≤ 90) := by
  rintro ⟨hlow, hhigh⟩
  rcases (check_ok h).2 c hm with hp | hn
  · rw [not_isPermitted_capital hlow hhigh] at hp
    cases hp
  · rw [not_needsContext_of_ascii (by omega)] at hn
    cases hn

theorem digitChar_bounds {m : Nat} (h : m < Punycode.base) :
    (Punycode.digitChar m).toNat < 128 ∧ ¬ (65 ≤ (Punycode.digitChar m).toNat ∧
      (Punycode.digitChar m).toNat ≤ 90) ∧ isDot (Punycode.digitChar m) = false := by
  have hd : ∀ m ∈ List.range Punycode.base, (Punycode.digitChar m).toNat < 128 ∧
      ¬ (65 ≤ (Punycode.digitChar m).toNat ∧ (Punycode.digitChar m).toNat ≤ 90) ∧
      isDot (Punycode.digitChar m) = false := by decide
  exact hd m (List.mem_range.mpr h)

/-! ### Labels -/

theorem readLabel_mark (h : check label = .ok ()) (hn : isAscii label = false) :
    isAscii (asciiMark ++ Punycode.encode label) ∧
      readLabel (asciiMark ++ Punycode.encode label) = .ok label := by
  have hc : ∀ c ∈ asciiMark ++ Punycode.encode label,
      c.toNat < 128 ∧ ¬ (65 ≤ c.toNat ∧ c.toNat ≤ 90) := by
    intro c hm
    rcases List.mem_append.mp hm with hm | hm
    · have hd : ∀ c ∈ asciiMark, c.toNat < 128 ∧ ¬ (65 ≤ c.toNat ∧ c.toNat ≤ 90) := by
        simp [asciiMark]
      exact hd c hm
    · rcases Punycode.mem_encode hm with ⟨hm, hlt⟩ | rfl | ⟨m, hd, rfl⟩
      · exact ⟨hlt, not_capital_of_check h hm⟩
      · decide
      · exact ⟨(digitChar_bounds hd).1, (digitChar_bounds hd).2.1⟩
  have ha : isAscii (asciiMark ++ Punycode.encode label) = true :=
    List.all_eq_true.mpr fun c hm => decide_eq_true (hc c hm).1
  have hsmall : (asciiMark ++ Punycode.encode label).map Char.toLower =
      asciiMark ++ Punycode.encode label :=
    List.map_congr_left (fun c hm => toLower_of_not_capital (hc c hm).2) |>.trans (List.map_id' _)
  have hx : ∃ x ∈ label, Punycode.firstInserted ≤ x.toNat := by
    simpa [isAscii, Punycode.firstInserted] using hn
  obtain ⟨m, hm, hl⟩ := Punycode.getLast?_encode hx
  have hne : (Punycode.encode label).isEmpty = false := by
    cases he : Punycode.encode label with
    | nil => simp [he] at hl
    | cons => rfl
  have hmark : asciiMark.isPrefixOf? (asciiMark ++ Punycode.encode label) =
      some (Punycode.encode label) := List.isPrefixOf?_eq_some_iff_append_eq.mpr rfl
  refine ⟨ha, ?_⟩
  simp [readLabel, ha, hsmall, hmark, hne, hl, Punycode.digitChar_ne_hyphen hm,
    Punycode.decode?_encode, h]

theorem readLabel_of_not_ascii (hn : isAscii label = false) :
    readLabel label = (check label).map fun _ => label := by
  rw [readLabel, hn, if_neg Bool.false_ne_true]
  cases check label <;> rfl

/-- The ASCII form of a label is read as the label. -/
structure IsForm (label form : List Char) : Prop where
  length : form.length ≤ maxLabel
  ascii : isAscii form
  read : readLabel form = readLabel label
  readable : ∃ text, readLabel label = .ok text
  dots : (∀ c ∈ label, isDot c = false) → ∀ c ∈ form, isDot c = false

theorem isForm_of_asciiLabel (h : asciiLabel label = .ok form) : IsForm label form := by
  rw [asciiLabel] at h
  cases ha : isAscii label with
  | true =>
    cases hr : readLabel label with
    | error e =>
      rw [ha, hr] at h
      cases h
    | ok text =>
      rw [ha, hr] at h
      change (if label.length > maxLabel then Except.error Problem.form else .ok label) = _ at h
      split at h
      · cases h
      · next hl =>
        obtain rfl := Except.ok.inj h
        exact ⟨Nat.not_lt.mp hl, ha, rfl, ⟨text, hr⟩, id⟩
  | false =>
    cases hc : check label with
    | error e =>
      rw [ha, hc] at h
      cases h
    | ok u =>
      have hr : readLabel label = .ok label := by
        rw [readLabel_of_not_ascii ha, hc]
        rfl
      obtain ⟨hm, hmark⟩ := readLabel_mark hc ha
      rw [ha, hc] at h
      change (if (asciiMark ++ Punycode.encode label).length > maxLabel then
        Except.error Problem.form else .ok (asciiMark ++ Punycode.encode label)) = _ at h
      split at h
      · cases h
      · next hl =>
        obtain rfl := Except.ok.inj h
        refine ⟨Nat.not_lt.mp hl, hm, hmark.trans hr.symm, ⟨label, hr⟩, fun hd c hm => ?_⟩
        rcases List.mem_append.mp hm with hm | hm
        · have hdots : ∀ c ∈ asciiMark, isDot c = false := by simp [asciiMark, isDot]
          exact hdots c hm
        · rcases Punycode.mem_encode hm with ⟨hm, -⟩ | rfl | ⟨m, hd, rfl⟩
          · exact hd c hm
          · decide
          · exact (digitChar_bounds hd).2.2

theorem IsForm.ne_nil (h : IsForm label form) : form ≠ [] := by
  rintro rfl
  obtain ⟨text, ht⟩ := h.readable
  cases h.read.trans ht

/-! ### Names -/

variable {ls forms : List (List Char)} {isEnded : Bool}

theorem forall₂_isForm (h : ls.mapM asciiLabel = .ok forms) : List.Forall₂ IsForm ls forms := by
  induction ls generalizing forms with
  | nil =>
    obtain rfl := Except.ok.inj h
    exact .nil
  | cons l ls ih =>
    rw [List.mapM_cons] at h
    cases hl : asciiLabel l with
    | error e =>
      rw [hl] at h
      cases h
    | ok form =>
      cases hs : ls.mapM asciiLabel with
      | error e =>
        rw [hl, hs] at h
        cases h
      | ok forms' =>
        rw [hl, hs] at h
        obtain rfl := Except.ok.inj h
        exact .cons (isForm_of_asciiLabel hl) (ih hs)

theorem mapM_readLabel (h : List.Forall₂ IsForm ls forms) :
    forms.mapM readLabel = ls.mapM readLabel ∧ ∃ texts, ls.mapM readLabel = .ok texts := by
  induction h with
  | nil => exact ⟨rfl, [], rfl⟩
  | cons h _ ih =>
    obtain ⟨he, texts, ht⟩ := ih
    obtain ⟨text, hr⟩ := h.readable
    rw [List.mapM_cons, List.mapM_cons, h.read, he, hr, ht]
    exact ⟨rfl, text :: texts, rfl⟩

/-- What a dot at the end of a name leaves behind it. -/
def ending (isEnded : Bool) : List (List Char) := if isEnded then [[]] else []

theorem splitOnP_isDot (h : labels name = (ls, isEnded)) :
    splitOnP isDot name = ls ++ ending isEnded := by
  rw [labels] at h
  split at h
  · next hl =>
    obtain ⟨rfl, rfl⟩ := Prod.mk.inj h
    obtain ⟨front, hf⟩ := List.getLast?_eq_some_iff.mp (beq_iff_eq.mp hl)
    rw [hf, List.dropLast_concat]
    rfl
  · obtain ⟨rfl, rfl⟩ := Prod.mk.inj h
    exact (List.append_nil _).symm

theorem labels_join (hd : ∀ l ∈ ls, l ≠ [] ∧ ∀ c ∈ l, isDot c = false)
    (hn : ls ++ ending isEnded ≠ []) :
    labels (join ['.'] (ls ++ ending isEnded)) = (ls, isEnded) := by
  have hs : splitOnP isDot (join ['.'] (ls ++ ending isEnded)) = ls ++ ending isEnded := by
    refine splitOnP_intercalate hn (fun piece hp => ?_) rfl
    rcases List.mem_append.mp hp with hp | hp
    · exact (hd piece hp).2
    · cases isEnded with
      | false => cases hp
      | true =>
        obtain rfl := List.mem_singleton.mp hp
        simp
  rw [labels, hs]
  cases isEnded with
  | true => simp [ending]
  | false =>
    have hl : ls.getLast? ≠ some [] := fun hl => (hd [] (List.mem_of_getLast? hl)).1 rfl
    simp [ending, hl]

theorem mapLabels_eq {f : List Char → Except Problem (List Char)}
    (hl : labels name = (ls, isEnded)) :
    mapLabels f name = if name.isEmpty || decide (name.length > maxName + 1) then .error .form
      else (ls.mapM f).map fun forms => join ['.'] (forms ++ ending isEnded) := by
  rw [mapLabels, hl]
  split
  · rfl
  · dsimp only
    cases ls.mapM f <;> rfl

theorem isDot_of_mem_labels (hl : labels name = (ls, isEnded)) {l : List Char} (hm : l ∈ ls) :
    ∀ c ∈ l, isDot c = false := by
  intro c hc
  have hs : l ∈ splitOnP isDot name := splitOnP_isDot hl ▸ List.mem_append_left _ hm
  exact (exists_mem_splitOnP_iff.mp ⟨l, hs, hc⟩).2

theorem mem_join {c : Char} (h : c ∈ join ['.'] forms) : c = '.' ∨ ∃ l ∈ forms, c ∈ l := by
  induction forms with
  | nil => cases h
  | cons l forms ih =>
    cases forms with
    | nil =>
      rw [join, List.intercalate_singleton] at h
      exact .inr ⟨l, List.mem_cons_self, h⟩
    | cons l' forms =>
      rw [join, List.intercalate_cons_cons, List.append_assoc, List.mem_append,
        List.mem_append] at h
      rcases h with h | h | h
      · exact .inr ⟨l, List.mem_cons_self, h⟩
      · exact .inl (List.mem_singleton.mp h)
      · exact (ih h).imp_right fun ⟨k, hk, hc⟩ => ⟨k, List.mem_cons_of_mem _ hk, hc⟩

theorem isAscii_join (h : ∀ l ∈ forms, isAscii l) :
    isAscii (join ['.'] (forms ++ ending isEnded)) := by
  refine List.all_eq_true.mpr fun c hm => ?_
  rcases mem_join hm with rfl | ⟨l, hl, hc⟩
  · rfl
  · rcases List.mem_append.mp hl with hl | hl
    · exact List.all_eq_true.mp (h l hl) c hc
    · cases isEnded with
      | false => cases hl
      | true =>
        obtain rfl := List.mem_singleton.mp hl
        cases hc

theorem eq_nil_of_splitOnP {p : Char → Bool} (h : splitOnP p name = [[]]) : name = [] := by
  have he := extent_splitOnP p name
  rw [h, extent, extent, List.length_nil] at he
  exact List.length_eq_zero_iff.mp (by omega)

theorem labels_join_forms (hl : labels name = (ls, isEnded)) (hn : name ≠ [])
    (hf : List.Forall₂ IsForm ls forms) :
    labels (join ['.'] (forms ++ ending isEnded)) = (forms, isEnded) ∧
      join ['.'] (forms ++ ending isEnded) ≠ [] := by
  have hs := splitOnP_isDot hl
  have hd : ∀ l ∈ forms, l ≠ [] ∧ ∀ c ∈ l, isDot c = false := by
    intro l hm
    obtain ⟨label, hlabel, hi⟩ := exists_of_mem_right hf hm
    exact ⟨hi.ne_nil, hi.dots (isDot_of_mem_labels hl hlabel)⟩
  have hne : forms ++ ending isEnded ≠ [] := by
    intro he
    obtain ⟨rfl, he⟩ := List.append_eq_nil_iff.mp he
    cases hf
    exact splitOnP_ne_nil isDot name (hs.trans he)
  have hj := labels_join hd hne
  refine ⟨hj, fun he => ?_⟩
  rw [he] at hj
  obtain ⟨rfl, rfl⟩ := Prod.mk.inj (hj.symm.trans (show labels [] = ([], true) from rfl))
  cases hf
  exact hn (eq_nil_of_splitOnP hs)

/-- The ASCII form of a name holds nothing but ASCII, keeps to the lengths of names and labels, and
is read as the name. -/
theorem ofAscii_toAscii (h : toAscii name = .ok form) :
    isAscii form ∧ form.length ≤ maxName + 1 ∧ (∀ l ∈ (labels form).1, l.length ≤ maxLabel) ∧
      ofAscii form = ofAscii name ∧ ∃ text, ofAscii name = .ok text := by
  generalize hl : labels name = parts at h
  obtain ⟨ls, isEnded⟩ := parts
  rw [toAscii, mapLabels_eq hl, hl] at h
  split at h
  · cases h
  · next hn =>
    cases hm : ls.mapM asciiLabel with
    | error e =>
      rw [hm] at h
      cases h
    | ok forms =>
      rw [hm] at h
      change (if (join ['.'] (forms ++ ending isEnded)).length > maxName + isEnded.toNat then
        Except.error Problem.form else .ok (join ['.'] (forms ++ ending isEnded))) = _ at h
      split at h
      · cases h
      · next hlen =>
        obtain rfl := Except.ok.inj h
        have hf := forall₂_isForm hm
        have hi : ∀ l ∈ forms, ∃ label, IsForm label l := fun l hm =>
          (exists_of_mem_right hf hm).imp fun _ h => h.2
        obtain ⟨hread, texts, htexts⟩ := mapM_readLabel hf
        obtain ⟨hj, hne⟩ := labels_join_forms hl (by rintro rfl; simp at hn) hf
        have hle : (join ['.'] (forms ++ ending isEnded)).length ≤ maxName + 1 :=
          Nat.le_trans (Nat.not_lt.mp hlen) (Nat.add_le_add_left (Bool.toNat_le isEnded) _)
        have hc : ¬ ((join ['.'] (forms ++ ending isEnded)).isEmpty ||
            decide ((join ['.'] (forms ++ ending isEnded)).length > maxName + 1)) = true := by
          simp [hne, hle]
        refine ⟨isAscii_join fun l hm => ?_, hle, fun l hm => ?_, ?_, ?_⟩
        · obtain ⟨label, h⟩ := hi l hm
          exact h.ascii
        · rw [hj] at hm
          obtain ⟨label, h⟩ := hi l hm
          exact h.length
        · rw [ofAscii, ofAscii, mapLabels_eq hj, mapLabels_eq hl, if_neg hc, if_neg hn, hread]
        · rw [ofAscii, mapLabels_eq hl, if_neg hn, htexts]
          exact ⟨_, rfl⟩

end SceneMarkup.DomainName
