import SceneMarkup.Disk.Basic

/-! # What writing leaves

A file that is written below missing directories is there afterwards, under all its names, and
nothing else has changed but that directories at or above its parent are new. A walk that led
somewhere still leads there as long as every directory stays one and no link comes or goes.
-/

namespace SceneMarkup.Disk

variable {d d' d'' : Disk} {p p' : Path} {place place' other : Place} {entry : Entry}
  {bytes : List UInt8} {entries : List (List Place × Entry)} {names : List String}
  {follow follow' : Place → List String → Except Fault Place} {last : Bool}

/-! ### Places -/

theorem entryIn_putIn_self (entries : List (List Place × Entry)) (place : Place) (entry : Entry) :
    entryIn (putIn entries place entry) place = some entry := by
  induction entries with
  | nil => simp [putIn, entryIn]
  | cons e entries ih =>
    rw [putIn]
    split
    · next hm => simp [entryIn, hm]
    · next hm => simpa [entryIn, hm] using ih

theorem entryIn_putIn (entries : List (List Place × Entry)) (place other : Place) (entry : Entry) :
    entryIn (putIn entries place entry) other = entryIn entries other ∨
      entryIn (putIn entries place entry) other = some entry ∧
        (other = place ∨ other ∈ namesIn entries place ∧
          entryIn entries other = entryIn entries place) := by
  induction entries with
  | nil => by_cases h : other = place <;> simp [putIn, entryIn, h]
  | cons e entries ih =>
    rw [putIn]
    split
    · next hm =>
      by_cases ho : other ∈ e.1
      · exact .inr ⟨by simp [entryIn, ho], .inr ⟨by simpa [namesIn, hm] using ho,
          by simp [entryIn, ho, hm]⟩⟩
      · exact .inl (by simp [entryIn, ho])
    · next hm =>
      by_cases ho : other ∈ e.1
      · exact .inl (by simp [entryIn, ho])
      · simpa [entryIn, namesIn, ho, hm] using ih

theorem namesIn_putIn (h : entryIn entries place = none) (hne : other ≠ place) :
    namesIn (putIn entries place entry) other = namesIn entries other := by
  induction entries with
  | nil => simp [putIn, namesIn, hne]
  | cons e entries ih =>
    rw [entryIn] at h
    split at h
    · cases h
    · next hm =>
      rw [putIn, if_neg hm, namesIn, namesIn, ih h]

theorem ne_nil_of_at? (h : d.at? place ≠ some .directory) : place ≠ [] := by
  rintro rfl
  exact h rfl

theorem at?_of_ne_nil (h : place ≠ []) : d.at? place = entryIn d.entries place := by
  rw [at?, List.isEmpty_eq_false_iff.mpr h]
  rfl

theorem at?_put_self (h : d.at? place ≠ some .directory) :
    (d.put place entry).at? place = some entry :=
  (at?_of_ne_nil (ne_nil_of_at? h)).trans (entryIn_putIn_self ..)

/-- What is put somewhere is seen there and under its other names, and all else is as it was. -/
theorem at?_put (h : d.at? place ≠ some .directory) (other : Place) (entry : Entry) :
    (d.put place entry).at? other = d.at? other ∨
      (d.put place entry).at? other = some entry ∧ d.at? other = d.at? place ∧
        (other = place ∨ other ∈ d.names place) := by
  by_cases ho : other = []
  · subst ho
    exact .inl rfl
  · rw [at?_of_ne_nil ho, at?_of_ne_nil ho, at?_of_ne_nil (ne_nil_of_at? h)]
    rcases entryIn_putIn d.entries place other entry with he | ⟨he, rfl | ⟨hm, hs⟩⟩
    · exact .inl he
    · exact .inr ⟨he, rfl, .inl rfl⟩
    · exact .inr ⟨he, hs, .inr hm⟩

theorem at?_put_of_ne (h : d.at? place ≠ some .directory) (hn : other ∉ d.names place)
    (hne : other ≠ place) : (d.put place entry).at? other = d.at? other := by
  rcases at?_put h other entry with ha | ⟨-, -, rfl | hm⟩
  · exact ha
  · exact absurd rfl hne
  · exact absurd hm hn

theorem names_eq_nil (h : d.at? place = none) : d.names place = [] := by
  have hd : d.at? place ≠ some .directory := by simp [h]
  have he : entryIn d.entries place = none := (at?_of_ne_nil (ne_nil_of_at? hd)).symm.trans h
  rw [names]
  generalize d.entries = entries at he
  induction entries with
  | nil => rfl
  | cons e entries ih =>
    rw [entryIn] at he
    split at he
    · cases he
    · next hm => rw [namesIn, if_neg hm, ih he]

/-! ### Walks -/

/-- On the second disk all directories of the first are there, and the same links. -/
structure KeepsWays (d d' : Disk) : Prop where
  here : d'.here = d.here
  directory : ∀ place, d.at? place = some .directory → d'.at? place = some .directory
  link : ∀ place target, d'.at? place = some (.link target) ↔ d.at? place = some (.link target)

theorem KeepsWays.step (h : d.KeepsWays d') {name : String} (hs : d.step place name = .ok place') :
    d'.step place name = .ok place' := by
  unfold Disk.step at hs ⊢
  split at hs
  · next ha => rwa [h.directory place ha]
  · cases hs
  · cases hs

theorem KeepsWays.walkWith (h : d.KeepsWays d')
    (hf : ∀ place names r, follow place names = .ok r → follow' place names = .ok r)
    (hs : d.walkWith follow last place names = .ok place') :
    d'.walkWith follow' last place names = .ok place' := by
  induction names generalizing place with
  | nil => exact hs
  | cons name names ih =>
    rw [Disk.walkWith] at hs ⊢
    cases hstep : d.step place name with
    | error f =>
      rw [hstep] at hs
      cases hs
    | ok next =>
      rw [hstep] at hs
      rw [h.step hstep]
      dsimp only at hs ⊢
      split at hs
      · next target ha =>
        rw [(h.link next target).mpr ha]
        dsimp only
        split at hs
        · next he => rwa [if_pos he]
        · next he =>
          rw [if_neg he]
          exact hf _ _ _ hs
      · next hne =>
        split
        · next target ha => exact absurd ((h.link next target).mp ha) (hne target)
        · exact ih hs

theorem KeepsWays.walk (h : d.KeepsWays d') {links : Nat}
    (hs : d.walk last links place names = .ok place') :
    d'.walk last links place names = .ok place' := by
  induction links generalizing place names place' with
  | zero => exact h.walkWith (fun _ _ _ => id) hs
  | succ links ih => exact h.walkWith (fun _ _ _ => ih) hs

/-- What a path leads to, it leads to on every disk that keeps the ways. -/
theorem KeepsWays.trace (h : d.KeepsWays d') (hs : d.trace last p = .ok place) :
    d'.trace last p = .ok place := by
  unfold Disk.trace at hs ⊢
  rw [show d'.start p = d.start p by rw [start, start, h.here]]
  split at hs
  · cases hs
  · next hn =>
    split at hs
    · cases hs
    · next hl =>
      rw [if_neg hn, if_neg hl]
      exact h.walk hs

theorem walkWith_of_not_link (ha : ∀ target, d.at? place' ≠ some (.link target))
    (hf : ∀ place names, follow place names = .ok place' → follow' place names = .ok place')
    (hs : d.walkWith follow false place names = .ok place') :
    d.walkWith follow' true place names = .ok place' := by
  induction names generalizing place with
  | nil => exact hs
  | cons name names ih =>
    rw [walkWith] at hs ⊢
    cases hstep : d.step place name with
    | error f =>
      rw [hstep] at hs
      cases hs
    | ok next =>
      rw [hstep] at hs
      dsimp only at hs ⊢
      split at hs
      · next target hl =>
        rw [Bool.not_true, Bool.and_false, if_neg Bool.false_ne_true]
        split at hs
        · obtain rfl := Except.ok.inj hs
          exact absurd hl (ha target)
        · exact hf _ _ hs
      · exact ih hs

theorem walk_of_not_link (ha : ∀ target, d.at? place' ≠ some (.link target)) {links : Nat}
    (hs : d.walk false links place names = .ok place') :
    d.walk true links place names = .ok place' := by
  induction links generalizing place names with
  | zero => exact walkWith_of_not_link ha (fun _ _ => id) hs
  | succ links ih => exact walkWith_of_not_link ha (fun _ _ => ih) hs

theorem locate_of_locateName (hl : d.locateName p = .ok place)
    (ha : ∀ target, d.at? place ≠ some (.link target)) : d.locate p = .ok place := by
  unfold locateName locate trace at *
  split at hl
  · cases hl
  · next hn =>
    split at hl
    · cases hl
    · next hs =>
      rw [if_neg hn, if_neg hs]
      exact walk_of_not_link ha hl

/-- Putting a directory where nothing was, or a file where nothing or a file was, keeps the ways. -/
theorem keepsWays_put (h : ∀ e, d.at? place = some e → ∃ bytes, e = .file bytes)
    (he : ∀ target, entry ≠ .link target) : d.KeepsWays (d.put place entry) := by
  have hd : d.at? place ≠ some .directory := fun ha => nomatch (h _ ha).choose_spec
  refine ⟨rfl, fun other ho => ?_, fun other target => ?_⟩
  · rcases at?_put hd other entry with ha | ⟨-, ha, -⟩
    · rwa [ha]
    · exact absurd (ha ▸ ho) hd
  · rcases at?_put hd other entry with ha | ⟨ha, ha', -⟩
    · rw [ha]
    · rw [ha, ha']
      refine ⟨fun hl => absurd (Option.some.inj hl) (he target), fun hl => ?_⟩
      cases (h _ hl).choose_spec

/-! ### Directories -/

/-- A path leads to the place, or a leading part of the path does. -/
def Passes (d : Disk) (p : Path) (place : Place) : Prop :=
  ∃ q : Path, q.root = p.root ∧ q.parts <+: p.parts ∧ d.locate q = .ok place

/-- The second disk is the first, with directories made where there was nothing, all of them on
the way that the path takes. -/
structure Cleared (d : Disk) (p : Path) (d' : Disk) : Prop where
  here : d'.here = d.here
  at? : ∀ place, d'.at? place = d.at? place ∨
    d.at? place = none ∧ d'.at? place = some .directory ∧ d'.Passes p place
  names : ∀ place, d.at? place ≠ none → d'.names place = d.names place

theorem Cleared.keepsWays (h : d.Cleared p d') : d.KeepsWays d' := by
  refine ⟨h.here, fun place hp => ?_, fun place target => ?_⟩
  · rcases h.at? place with ha | ⟨-, ha, -⟩
    · rw [ha, hp]
    · exact ha
  · rcases h.at? place with ha | ⟨ha, ha', -⟩
    · rw [ha]
    · simp [ha, ha']

theorem Cleared.refl (d : Disk) (p : Path) : d.Cleared p d :=
  ⟨rfl, fun _ => .inl rfl, fun _ _ => rfl⟩

theorem Cleared.mono (h : d.Cleared p d') (hr : p.root = p'.root) (hp : p.parts <+: p'.parts) :
    d.Cleared p' d' := by
  refine ⟨h.here, fun place => ?_, h.names⟩
  rcases h.at? place with ha | ⟨ha, ha', q, hq, hq', hl⟩
  · exact .inl ha
  · exact .inr ⟨ha, ha', q, hq.trans hr, hq'.trans hp, hl⟩

theorem Cleared.trans (h : d.Cleared p d') (h' : d'.Cleared p d'') : d.Cleared p d'' := by
  have hk := h'.keepsWays
  refine ⟨h'.here.trans h.here, fun place => ?_, fun place hp => ?_⟩
  · rcases h.at? place with ha | ⟨ha, ha', q, hq, hq', hl⟩
    · rw [← ha]
      exact h'.at? place
    · exact .inr ⟨ha, hk.directory place ha', q, hq, hq', hk.trace hl⟩
  · rw [← h.names place hp]
    refine h'.names place ?_
    rcases h.at? place with ha | ⟨-, ha, -⟩
    · rwa [ha]
    · simp [ha]

theorem cleared_of_makeDirectory (h : d.makeDirectory p = .ok d') : d.Cleared p d' := by
  unfold makeDirectory at h
  split at h
  · cases h
  · next place hl =>
    split at h
    · cases h
    · next ha =>
      obtain rfl := Except.ok.inj h
      have hd : d.at? place ≠ some .directory := by simp [ha]
      have hk : d.KeepsWays (d.put place .directory) := keepsWays_put (by simp [ha]) nofun
      have hself : (d.put place .directory).at? place = some .directory := at?_put_self hd
      refine ⟨rfl, fun other => ?_, fun other ho => ?_⟩
      · by_cases hne : other = place
        · subst hne
          refine .inr ⟨ha, hself, p, rfl, List.prefix_refl _, ?_⟩
          exact locate_of_locateName (hk.trace hl) (by simp [hself])
        · exact .inl (at?_put_of_ne hd (by simp [names_eq_nil ha]) hne)
      · refine namesIn_putIn ((at?_of_ne_nil (ne_nil_of_at? hd)).symm.trans ha) ?_
        rintro rfl
        exact ho ha

theorem cleared_ensureDirectory (d : Disk) (p : Path) : d.Cleared p (d.ensureDirectory p).2 := by
  unfold ensureDirectory
  split
  · next h => exact cleared_of_makeDirectory h
  · exact .refl d p
  · exact .refl d p

/-- The directories that are made on the way to a path lie on it, also when there is a fault. -/
theorem cleared_ensureDirectoriesRev (d : Disk) (root : Root) (partsRev : List String) :
    d.Cleared ⟨root, partsRev.reverse⟩ (d.ensureDirectoriesRev root partsRev).2 := by
  induction partsRev generalizing d with
  | nil => exact cleared_ensureDirectory d _
  | cons name above ih =>
    have ha : d.Cleared ⟨root, (name :: above).reverse⟩ (d.ensureDirectoriesRev root above).2 :=
      (ih d).mono rfl (by simp)
    unfold ensureDirectoriesRev
    dsimp only
    split
    · split
      · next he => exact (he ▸ ha).trans (cleared_ensureDirectory _ _)
      · next he => exact he ▸ ha
    · exact cleared_ensureDirectory d _

theorem cleared_ensureDirectories (d : Disk) (p : Path) :
    d.Cleared p (d.ensureDirectories p).2 := by
  have h := cleared_ensureDirectoriesRev d p.root p.parts.reverse
  rwa [List.reverse_reverse] at h

/-! ### Files -/

/-- The place is that of a file, or another name that the file had before. -/
def IsName (d : Disk) (target place : Place) : Prop := place = target ∨ place ∈ d.names target

/-- The second disk is the first with a file written: reading the path gives the bytes, all names of
the file lead to them, and all else is as before but for directories that were missing on the way. -/
structure Written (d : Disk) (p : Path) (bytes : List UInt8) (d' : Disk) : Prop where
  here : d'.here = d.here
  read : d'.read p = .ok bytes
  at? : ∀ place, d'.at? place = d.at? place ∨
    (d.at? place = none ∧ d'.at? place = some .directory ∧ d'.Passes p.parent place) ∨
    d'.at? place = some (.file bytes) ∧ ∃ target, d'.locate p = .ok target ∧ d.IsName target place

/-- A path leads to a device. -/
def LeadsToDevice (d : Disk) (p : Path) : Prop :=
  ∃ place bytes, d.locate p = .ok place ∧ d.at? place = some (.device bytes)

theorem written_of_put (hc : d.Cleared p.parent d') (hl : d'.locate p = .ok place)
    (ha : ∀ e, d'.at? place = some e → ∃ bytes, e = .file bytes) :
    d.Written p bytes (d'.put place (.file bytes)) := by
  have hd : d'.at? place ≠ some .directory := fun h => nomatch (ha _ h).choose_spec
  have hk : d'.KeepsWays (d'.put place (.file bytes)) := keepsWays_put ha nofun
  refine ⟨hc.here, ?_, fun other => ?_⟩
  · have hl' : (d'.put place (.file bytes)).locate p = .ok place := hk.trace hl
    rw [Disk.read, hl']
    dsimp only
    rw [at?_put_self hd]
  · rcases at?_put hd other (.file bytes) with ho | ⟨ho, hs, hn⟩
    · rcases hc.at? other with h | ⟨h, h', q, hr, hq, hp⟩
      · exact .inl (ho.trans h)
      · exact .inr (.inl ⟨h, ho.trans h', q, hr, hq, hk.trace hp⟩)
    · refine .inr (.inr ⟨ho, place, hk.trace hl, ?_⟩)
      rcases hn with rfl | hn
      · exact .inl rfl
      · refine .inr (hc.names place (fun h => ?_) ▸ hn)
        rcases hc.at? place with h' | ⟨-, h', -⟩
        · rw [names_eq_nil (h'.trans h)] at hn
          cases hn
        · exact hd h'

theorem written_of_writeBelow (h : d.writeBelow p bytes = (.ok (), d')) :
    d.Written p bytes d' ∨ d.Cleared p.parent d' ∧ d'.LeadsToDevice p := by
  have hc := cleared_ensureDirectories d p.parent
  unfold writeBelow at h
  split at h
  · cases h
  · next d₁ he =>
    rw [he] at hc
    unfold write at h
    split at h
    · next hw =>
      obtain rfl := congrArg Prod.snd h
      split at hw
      · cases hw
      · next place hl =>
        split at hw
        · cases hw
        · cases hw
        · next b ha =>
          obtain rfl := Except.ok.inj hw
          exact .inr ⟨hc, place, b, hl, ha⟩
        · next b ha =>
          obtain rfl := Except.ok.inj hw
          exact .inl (written_of_put hc hl (by simp [ha]))
        · next ha =>
          obtain rfl := Except.ok.inj hw
          exact .inl (written_of_put hc hl (by simp [ha]))
    · cases h

end SceneMarkup.Disk
