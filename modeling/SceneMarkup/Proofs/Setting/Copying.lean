import SceneMarkup.Proofs.Setting.Memory

/-! # Copies

A datum that shares no object is copied to new objects that denote the same, and all that was in
memory before stays there. It fails for want of room exactly where the value has too many levels.
-/

namespace SceneMarkup.Setting

/-- Data were copied to new ones, and copies begun of no objects but those that they lead to. -/
structure CopiedTo (c : Copying) (as : List Nat) (vs : List Value) (ds : List Datum)
    (c' : Copying) : Prop where
  new : New c.memory ds vs c'.memory
  begun : ∀ a, a ∉ as → c'.begun.lookup a = c.begun.lookup a

def CopiesWithin (room : Nat) (copy : Datum → Copying → Except Misuse (Datum × Copying)) : Prop :=
  ∀ c d v as, Denotes c.memory [d] [v] as → as.Nodup → (∀ a ∈ as, c.begun.lookup a = none) →
    (v.levels ≤ room → ∃ d' c', copy d c = .ok (d', c') ∧ CopiedTo c as [v] [d'] c') ∧
    (room < v.levels → copy d c = .error .tooDeep)

variable {m m' : Memory} {c : Copying} {d d' : Datum} {ds : List Datum} {v : Value}
  {vs : List Value} {a room : Nat} {as : List Nat} {fs : Entries Value}
  {copier : Datum → Copying → Except Misuse (Datum × Copying)}

/-! ### Objects -/

theorem levelsOfEntries_eq (fs : Entries Value) :
    Value.levelsOfEntries fs = Value.levelsOfElements (fs.map Prod.snd) := by
  induction fs with
  | nil => rfl
  | cons f fs ih =>
    rw [Value.levelsOfEntries, ih]
    rfl

theorem levels_list (us : List Value) :
    (Value.list us).levels = 1 + Value.levelsOfElements us := by
  rw [Value.levels]

theorem levels_table (fs : Entries Value) :
    (Value.table fs).levels = 1 + Value.levelsOfElements (fs.map Prod.snd) := by
  cases fs with
  | nil => rfl
  | cons f fs =>
    have hl := Value.levels_pos f.2
    rw [Value.levels, levelsOfEntries_eq]
    simp only [List.map_cons, Value.levelsOfElements]
    omega

/-- An object denotes what it holds, in the form that its kind gives it, and so does any other one
that is filled with data for the same values. -/
theorem Denotes.exists_cell (h : Denotes m [.object a] [v] as) : ∃ cell us bs,
    m[a]? = some cell ∧ Denotes m cell.data us bs ∧ as = a :: bs ∧
    v.levels = 1 + Value.levelsOfElements us ∧
    ∀ m' b ds cs, m'[b]? = some (cell.refill ds) → Denotes m' ds us cs →
      Denotes m' [.object b] [v] (b :: cs) := by
  cases h with
  | @list _ xs us bs _ _ _ ha hx h =>
    cases h with
    | nil =>
      refine ⟨.list xs, us, bs, ha, hx, List.append_nil _, levels_list us, ?_⟩
      intro m' b ds cs hb hd
      exact List.append_nil (b :: cs) ▸ .list hb hd .nil
  | @table _ es fs bs _ _ _ ha hn hk hx h =>
    cases h with
    | nil =>
      refine ⟨.table es, fs.map Prod.snd, bs, ha, hx, List.append_nil _, levels_table fs, ?_⟩
      intro m' b ds cs hb hd
      have hl : ds.length = es.length := by
        rw [hd.length_eq, List.length_map]
        simpa [Entries.keys] using congrArg List.length hk
      have hf : Entries.keys ((es.map Prod.fst).zip ds) = Entries.keys es := by
        rw [Entries.keys, List.map_fst_zip (by simp [hl]), Entries.keys]
      have hs : ((es.map Prod.fst).zip ds).map Prod.snd = ds := List.map_snd_zip (by simp [hl])
      exact Denotes.table_iff.mpr ⟨_, cs, hb, hf ▸ hn, ⟨hk.trans hf.symm, hs.symm ▸ hd⟩, rfl⟩

/-! ### Copies -/

theorem copyEach_spec (hc : CopiesWithin room copier) (h : Denotes c.memory ds vs as)
    (hn : as.Nodup) (hb : ∀ a ∈ as, c.begun.lookup a = none) :
    (Value.levelsOfElements vs ≤ room →
      ∃ ds' c', copyEach copier ds c = .ok (ds', c') ∧ CopiedTo c as vs ds' c') ∧
    (room < Value.levelsOfElements vs → copyEach copier ds c = .error .tooDeep) := by
  induction ds generalizing c vs as with
  | nil =>
    cases h with
    | nil => exact ⟨fun _ => ⟨[], c, rfl, .nil _, fun _ _ => rfl⟩, nofun⟩
  | cons d ds ih =>
    obtain ⟨v, vs, bs, as, rfl, rfl, hd, hds⟩ := Denotes.cons_iff.mp h
    obtain ⟨hnb, hna, hba⟩ := List.nodup_append'.mp hn
    obtain ⟨hok, herr⟩ := hc c d v bs hd hnb fun a ha => hb a (by simp [ha])
    rw [Value.levelsOfElements, copyEach]
    by_cases hv : v.levels ≤ room
    · obtain ⟨d', c', he, hnew, hbegun⟩ := hok hv
      rw [he]
      have hb' : ∀ a ∈ as, c'.begun.lookup a = none := by
        intro a ha
        rw [hbegun a fun hm => hba hm ha]
        exact hb a (by simp [ha])
      obtain ⟨hok', herr'⟩ := ih (hds.of_prefix hnew.memory) hna hb'
      constructor
      · intro hl
        obtain ⟨ds', c'', he', hnew', hbegun'⟩ := hok' (by omega)
        refine ⟨d' :: ds', c'', by simp [he'], hnew.append hnew', ?_⟩
        intro a ha
        rw [List.mem_append, not_or] at ha
        rw [hbegun' a ha.2, hbegun a ha.1]
      · intro hl
        simp [herr' (by omega)]
    · rw [herr (by omega)]
      exact ⟨fun hl => absurd hl (by omega), fun _ => rfl⟩

theorem CopiedTo.finish {cell : Cell} {us : List Value} {bs : List Nat} {c' : Copying}
    (h : CopiedTo (c.begin a cell) bs us ds c')
    (hfill : ∀ (m' : Memory) (cs : List Nat),
      m'[c.memory.length]? = some (cell.refill ds) → Denotes m' ds us cs →
      Denotes m' [.object c.memory.length] [v] (c.memory.length :: cs)) :
    CopiedTo c (a :: bs) [v] [.object c.memory.length]
      ⟨c'.memory.set c.memory.length (cell.refill ds), c'.begun⟩ := by
  obtain ⟨⟨hm, cs, hcs, hcn, hcl⟩, hbegun⟩ := h
  have hlen : (c.begin a cell).memory.length = c.memory.length + 1 := by simp [Copying.begin]
  have hlt : c.memory.length < c'.memory.length := by
    have := hm.length_le
    omega
  have hne : c.memory.length ∉ cs := fun hx => by
    have := hcl _ hx
    omega
  refine ⟨⟨?_, c.memory.length :: cs, hfill _ _ (List.getElem?_set_self hlt) ?_, ?_, ?_⟩, ?_⟩
  · obtain ⟨more, hmore⟩ := hm
    exact ⟨cell.refill ds :: more, by simp [← hmore, Copying.begin]⟩
  · refine hcs.frame fun b hb => List.getElem?_set_ne ?_
    rintro rfl
    exact hne hb
  · exact List.nodup_cons.mpr ⟨hne, hcn⟩
  · refine List.forall_mem_cons.mpr ⟨Nat.le_refl _, fun b hb => ?_⟩
    have := hcl b hb
    omega
  · intro x hx
    rw [List.mem_cons, not_or] at hx
    rw [hbegun x hx.2, Copying.begin, List.lookup_cons, beq_eq_false_iff_ne.mpr hx.1]

theorem copiesWithin_copyDatum (room : Nat) : CopiesWithin room (copyDatum room) := by
  induction room with
  | zero =>
    intro c d v as _ _ _
    exact ⟨fun hl => absurd (Value.levels_pos v) (by omega), fun _ => by rw [copyDatum]⟩
  | succ room ih =>
    intro c d v as h hn hb
    cases d with
    | plain u =>
      obtain ⟨rfl, rfl⟩ := Denotes.plain_iff.mp h
      have hu : u.val.levels = 1 := by
        obtain ⟨u, hl, ht⟩ := u
        cases u with
        | list xs => exact absurd rfl (hl xs)
        | table es => exact absurd rfl (ht es)
        | _ => rfl
      refine ⟨fun _ => ⟨.plain u, c, by rw [copyDatum], ?_⟩, fun hl => by omega⟩
      exact ⟨⟨List.prefix_rfl, [], h, .nil, by simp⟩, fun _ _ => rfl⟩
    | object a =>
      obtain ⟨cell, us, bs, ha, hd, rfl, hl, hfill⟩ := h.exists_cell
      obtain ⟨hab, hnb⟩ := List.nodup_cons.mp hn
      have hlook : ∀ x ∈ bs, ((a, c.memory.length) :: c.begun).lookup x = none := by
        intro x hx
        have hne : x ≠ a := by
          rintro rfl
          exact hab hx
        rw [List.lookup_cons, beq_eq_false_iff_ne.mpr hne]
        exact hb x (by simp [hx])
      obtain ⟨hok, herr⟩ := copyEach_spec (c := c.begin a cell) ih
        (hd.of_prefix (List.prefix_append ..)) hnb hlook
      rw [copyDatum, hb a (by simp), ha]
      dsimp only
      constructor
      · intro hroom
        obtain ⟨ds', c', he, hc⟩ := hok (by omega)
        exact ⟨_, _, by rw [he], hc.finish fun _ _ => hfill _ _ _ _⟩
      · intro hroom
        rw [herr (by omega)]

/-- What shares no object is copied to new objects, unless it has too many levels. -/
theorem copy_spec (h : Denotes m [d] [v] as) (hn : as.Nodup) (room : Nat) :
    (v.levels ≤ room → ∃ d' m', copy room m d = .ok (d', m') ∧ New m [d'] [v] m') ∧
    (room < v.levels → copy room m d = .error .tooDeep) := by
  obtain ⟨hok, herr⟩ := copiesWithin_copyDatum room ⟨m, []⟩ d v as h hn fun _ _ => rfl
  constructor
  · intro hl
    obtain ⟨d', c', he, hnew, -⟩ := hok hl
    exact ⟨d', c'.memory, by rw [copy, he]; rfl, hnew⟩
  · intro hl
    rw [copy, herr hl]
    rfl

end SceneMarkup.Setting
