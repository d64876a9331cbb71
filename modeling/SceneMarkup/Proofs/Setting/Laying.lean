import SceneMarkup.Proofs.Setting.Copying

/-! # Laying tables over each other in memory

A table that shares no object with the one that is laid over it comes to denote the overlay. Only
objects of the two are written, and those of the result are among them.
-/

namespace SceneMarkup.Setting

/-- The table at an address has come to denote the entries, by means of the objects at the
addresses. -/
structure LaidTo (m : Memory) (base : Nat) (bs : Entries Value) (as : List Nat) (m' : Memory) :
    Prop where
  denotes : ∃ cs, Denotes m' [.object base] [.table bs] cs ∧ cs.Nodup ∧ cs ⊆ as
  frame : ∀ a, a ∉ as → m'[a]? = m[a]?

def LaysWithin (room : Nat) (lay : Nat → Nat → Memory → Except Misuse Memory) : Prop :=
  ∀ m base upper bs us as cs, Denotes m [.object base] [.table bs] as →
    Denotes m [.object upper] [.table us] cs → (as ++ cs).Nodup → (Value.table us).levels ≤ room →
    ∃ m', lay base upper m = .ok m' ∧ LaidTo m base (overlayEntries bs us) (as ++ cs) m'

variable {m m' : Memory} {d : Datum} {v : Value} {base upper room : Nat} {as cs : List Nat}
  {es : Entries Datum} {fs us bs : Entries Value} {key : String}
  {layer : Nat → Nat → Memory → Except Misuse Memory}

theorem entriesAt_eq (h : m[base]? = some (.table es)) : entriesAt m base = es := by
  rw [entriesAt, h]

theorem getElem?_putAt_self (h : m[base]? = some (.table es)) (key : String) (d : Datum) :
    (putAt m base key d)[base]? = some (.table (es.put key d)) := by
  rw [putAt, entriesAt_eq h, List.getElem?_set_self (List.getElem?_eq_some_iff.mp h).1]

theorem getElem?_putAt_of_ne {a : Nat} (h : base ≠ a) (key : String) (d : Datum) :
    (putAt m base key d)[a]? = m[a]? := List.getElem?_set_ne h

/-- The objects of a table are the table itself, those of one of its entries and the others. In any
memory in which the others are the same, that entry can be exchanged. -/
theorem Denotes.split (h : Denotes m [.object base] [.table fs] as) (key : String) :
    ∃ es old rest, m[base]? = some (.table es) ∧ as.Perm (base :: (old ++ rest)) ∧
      DenotesIfAny m (es.get? key) (Entries.get? fs key) old ∧
      ∀ m' d v cs, m'[base]? = some (.table (es.put key d)) → (∀ a ∈ rest, m'[a]? = m[a]?) →
        Denotes m' [d] [v] cs → ∃ as', Denotes m' [.object base] [.table (Entries.put fs key v)] as' ∧
          as'.Perm (base :: (cs ++ rest)) := by
  obtain ⟨es, bs, hb, hk, he, rfl⟩ := table_iff.mp h
  obtain ⟨old, rest, hp, hentry, hput⟩ := he.split key
  refine ⟨es, old, rest, hb, hp.cons base, hentry, fun m' d v cs hb' hm hd => ?_⟩
  obtain ⟨as', ha, hp'⟩ := hput m' d v cs hm hd
  exact ⟨base :: as', table_iff.mpr ⟨_, _, hb', Entries.nodup_keys_put hk, ha, rfl⟩, hp'.cons base⟩

theorem layEntry_of_tables (hl : LaysWithin room layer)
    (h : Denotes m [.object base] [.table fs] as) (hd : Denotes m [d] [.table us] cs)
    (hn : (as ++ cs).Nodup) (hv : (Value.table us).levels ≤ room)
    (hf : Entries.get? fs key = some (.table bs)) :
    ∃ m', layEntry layer base key d m = .ok m' ∧
      LaidTo m base (Entries.put fs key (.table (overlayEntries bs us))) (as ++ cs) m' := by
  obtain ⟨es, old, rest, hb, hp, hentry, hput⟩ := h.split key
  have hn' : (base :: (old ++ rest) ++ cs).Nodup := (hp.append_right cs).nodup_iff.mp hn
  rw [hf] at hentry
  generalize hg : es.get? key = od at hentry
  cases hentry with
  | @some d₀ _ _ hold =>
    obtain ⟨b, rfl⟩ := hold.exists_object
    obtain ⟨u, rfl⟩ := hd.exists_object
    obtain ⟨m', hm, ⟨as', ha, hna, hsub⟩, hframe⟩ := hl m b u bs us old cs hold hd (by grind) hv
    have he : layEntry layer base key (.object u) m = .ok m' := by
      rw [layEntry, entriesAt_eq hb, hg, Option.bind_some, hold.tableAt?_eq, hd.tableAt?_eq]
      exact hm
    have hbase : m'[base]? = some (.table (es.put key (.object b))) := by
      rw [Entries.put_of_get? hg, hframe base (by grind), hb]
    obtain ⟨cs', hc, hpc⟩ := hput m' (.object b) _ as' hbase (fun a _ => hframe a (by grind)) ha
    have hnc : (base :: (as' ++ rest)).Nodup := by grind
    refine ⟨m', he, ⟨cs', hc, hpc.nodup_iff.mpr hnc, fun a ha => ?_⟩, fun a ha => hframe a ?_⟩
    · have := hpc.mem_iff.mp ha
      grind
    · grind

theorem layEntry_of_ne (h : Denotes m [.object base] [.table fs] as) (hd : Denotes m [d] [v] cs)
    (hn : (as ++ cs).Nodup) (hne : ∀ bs us, Entries.get? fs key = some (.table bs) → v ≠ .table us) :
    ∃ m', layEntry layer base key d m = .ok m' ∧
      LaidTo m base (Entries.put fs key v) (as ++ cs) m' := by
  obtain ⟨es, old, rest, hb, hp, hentry, hput⟩ := h.split key
  have hn' : (base :: (old ++ rest) ++ cs).Nodup := (hp.append_right cs).nodup_iff.mp hn
  have he : layEntry layer base key d m = .ok (putAt m base key d) := by
    rw [layEntry, entriesAt_eq hb]
    generalize es.get? key = od, Entries.get? fs key = ov at hentry hne
    cases hentry with
    | none => rfl
    | @some d₀ v₀ _ hold =>
      rcases table_or_ne v₀ with ⟨bs, rfl⟩ | hv₀
      · rw [Option.bind_some, hd.tableAt?_eq_none fun us => hne bs us rfl]
        cases tableAt? m d₀ <;> rfl
      · rw [Option.bind_some, hold.tableAt?_eq_none hv₀]
  have hsame {a : Nat} (ha : base ≠ a) : (putAt m base key d)[a]? = m[a]? :=
    getElem?_putAt_of_ne ha key d
  obtain ⟨cs', hc, hpc⟩ := hput _ d v cs (getElem?_putAt_self hb key d)
    (fun a _ => hsame (by grind)) (hd.frame fun a _ => hsame (by grind))
  have hnc : (base :: (cs ++ rest)).Nodup := by grind
  refine ⟨_, he, ⟨cs', hc, hpc.nodup_iff.mpr hnc, fun a ha => ?_⟩, fun a ha => hsame ?_⟩
  · have := hpc.mem_iff.mp ha
    grind
  · grind

theorem layEntry_spec (hl : LaysWithin room layer)
    (h : Denotes m [.object base] [.table fs] as) (hd : Denotes m [d] [v] cs)
    (hn : (as ++ cs).Nodup) (hv : v.levels ≤ room) (key : String) :
    ∃ m', layEntry layer base key d m = .ok m' ∧
      LaidTo m base (Entries.put fs key (laidOver (Entries.get? fs key) v)) (as ++ cs) m' := by
  by_cases ht : ∃ bs us, Entries.get? fs key = some (.table bs) ∧ v = .table us
  · obtain ⟨bs, us, hf, rfl⟩ := ht
    rw [hf, show laidOver (some (.table bs)) (.table us) = _ from overlay_table bs us]
    exact layEntry_of_tables hl h hd hn hv hf
  · have hne : ∀ bs us, Entries.get? fs key = some (.table bs) → v ≠ .table us :=
      fun bs us hf hv => ht ⟨bs, us, hf, hv⟩
    rw [laidOver_eq_self hne]
    exact layEntry_of_ne h hd hn hne

/-- The entries of the upper table are laid over the lower one in their order. What was laid before
is part of the lower table, and apart from the entries that are still to come. -/
theorem layKeys_spec (hl : LaysWithin room layer) (hk : (Entries.keys es).Nodup)
    (done : Entries Datum) {rest : Entries Datum} (hes : es = done ++ rest)
    (hu : m[upper]? = some (.table es)) (h : Denotes m [.object base] [.table fs] as) (hr : DenotesEntries m rest us cs)
    (hn : (as ++ cs).Nodup) (hua : upper ∉ as ++ cs) (hv : ∀ e ∈ us, e.2.levels ≤ room) :
    ∃ m', layKeys layer base upper es.length (Entries.keys rest) m = .ok m' ∧
      LaidTo m base (overlayEntries fs us) (as ++ cs) m' := by
  induction rest generalizing done m fs us as cs with
  | nil =>
    obtain ⟨hk', hd⟩ := hr
    obtain rfl : us = [] := List.map_eq_nil_iff.mp hk'
    cases hd with
    | nil =>
      refine ⟨m, by simp [layKeys, entriesAt_eq hu], ⟨as, ?_, by simpa using hn, by simp⟩, ?_⟩
      · rwa [overlayEntries]
      · exact fun _ _ => rfl
  | cons e rest ih =>
    obtain ⟨v, us, bs, cs, rfl, rfl, hd, hr⟩ := hr.cons_inv
    obtain ⟨hve, hv⟩ := List.forall_mem_cons.mp hv
    obtain ⟨m₁, he, ⟨as', ha, hna, hsub⟩, hframe⟩ :=
      layEntry_spec hl h hd (by grind) hve e.1
    have hg : es.get? e.1 = some e.2 := Entries.get?_of_mem hk (by simp [hes])
    have hr' : DenotesEntries m₁ rest us cs := hr.frame fun a _ => hframe a (by grind)
    have hu' : m₁[upper]? = some (.table es) := by
      rw [hframe upper (by grind), hu]
    obtain ⟨m', hm, ⟨as'', ha', hna', hsub'⟩, hframe'⟩ :=
      ih (done.concat e) (by simp [hes]) hu' ha hr' (by grind) (by grind) hv
    refine ⟨m', ?_, ⟨as'', ?_, hna', by grind⟩, fun a ha => ?_⟩
    · simp [layKeys, entriesAt_eq hu, hg, he, hm]
    · rwa [overlayEntries_cons]
    · rw [hframe' a (by grind), hframe a (by grind)]

/-- A table is laid over one that shares no object with it. -/
theorem laysWithin_lay (room : Nat) : LaysWithin room (lay room) := by
  induction room with
  | zero =>
    intro m base upper bs us as cs _ _ _ hv
    exact absurd (Value.levels_pos (.table us)) (by omega)
  | succ room ih =>
    intro m base upper bs us as cs h hu hn hv
    obtain ⟨es, cs, hum, hk, he, rfl⟩ := Denotes.table_iff.mp hu
    have hv' : ∀ e ∈ us, e.2.levels ≤ room := by
      intro e hm
      have hl := Value.levels_le_of_mem hm
      rw [levels_table, ← levelsOfEntries_eq] at hv
      omega
    obtain ⟨m', hm, ⟨as', ha, hna, hsub⟩, hframe⟩ :=
      layKeys_spec ih hk [] rfl hum h he (by grind) (by grind) hv'
    refine ⟨m', ?_, ⟨as', ha, hna, by grind⟩, fun a ha => hframe a (by grind)⟩
    rw [lay, entriesAt_eq hum]
    exact hm

end SceneMarkup.Setting
