import SceneMarkup.Proofs.Setting.Laying
import SceneMarkup.Proofs.Setting.Nesting

/-! # Writing to memory

A datum that is set at a path of a table is set in what the table denotes, as long as it shares no
object with it. Where the path is blocked nothing is written. What stands outside the table, and
outside what was there before, is left alone.
-/

namespace SceneMarkup.Setting

open Value (Keyed)

/-- A place has come to denote a value, by means of objects at the addresses and of new ones. -/
structure WrittenTo (m : Memory) (place : Datum) (t : Value) (as cs : List Nat) (m' : Memory) :
    Prop where
  denotes : ∃ bs, Denotes m' [place] [t] bs ∧ bs.Nodup ∧ ∀ b ∈ bs, b ∈ as ++ cs ∨ m.length ≤ b
  frame : ∀ a < m.length, a ∉ as → m'[a]? = m[a]?

variable {m m' : Memory} {d place : Datum} {t t' v : Value} {as cs : List Nat} {path : List String}
  {es : List (String × Value)} {xs : List Value}

/-! ### Writes -/

theorem write_of_ne (h : Denotes m [place] [t] as) (hne : ∀ fs, t ≠ .table fs) (p : String)
    (ps : List String) :
    ∃ e, assign v (p :: ps) t = .error e ∧ write d (p :: ps) place m = (.error e, m) := by
  have hn := h.tableAt?_eq_none hne
  cases ps with
  | nil =>
    refine ⟨.blockedEntry, ?_, by simp only [write, hn]⟩
    cases t with
    | table fs => exact absurd rfl (hne fs)
    | _ => rfl
  | cons q qs =>
    refine ⟨.blockedStep, ?_, by simp only [write, hn]⟩
    cases t with
    | table fs => exact absurd rfl (hne fs)
    | _ => rfl

theorem write_cons_cons {a : Nat} (h : tableAt? m place = some a) (d : Datum) (p q : String)
    (qs : List String) : write d (p :: q :: qs) place m = match (entriesAt m a).get? p with
      | some inner => write d (q :: qs) inner m
      | none => write d (q :: qs) (.object m.length)
          (putAt m a p (.object m.length) ++ [.table []]) := by
  cases hg : (entriesAt m a).get? p with
  | none => conv_lhs => unfold write; simp only [h, hg]
  | some inner => conv_lhs => unfold write; simp only [h, hg]

theorem write_singleton {a : Nat} {fs : Entries Value} {p : String}
    (h : Denotes m [.object a] [.table fs] as) (hd : Denotes m [d] [v] cs) (hn : (as ++ cs).Nodup) :
    ∃ m', write d [p] (.object a) m = (.ok (), m') ∧
      WrittenTo m (.object a) (.table (Entries.put fs p v)) as cs m' := by
  obtain ⟨es, old, rest, ha, hp, -, hput⟩ := h.split p
  have hn' : (a :: (old ++ rest) ++ cs).Nodup := (hp.append_right cs).nodup_iff.mp hn
  have hw : write d [p] (.object a) m = (.ok (), putAt m a p d) := by
    unfold write
    simp only [h.tableAt?_eq]
  have hsame {b : Nat} (hb : a ≠ b) : (putAt m a p d)[b]? = m[b]? := getElem?_putAt_of_ne hb p d
  obtain ⟨bs, hb, hpb⟩ := hput _ d v cs (getElem?_putAt_self ha p d)
    (fun b _ => hsame (by grind)) (hd.frame fun b _ => hsame (by grind))
  have hnb : (a :: (cs ++ rest)).Nodup := by grind
  refine ⟨_, hw, ⟨bs, hb, hpb.nodup_iff.mpr hnb, fun b hb => ?_⟩, ?_⟩
  · have := hpb.mem_iff.mp hb
    grind
  · exact fun b _ hb => hsame (by grind)

/-- A table is written to when what one of its entries leads to is. -/
theorem WrittenTo.outward {a : Nat} {fs : Entries Value} {inner : Datum} {w : Value} {p : String}
    {es : Entries Datum} {old rest bs : List Nat} (hp : as.Perm (a :: (old ++ rest)))
    (hn : (as ++ cs).Nodup) (hl : ∀ b ∈ as, b < m.length)
    (hput : ∀ m' d v cs, m'[a]? = some (.table (es.put p d)) → (∀ b ∈ rest, m'[b]? = m[b]?) →
      Denotes m' [d] [v] cs → ∃ as', Denotes m' [.object a] [.table (Entries.put fs p v)] as' ∧
        as'.Perm (a :: (cs ++ rest)))
    (ha : m'[a]? = some (.table (es.put p inner))) (hb : Denotes m' [inner] [w] bs)
    (hnb : bs.Nodup) (hsub : ∀ b ∈ bs, b ∈ old ++ cs ∨ m.length ≤ b)
    (hframe : ∀ b < m.length, b ∉ a :: old → m'[b]? = m[b]?) :
    WrittenTo m (.object a) (.table (Entries.put fs p w)) as cs m' := by
  have hn' : (a :: (old ++ rest) ++ cs).Nodup := (hp.append_right cs).nodup_iff.mp hn
  have hr : ∀ b ∈ a :: rest, b < m.length := fun b hb => hl b (hp.mem_iff.mpr (by grind))
  obtain ⟨bs', hb', hpb⟩ := hput m' inner w bs ha
    (fun b hb => hframe b (hr b (by simp [hb])) (by grind)) hb
  have hapart : ∀ b ∈ a :: rest, b ∉ bs := by
    intro b hb hbs
    have := hr b hb
    have := hsub b hbs
    grind
  have hnb' : (a :: (bs ++ rest)).Nodup := by grind
  refine ⟨⟨bs', hb', hpb.nodup_iff.mpr hnb', fun b hb => ?_⟩, fun b hl hb => ?_⟩
  · have hm := hpb.mem_iff.mp hb
    have ha : b ∈ as ↔ b ∈ a :: (old ++ rest) := hp.mem_iff
    grind
  · have ha : b ∈ as ↔ b ∈ a :: (old ++ rest) := hp.mem_iff
    exact hframe b hl (by grind)

theorem getElem?_begun {a : Nat} (es : Entries Datum) (ha : m[a]? = some (.table es)) (p : String) :
    let m₁ := putAt m a p (.object m.length) ++ [.table []]
    m₁.length = m.length + 1 ∧ m₁[m.length]? = some (.table []) ∧
      m₁[a]? = some (.table (es.put p (.object m.length))) ∧
      ∀ b < m.length, b ≠ a → m₁[b]? = m[b]? := by
  have hlen : (putAt m a p (.object m.length)).length = m.length := List.length_set
  have hold {b : Nat} (hb : b < m.length) :
      (putAt m a p (.object m.length) ++ [.table []])[b]? =
        (putAt m a p (.object m.length))[b]? := List.getElem?_append_left (hlen.symm ▸ hb)
  have hla : a < m.length := (List.getElem?_eq_some_iff.mp ha).1
  refine ⟨by simp [hlen], by simp [hlen], ?_, fun b hb hne => ?_⟩
  · rw [hold hla, getElem?_putAt_self ha]
  · rw [hold hb, getElem?_putAt_of_ne hne.symm]

/-- Setting a datum sets it in what is denoted, or it is refused and nothing is written. -/
theorem write_spec (h : Denotes m [place] [t] as) (hd : Denotes m [d] [v] cs) (hn : (as ++ cs).Nodup)
    (hp : path ≠ []) :
    (∀ t', assign v path t = .ok t' →
      ∃ m', write d path place m = (.ok (), m') ∧ WrittenTo m place t' as cs m') ∧
    ∀ e, assign v path t = .error e → write d path place m = (.error e, m) := by
  induction path generalizing m place t as with
  | nil => exact absurd rfl hp
  | cons p ps ih =>
    rcases table_or_ne t with ⟨fs, rfl⟩ | hne
    · obtain ⟨a, rfl⟩ := h.exists_object
      rw [assign_cons_table]
      cases ps with
      | nil =>
        refine ⟨?_, nofun⟩
        rintro _ ⟨⟩
        exact write_singleton h hd hn
      | cons q qs =>
        obtain ⟨es, old, rest, ha, hp, hentry, hput⟩ := h.split p
        have hn' : (a :: (old ++ rest) ++ cs).Nodup := (hp.append_right cs).nodup_iff.mp hn
        have hla : a < m.length := h.lt_length a (hp.mem_iff.mpr (by simp))
        have hl : ∀ b ∈ as, b < m.length := h.lt_length
        generalize hg : es.get? p = od, Entries.get? fs p = ov at hentry
        rw [write_cons_cons h.tableAt?_eq, entriesAt_eq ha, hg]
        cases hentry with
        | @some inner w _ hold =>
          obtain ⟨hok, herr⟩ := ih hold hd (by grind) (List.cons_ne_nil q qs)
          rw [Option.getD_some]
          cases hi : assign v (q :: qs) w with
          | error e =>
            refine ⟨nofun, ?_⟩
            rintro _ ⟨⟩
            exact herr e hi
          | ok w' =>
            obtain ⟨m', hw, ⟨bs, hb, hnb, hsub⟩, hframe⟩ := hok w' hi
            refine ⟨?_, nofun⟩
            rintro _ ⟨⟩
            have ha' : m'[a]? = some (.table (es.put p inner)) := by
              rw [Entries.put_of_get? hg, hframe a hla (by grind), ha]
            exact ⟨m', hw, .outward hp hn hl hput ha' hb hnb hsub fun b hl hb => hframe b hl (by grind)⟩
        | none =>
          rw [Option.getD_none]
          obtain ⟨hlen, hnew, ha₁, hsame⟩ := getElem?_begun es ha p
          generalize putAt m a p (.object m.length) ++ [.table []] = m₁ at hlen hnew ha₁ hsame
          have hd₁ : Denotes m₁ [d] [v] cs :=
            hd.frame fun b hb => hsame b (hd.lt_length b hb) (by grind)
          have ht₁ : Denotes m₁ [.object m.length] [.table []] [m.length] :=
            Denotes.table_iff.mpr ⟨[], [], hnew, List.nodup_nil, .nil, rfl⟩
          have hcs : m.length ∉ cs := fun hb => Nat.lt_irrefl _ (hd.lt_length _ hb)
          obtain ⟨hok, -⟩ := ih ht₁ hd₁ (by grind) (List.cons_ne_nil q qs)
          obtain ⟨w, hw⟩ := exists_assign_iff (v := v).mpr (not_blocks_table_nil (q :: qs))
          rw [hw]
          obtain ⟨m', hm, ⟨bs, hb, hnb, hsub⟩, hframe⟩ := hok w hw
          refine ⟨?_, nofun⟩
          rintro _ ⟨⟩
          have hm' : ∀ b < m.length, m'[b]? = m₁[b]? := fun b hb =>
            hframe b (by omega) (by grind)
          have ha' : m'[a]? = some (.table (es.put p (.object m.length))) := by
            rw [hm' a hla, ha₁]
          refine ⟨m', hm, .outward hp hn hl hput ha' hb hnb (fun b hb => ?_) fun b hl hb => ?_⟩
          · have := hsub b hb
            grind
          · rw [hm' b hl, hsame b hl (by grind)]
    · obtain ⟨e, ha, hw⟩ := write_of_ne (v := v) (d := d) h hne p ps
      rw [ha]
      refine ⟨nofun, ?_⟩
      rintro _ ⟨⟩
      exact hw

/-- A datum that is set at a path of one of several data, among which no object is met twice, is set
in what that one denotes, and the others denote what they did. -/
theorem write_among {ds ds' : List Datum} {us us' : List Value} {t : Value}
    (h : Denotes m (ds ++ place :: ds') (us ++ t :: us') as) (hl : ds.length = us.length)
    (hd : Denotes m [d] [v] cs) (hn : (as ++ cs).Nodup) (hp : path ≠ []) :
    (∀ t', assign v path t = .ok t' → ∃ m' as', write d path place m = (.ok (), m') ∧
      Denotes m' (ds ++ place :: ds') (us ++ t' :: us') as' ∧ as'.Nodup) ∧
    ∀ e, assign v path t = .error e → write d path place m = (.error e, m) := by
  obtain ⟨ws, ws', bs, rest, hv, rfl, hb, hr⟩ := h.append_inv
  obtain ⟨rfl, rfl⟩ := List.append_inj hv (hl.symm.trans hb.length_eq)
  obtain ⟨w, ws', old, bs', hw, rfl, ho, hb'⟩ := Denotes.cons_iff.mp hr
  obtain ⟨rfl, rfl⟩ := List.cons.inj hw
  obtain ⟨hok, herr⟩ := write_spec ho hd (by grind) hp
  refine ⟨fun t' ht => ?_, herr⟩
  obtain ⟨m', he, ⟨new, hnew, hnn, hsub⟩, hframe⟩ := hok t' ht
  have hlt := hb.lt_length
  have hlt' := hb'.lt_length
  have hbs := hb.frame fun a ha => hframe a (hlt a ha) (by grind)
  have hbs' := hb'.frame fun a ha => hframe a (hlt' a ha) (by grind)
  refine ⟨m', bs ++ (new ++ bs'), he, hbs.append (hnew.append hbs'), ?_⟩
  have hdis : ∀ a ∈ new, a ∉ bs ∧ a ∉ bs' := by
    intro a ha
    rcases hsub a ha with h | h
    · grind
    · exact ⟨fun h' => absurd (hlt a h') (by omega), fun h' => absurd (hlt' a h') (by omega)⟩
  grind

/-! ### Values -/

theorem New.object {ds : List Datum} {us : List Value} {cell : Cell} (h : New m ds us m')
    (hc : ∀ bs, Denotes (m' ++ [cell]) ds us bs →
      Denotes (m' ++ [cell]) [.object m'.length] [v] (m'.length :: bs)) :
    New m [.object m'.length] [v] (m' ++ [cell]) := by
  obtain ⟨hm, bs, hb, hn, hl⟩ := h
  refine ⟨hm.trans (List.prefix_append ..), _, hc bs (hb.of_prefix (List.prefix_append ..)), ?_, ?_⟩
  · exact List.nodup_cons.mpr ⟨fun h => Nat.lt_irrefl _ (hb.lt_length _ h), hn⟩
  · exact List.forall_mem_cons.mpr ⟨hm.length_le, hl⟩

mutual

theorem new_store : (v : Value) → Keyed v → (m : Memory) → New m [(store v m).1] [v] (store v m).2
  | .list xs, hv, m => by
    have hx : ∀ x ∈ xs, Keyed x := by
      cases hv with
      | list h => exact h
      | plain _ h => exact absurd rfl (h xs)
    rw [store]
    exact (new_storeElements xs hx m).object fun bs hb =>
      List.append_nil (_ :: bs) ▸ .list List.getElem?_concat_length hb .nil
  | .table es, hv, m => by
    obtain ⟨hk, hn⟩ := new_storeEntries es (fun e he => hv.of_mem he) m
    rw [store]
    exact hn.object fun bs hb => Denotes.table_iff.mpr
      ⟨_, bs, List.getElem?_concat_length, hk ▸ hv.nodup, ⟨hk.symm, hb⟩, rfl⟩
  | .null, _, m | .bool _, _, m | .integer _, _, m | .binary _, _, m | .text _, _, m
  | .path _, _, m => by
    rw [store]
    exact ⟨List.prefix_rfl, [], .plain _ .nil, .nil, by simp⟩

theorem new_storeElements : (xs : List Value) → (∀ x ∈ xs, Keyed x) → (m : Memory) →
    New m (storeElements xs m).1 xs (storeElements xs m).2
  | [], _, m => by
    rw [storeElements]
    exact .nil m
  | x :: xs, hx, m => by
    obtain ⟨hx, hxs⟩ := List.forall_mem_cons.mp hx
    rw [storeElements]
    exact (new_store x hx m).append (new_storeElements xs hxs _)

theorem new_storeEntries : (es : List (String × Value)) → (∀ e ∈ es, Keyed e.2) → (m : Memory) →
    Entries.keys (storeEntries es m).1 = Entries.keys es ∧
      New m ((storeEntries es m).1.map Prod.snd) (es.map Prod.snd) (storeEntries es m).2
  | [], _, m => by
    rw [storeEntries]
    exact ⟨rfl, .nil m⟩
  | (key, x) :: es, hx, m => by
    obtain ⟨hx, hxs⟩ := List.forall_mem_cons.mp hx
    obtain ⟨hk, hn⟩ := new_storeEntries es hxs (store x m).2
    rw [storeEntries]
    exact ⟨congrArg (key :: ·) hk, (new_store x hx m).append hn⟩

end

/-! ### Nested keys -/

theorem storeAt_spec {m₀ : Memory} {e : String × Value} (h : New m₀ [place] [t] m) (he : Keyed e.2) :
    (∀ t', assign e.2 (steps e.1) t = .ok t' →
      ∃ m', storeAt place m e = .ok m' ∧ New m₀ [place] [t'] m') ∧
    ∀ misuse, assign e.2 (steps e.1) t = .error misuse → storeAt place m e = .error misuse := by
  obtain ⟨hm, as, ha, hna, hla⟩ := h
  obtain ⟨hm', cs, hc, hnc, hlc⟩ := new_store e.2 he m
  have hn : (as ++ cs).Nodup := List.nodup_append'.mpr ⟨hna, hnc, fun a h h' =>
    absurd (ha.lt_length a h) (Nat.not_lt.mpr (hlc a h'))⟩
  obtain ⟨hok, herr⟩ := write_spec (ha.of_prefix hm') hc hn (steps_ne_nil e.1)
  have hl₀ := hm.length_le
  have hl₁ := hm'.length_le
  constructor
  · intro t' ht
    obtain ⟨m', hw, ⟨bs, hb, hnb, hsub⟩, hframe⟩ := hok t' ht
    refine ⟨m', by simp only [storeAt, hw], grown_iff.mpr fun a h => ?_, bs, hb, hnb, ?_⟩
    · have hna : a ∉ as := fun h' => absurd (hla a h') (by omega)
      rw [hframe a (by omega) hna]
      exact grown_iff.mp (hm.trans hm') a h
    · intro b h
      rcases hsub b h with h | h
      · rcases List.mem_append.mp h with h | h
        · exact hla b h
        · exact Nat.le_trans hl₀ (hlc b h)
      · omega
  · intro misuse ht
    simp only [storeAt, herr misuse ht]

theorem foldlM_storeAt {m₀ : Memory} {flat : Entries Value} (hv : ∀ e ∈ flat, Keyed e.2)
    (h : New m₀ [place] [t] m) :
    (∀ t', flat.foldlM (fun t e => assign e.2 (steps e.1) t) t = .ok t' →
      ∃ m', flat.foldlM (storeAt place) m = .ok m' ∧ New m₀ [place] [t'] m') ∧
    ∀ misuse, flat.foldlM (fun t e => assign e.2 (steps e.1) t) t = .error misuse →
      flat.foldlM (storeAt place) m = .error misuse := by
  induction flat generalizing m t with
  | nil =>
    refine ⟨?_, nofun⟩
    rintro _ ⟨⟩
    exact ⟨m, rfl, h⟩
  | cons e flat ih =>
    obtain ⟨he, hv⟩ := List.forall_mem_cons.mp hv
    obtain ⟨hok, herr⟩ := storeAt_spec h he
    rw [List.foldlM_cons, List.foldlM_cons]
    cases ha : assign e.2 (steps e.1) t with
    | error misuse =>
      rw [herr misuse ha]
      refine ⟨nofun, ?_⟩
      rintro _ ⟨⟩
      rfl
    | ok u =>
      obtain ⟨m', hs, hn⟩ := hok u ha
      rw [hs]
      exact ih hv hn

theorem new_table (m : Memory) : New m [.object m.length] [.table []] (m ++ [.table []]) :=
  (New.nil m).object fun bs hb => by
    cases hb
    exact Denotes.table_iff.mpr ⟨[], [], List.getElem?_concat_length, List.nodup_nil, .nil, rfl⟩

/-- Dotted keys are nested in memory as they are nested in values. -/
theorem storeNested_spec {flat : Entries Value} (hv : ∀ e ∈ flat, Keyed e.2) (m : Memory) :
    (∀ t, nest flat = .ok t →
      ∃ d m', storeNested flat m = .ok (d, m') ∧ New m [d] [t] m') ∧
    ∀ misuse, nest flat = .error misuse → storeNested flat m = .error misuse := by
  obtain ⟨hok, herr⟩ := foldlM_storeAt hv (new_table m)
  constructor
  · intro t ht
    obtain ⟨m', hs, hn⟩ := hok t ht
    exact ⟨_, m', by rw [storeNested, hs]; rfl, hn⟩
  · intro misuse ht
    rw [storeNested, herr misuse ht]
    rfl

end SceneMarkup.Setting
