import Mathlib.Data.List.Nodup
import SceneMarkup.Proofs.Setting.Overlay
import SceneMarkup.Proofs.Value.Sameness
import SceneMarkup.Setting.Memory

/-! # What data in memory denote

Data denote values where following their addresses comes to an end. The objects that are met on the
way are listed, each as often as it is met: no object is shared when none of them is listed twice.
What the data denote depends on these objects only, and an entry of a table can be exchanged for
another one without regard to the rest.
-/

namespace SceneMarkup.Setting

open Value (Keyed)

/-- The data denote the values, and lead to the objects at the addresses. -/
inductive Denotes (m : Memory) : List Datum → List Value → List Nat → Prop where
  | nil : Denotes m [] [] []
  | plain (v : Plain) {ds : List Datum} {vs : List Value} {as : List Nat} :
      Denotes m ds vs as → Denotes m (.plain v :: ds) (v.val :: vs) as
  | list {a : Nat} {xs : List Datum} {us : List Value} {bs : List Nat} {ds : List Datum}
      {vs : List Value} {as : List Nat} :
      m[a]? = some (.list xs) → Denotes m xs us bs → Denotes m ds vs as →
      Denotes m (.object a :: ds) (.list us :: vs) (a :: bs ++ as)
  | table {a : Nat} {es : Entries Datum} {fs : Entries Value} {bs : List Nat} {ds : List Datum}
      {vs : List Value} {as : List Nat} :
      m[a]? = some (.table es) → (Entries.keys es).Nodup → Entries.keys fs = Entries.keys es →
      Denotes m (es.map Prod.snd) (fs.map Prod.snd) bs → Denotes m ds vs as →
      Denotes m (.object a :: ds) (.table fs :: vs) (a :: bs ++ as)

/-- The data denote the values by objects that were made behind all that was in memory. -/
structure New (m : Memory) (ds : List Datum) (vs : List Value) (m' : Memory) : Prop where
  memory : m <+: m'
  denotes : ∃ bs, Denotes m' ds vs bs ∧ bs.Nodup ∧ ∀ b ∈ bs, m.length ≤ b

structure DenotesEntries (m : Memory) (es : Entries Datum) (fs : Entries Value) (as : List Nat) :
    Prop where
  keys : Entries.keys fs = Entries.keys es
  data : Denotes m (es.map Prod.snd) (fs.map Prod.snd) as

variable {m m' : Memory} {d d' : Datum} {ds ds' : List Datum} {v w : Value} {vs vs' : List Value}
  {a : Nat} {as as' bs : List Nat} {es : Entries Datum} {fs : Entries Value} {key : String}

theorem grown_iff : m <+: m' ↔ ∀ a < m.length, m'[a]? = m[a]? := by
  rw [List.prefix_iff_getElem?]
  exact forall₂_congr fun a ha => by rw [List.getElem?_eq_getElem ha]

namespace Denotes

/-- Only the objects that are met matter. -/
theorem frame (h : Denotes m ds vs as) (hm : ∀ a ∈ as, m'[a]? = m[a]?) : Denotes m' ds vs as := by
  induction h with
  | nil => exact .nil
  | plain v _ ih => exact .plain v (ih hm)
  | @list a xs us bs ds vs as ha _ _ ih ih' =>
    refine .list ((hm a (by simp)).trans ha) (ih fun b hb => hm b (by simp [hb]))
      (ih' fun b hb => hm b (by simp [hb]))
  | @table a es fs bs ds vs as ha hn hk _ _ ih ih' =>
    refine .table ((hm a (by simp)).trans ha) hn hk (ih fun b hb => hm b (by simp [hb]))
      (ih' fun b hb => hm b (by simp [hb]))

theorem lt_length (h : Denotes m ds vs as) : ∀ a ∈ as, a < m.length := by
  have of_some {a : Nat} {cell : Cell} (h : m[a]? = some cell) : a < m.length :=
    (List.getElem?_eq_some_iff.mp h).1
  induction h with
  | nil => simp
  | plain _ _ ih => exact ih
  | list ha _ _ ih ih' =>
    simp only [List.cons_append, List.mem_cons, List.mem_append]
    rintro b (rfl | hb | hb)
    · exact of_some ha
    · exact ih b hb
    · exact ih' b hb
  | table ha _ _ _ _ ih ih' =>
    simp only [List.cons_append, List.mem_cons, List.mem_append]
    rintro b (rfl | hb | hb)
    · exact of_some ha
    · exact ih b hb
    · exact ih' b hb

theorem of_prefix (h : Denotes m ds vs as) (hm : m <+: m') : Denotes m' ds vs as := by
  exact h.frame fun a ha => grown_iff.mp hm a (h.lt_length a ha)

theorem append (h : Denotes m ds vs as) (h' : Denotes m ds' vs' as') :
    Denotes m (ds ++ ds') (vs ++ vs') (as ++ as') := by
  induction h with
  | nil => exact h'
  | plain v _ ih => exact .plain v ih
  | @list a xs us bs ds vs as ha hx _ _ ih =>
    rw [List.cons_append, List.cons_append, List.append_assoc]
    exact .list ha hx ih
  | @table a es fs bs ds vs as ha hn hk hx _ _ ih =>
    rw [List.cons_append, List.cons_append, List.append_assoc]
    exact .table ha hn hk hx ih

theorem cons_iff : Denotes m (d :: ds) vs as ↔ ∃ v vs' bs as', vs = v :: vs' ∧ as = bs ++ as' ∧
    Denotes m [d] [v] bs ∧ Denotes m ds vs' as' := by
  constructor
  · intro h
    cases h with
    | plain v h => exact ⟨_, _, [], _, rfl, rfl, .plain v .nil, h⟩
    | @list a xs us bs ds vs as ha hx h =>
      exact ⟨_, _, _, _, rfl, rfl, List.append_nil (a :: bs) ▸ .list ha hx .nil, h⟩
    | @table a es fs bs ds vs as ha hn hk hx h =>
      exact ⟨_, _, _, _, rfl, rfl, List.append_nil (a :: bs) ▸ .table ha hn hk hx .nil, h⟩
  · rintro ⟨v, vs', bs, as', rfl, rfl, h, h'⟩
    exact h.append h'

theorem append_inv (h : Denotes m (ds ++ ds') vs as) : ∃ us us' bs bs', vs = us ++ us' ∧
    as = bs ++ bs' ∧ Denotes m ds us bs ∧ Denotes m ds' us' bs' := by
  induction ds generalizing vs as with
  | nil => exact ⟨[], vs, [], as, rfl, rfl, .nil, h⟩
  | cons d ds ih =>
    obtain ⟨v, vs, bs, as, rfl, rfl, hd, h⟩ := cons_iff.mp h
    obtain ⟨us, us', cs, cs', rfl, rfl, hs, hs'⟩ := ih h
    exact ⟨v :: us, us', bs ++ cs, cs', rfl, (List.append_assoc ..).symm, hd.append hs, hs'⟩

theorem length_eq (h : Denotes m ds vs as) : ds.length = vs.length := by
  induction h with
  | nil => rfl
  | plain _ _ ih => rw [List.length_cons, ih, List.length_cons]
  | list _ _ _ _ ih => rw [List.length_cons, ih, List.length_cons]
  | table _ _ _ _ _ _ ih => rw [List.length_cons, ih, List.length_cons]

theorem plain_iff {u : Plain} : Denotes m [.plain u] [v] as ↔ v = u.val ∧ as = [] := by
  constructor
  · intro h
    cases h with
    | plain _ h => cases h with | nil => exact ⟨rfl, rfl⟩
  · rintro ⟨rfl, rfl⟩
    exact .plain u .nil

theorem table_iff : Denotes m [.object a] [.table fs] as ↔ ∃ es bs, m[a]? = some (.table es) ∧
    (Entries.keys es).Nodup ∧ DenotesEntries m es fs bs ∧ as = a :: bs := by
  constructor
  · intro h
    cases h with
    | table ha hn hk hx h =>
      cases h with
      | nil => exact ⟨_, _, ha, hn, ⟨hk, hx⟩, List.append_nil _⟩
  · rintro ⟨es, bs, ha, hn, ⟨hk, hx⟩, rfl⟩
    exact List.append_nil (a :: bs) ▸ .table ha hn hk hx .nil

theorem exists_object (h : Denotes m [d] [.table fs] as) : ∃ a, d = .object a := by
  cases d with
  | plain u => exact absurd (plain_iff.mp h).1.symm (u.2.2 fs)
  | object a => exact ⟨a, rfl⟩

theorem tableAt?_eq (h : Denotes m [.object a] [.table fs] as) :
    tableAt? m (.object a) = some a := by
  obtain ⟨es, bs, ha, -⟩ := table_iff.mp h
  rw [tableAt?, ha]

theorem tableAt?_eq_none (h : Denotes m [d] [v] as) (hv : ∀ fs, v ≠ .table fs) :
    tableAt? m d = none := by
  cases h with
  | plain => rfl
  | list ha _ _ => rw [tableAt?, ha]
  | table => exact absurd rfl (hv _)

theorem keyed (h : Denotes m ds vs as) : ∀ v ∈ vs, Keyed v := by
  induction h with
  | nil => simp
  | plain v _ ih => exact List.forall_mem_cons.mpr ⟨.plain v.2.2 v.2.1, ih⟩
  | list _ _ _ ih ih' => exact List.forall_mem_cons.mpr ⟨.list ih, ih'⟩
  | table _ hn hk _ _ ih ih' =>
    refine List.forall_mem_cons.mpr ⟨.table (show (Entries.keys _).Nodup from hk ▸ hn) ?_, ih'⟩
    exact fun e he => ih e.2 (List.mem_map_of_mem he)

/-- Data denote one thing, and lead to the same objects each time. -/
theorem unique (h : Denotes m ds vs as) (h' : Denotes m ds vs' as') : vs = vs' ∧ as = as' := by
  induction h generalizing vs' as' with
  | nil =>
    cases h'
    exact ⟨rfl, rfl⟩
  | plain v _ ih =>
    cases h' with
    | plain _ h' =>
      obtain ⟨rfl, rfl⟩ := ih h'
      exact ⟨rfl, rfl⟩
  | list ha _ _ ih ih' =>
    cases h' with
    | list ha' hx h' =>
      cases ha.symm.trans ha'
      obtain ⟨rfl, rfl⟩ := ih hx
      obtain ⟨rfl, rfl⟩ := ih' h'
      exact ⟨rfl, rfl⟩
    | table ha' => cases ha.symm.trans ha'
  | table ha _ hk _ _ ih ih' =>
    cases h' with
    | list ha' => cases ha.symm.trans ha'
    | table ha' _ hk' hx h' =>
      cases ha.symm.trans ha'
      obtain ⟨hv, rfl⟩ := ih hx
      obtain ⟨rfl, rfl⟩ := ih' h'
      have he := (List.zip_of_prod (hk.trans hk'.symm) hv).trans (List.zip_of_prod rfl rfl).symm
      exact ⟨by rw [he], rfl⟩

end Denotes

/-! ### Reading -/

theorem denotes_of_readEach {read : Datum → Option (Value × List Nat)}
    (hr : ∀ d v as, read d = some (v, as) → Denotes m [d] [v] as)
    (h : readEach read ds = some (vs, as)) : Denotes m ds vs as := by
  induction ds generalizing vs as with
  | nil =>
    cases h
    exact .nil
  | cons d ds ih =>
    obtain ⟨⟨v, bs⟩, hd, h⟩ := Option.bind_eq_some_iff.mp h
    obtain ⟨⟨us, cs⟩, hds, h⟩ := Option.bind_eq_some_iff.mp h
    cases h
    exact (hr d v bs hd).append (ih hds)

theorem denotes_of_read (room : Nat) (h : read m room d = some (v, as)) : Denotes m [d] [v] as := by
  induction room generalizing d v as with
  | zero =>
    cases d with
    | plain u =>
      cases h
      exact .plain u .nil
    | object a => cases h
  | succ room ih =>
    cases d with
    | plain u =>
      cases h
      exact .plain u .nil
    | object a =>
      have each {ds : List Datum} {vs : List Value} {as : List Nat} :
          readEach (read m room) ds = some (vs, as) → Denotes m ds vs as :=
        denotes_of_readEach fun d v as => ih
      rw [read] at h
      split at h
      · cases h
      · next xs ha =>
        obtain ⟨⟨us, bs⟩, hx, h⟩ := Option.map_eq_some_iff.mp h
        cases h
        exact List.append_nil (a :: bs) ▸ .list ha (each hx) .nil
      · next es ha =>
        split at h
        · next hn =>
          obtain ⟨⟨us, bs⟩, hx, h⟩ := Option.map_eq_some_iff.mp h
          cases h
          have hd := each hx
          have hl : (es.map Prod.fst).length = us.length := by
            simpa using hd.length_eq
          refine Denotes.table_iff.mpr ⟨es, bs, ha, hn, ⟨?_, ?_⟩, rfl⟩
          · exact List.map_fst_zip (Nat.le_of_eq hl)
          · rwa [List.map_snd_zip (Nat.le_of_eq hl.symm)]
        · cases h

/-! ### New data -/

namespace New

theorem nil (m : Memory) : New m [] [] m := ⟨List.prefix_rfl, [], .nil, .nil, by simp⟩

theorem append {m'' : Memory} (h : New m ds vs m') (h' : New m' ds' vs' m'') :
    New m (ds ++ ds') (vs ++ vs') m'' := by
  obtain ⟨hm, bs, hb, hn, hl⟩ := h
  obtain ⟨hm', bs', hb', hn', hl'⟩ := h'
  refine ⟨hm.trans hm', bs ++ bs', (hb.of_prefix hm').append hb', ?_, ?_⟩
  · refine List.nodup_append'.mpr ⟨hn, hn', fun b h h' => ?_⟩
    exact absurd (hb.lt_length b h) (Nat.not_lt.mpr (hl' b h'))
  · intro b h
    rcases List.mem_append.mp h with h | h
    · exact hl b h
    · exact Nat.le_trans hm.length_le (hl' b h)

end New

/-! ### Entries -/

namespace DenotesEntries

theorem nil : DenotesEntries m [] [] [] := ⟨rfl, .nil⟩

theorem cons {e : String × Datum} (hd : Denotes m [e.2] [v] bs) (h : DenotesEntries m es fs as) :
    DenotesEntries m (e :: es) ((e.1, v) :: fs) (bs ++ as) :=
  ⟨by simp [h.keys], hd.append h.data⟩

theorem cons_inv {e : String × Datum} (h : DenotesEntries m (e :: es) fs as) :
    ∃ v fs' bs as', fs = (e.1, v) :: fs' ∧ as = bs ++ as' ∧ Denotes m [e.2] [v] bs ∧
      DenotesEntries m es fs' as' := by
  obtain ⟨hk, hd⟩ := h
  cases fs with
  | nil => cases hk
  | cons f fs =>
    obtain ⟨v, vs, bs, as', hv, rfl, hd, h⟩ := Denotes.cons_iff.mp hd
    obtain ⟨rfl, rfl⟩ := List.cons.inj hv
    obtain ⟨hf, hk⟩ := List.cons.inj hk
    exact ⟨f.2, fs, bs, as', by rw [← hf], rfl, hd, hk, h⟩

theorem frame (h : DenotesEntries m es fs as) (hm : ∀ a ∈ as, m'[a]? = m[a]?) :
    DenotesEntries m' es fs as := ⟨h.keys, h.data.frame hm⟩

end DenotesEntries

inductive DenotesIfAny (m : Memory) : Option Datum → Option Value → List Nat → Prop where
  | none : DenotesIfAny m none none []
  | some {d : Datum} {v : Value} {as : List Nat} :
      Denotes m [d] [v] as → DenotesIfAny m (some d) (some v) as

/-- The entry of a key leads to objects apart from those of the other entries, and in any memory in
which these are the same it can be exchanged. -/
theorem DenotesEntries.split (h : DenotesEntries m es fs as) (key : String) :
    ∃ bs rest, as.Perm (bs ++ rest) ∧ DenotesIfAny m (es.get? key) (fs.get? key) bs ∧
      ∀ m' d v cs, (∀ a ∈ rest, m'[a]? = m[a]?) → Denotes m' [d] [v] cs →
        ∃ as', DenotesEntries m' (es.put key d) (fs.put key v) as' ∧ as'.Perm (cs ++ rest) := by
  induction es generalizing fs as with
  | nil =>
    obtain ⟨hk, hd⟩ := h
    obtain rfl : fs = [] := List.map_eq_nil_iff.mp hk
    cases hd with
    | nil =>
      refine ⟨[], [], .refl _, .none, fun m' d v cs _ hd => ⟨cs ++ [], ?_, .refl _⟩⟩
      exact .cons (e := (key, d)) hd .nil
  | cons e es ih =>
    obtain ⟨u, fs, bs, as, rfl, rfl, hd, h⟩ := h.cons_inv
    by_cases hk : e.1 = key
    · refine ⟨bs, as, .refl _, ?_, fun m' d v cs hm hd' => ⟨cs ++ as, ?_, .refl _⟩⟩
      · simpa [Entries.get?, hk] using DenotesIfAny.some hd
      · simpa [Entries.put, hk] using DenotesEntries.cons (e := (e.1, d)) hd' (h.frame hm)
    · obtain ⟨cs, rest, hp, he, hput⟩ := ih h
      refine ⟨cs, bs ++ rest, ?_, ?_, fun m' d v cs' hm hd' => ?_⟩
      · exact (hp.append_left bs).trans (by simpa using List.perm_append_comm_assoc bs cs rest)
      · simpa [Entries.get?, hk] using he
      · obtain ⟨as', ha, hp'⟩ := hput m' d v cs' (fun a ha => hm a (by simp [ha])) hd'
        refine ⟨bs ++ as', ?_, ?_⟩
        · have hb := hd.frame fun a ha => hm a (by simp [ha])
          simpa [Entries.put, hk] using DenotesEntries.cons (e := e) hb ha
        · exact (hp'.append_left bs).trans (by simpa using List.perm_append_comm_assoc bs cs' rest)

/-- A path leads data where it leads what they denote. -/
theorem Denotes.walk (h : Denotes m [d] [v] as) (path : List String) :
    ∃ bs, DenotesIfAny m (walk m path d) (find? path v) bs ∧ (as.Nodup → bs.Nodup) := by
  induction path generalizing d v as with
  | nil =>
    rw [find?_nil]
    exact ⟨as, .some h, id⟩
  | cons p ps ih =>
    rcases table_or_ne v with ⟨fs, rfl⟩ | hv
    · obtain ⟨a, rfl⟩ := h.exists_object
      obtain ⟨es, bs, ha, -, he, rfl⟩ := table_iff.mp h
      obtain ⟨cs, rest, hp, hentry, -⟩ := he.split p
      rw [Setting.walk, h.tableAt?_eq, find?_cons_table, Option.bind_some, entriesAt, ha]
      dsimp only
      generalize es.get? p = od, Entries.get? fs p = ov at hentry
      cases hentry with
      | none => exact ⟨[], .none, fun _ => .nil⟩
      | some hd =>
        obtain ⟨bs, hb, hn⟩ := ih hd
        exact ⟨bs, hb, fun h => hn (hp.nodup_iff.mp h.of_cons).of_append_left⟩
    · rw [Setting.walk, h.tableAt?_eq_none hv, find?_cons_of_ne hv]
      exact ⟨[], .none, fun _ => .nil⟩

end SceneMarkup.Setting
