import SceneMarkup.Json.Reader
import SceneMarkup.Proofs.Value.Sameness

/-! # Keys of what is read

The reader puts every member of an object into a map, so the objects that it reads have distinct
keys. Its three functions call each other with less fuel, which the induction is on.
-/

namespace SceneMarkup.Json

open Value (Keyed ofJson)

/-- Whatever is read is a value in which tables have distinct keys. -/
def ReadsKeyed (read : List Char → Option (Json × List Char)) : Prop :=
  ∀ cs j rest, read cs = some (j, rest) → Keyed (ofJson j)

variable {d : Dialect} {fuel depth : Nat} {xs : List Json} {ms : Entries Json} {j : Json}

theorem ofJson_array (xs : List Json) : ofJson (.array xs) = .list (xs.map ofJson) := by
  have he : Value.elementsOfJson xs = xs.map ofJson := by
    induction xs with
    | nil => rfl
    | cons x xs ih => rw [Value.elementsOfJson, ih, List.map_cons]
  rw [ofJson, he]

theorem ofJson_object (ms : List (String × Json)) :
    ofJson (.object ms) = .table (ms.map fun m => (m.1, ofJson m.2)) := by
  have he : Value.entriesOfJson ms = ms.map fun m => (m.1, ofJson m.2) := by
    induction ms with
    | nil => rfl
    | cons m ms ih => rw [Value.entriesOfJson, ih, List.map_cons]
  rw [ofJson, he]

theorem keyed_ofJson_array (h : ∀ x ∈ xs, Keyed (ofJson x)) : Keyed (ofJson (.array xs)) := by
  rw [ofJson_array]
  refine .list fun v hv => ?_
  obtain ⟨x, hx, rfl⟩ := List.mem_map.mp hv
  exact h x hx

theorem keyed_ofJson_object (hk : (Entries.keys ms).Nodup) (h : ∀ e ∈ ms, Keyed (ofJson e.2)) :
    Keyed (ofJson (.object ms)) := by
  rw [ofJson_object]
  refine .table ?_ fun e he => ?_
  · rw [Entries.keys, List.map_map]
    exact hk
  · obtain ⟨m, hm, rfl⟩ := List.mem_map.mp he
    exact h m hm

theorem keyed_ofJson_of_ne (ha : ∀ xs, j ≠ .array xs) (ho : ∀ ms, j ≠ .object ms) :
    Keyed (ofJson j) := by
  cases j with
  | array xs => exact absurd rfl (ha xs)
  | object ms => exact absurd rfl (ho ms)
  | _ => exact .plain (by simp [ofJson]) (by simp [ofJson])

theorem keyed_put (key : String) (hk : (Entries.keys ms).Nodup)
    (h : ∀ e ∈ ms, Keyed (ofJson e.2)) (hj : Keyed (ofJson j)) :
    (Entries.keys (ms.put key j)).Nodup ∧ ∀ e ∈ Entries.put ms key j, Keyed (ofJson e.2) := by
  refine ⟨Entries.nodup_keys_put hk, fun e he => ?_⟩
  rcases Entries.mem_of_mem_put he with he | rfl
  · exact h e he
  · exact hj

theorem keyed_of_finite? {x : Number.Binary64} (h : finite? x = some j) : Keyed (ofJson j) := by
  cases x with
  | finite n m e =>
    obtain rfl := Option.some.inj h
    exact keyed_ofJson_of_ne (by simp) (by simp)
  | _ => cases h

theorem readMagnitude_keyed (negative : Bool) : ReadsKeyed (readMagnitude d negative) := by
  intro cs j rest h
  have hf {x : Number.Binary64} {cs' : List Char}
      (hx : (finite? x).map (·, cs') = some (j, rest)) : Keyed (ofJson j) := by
    obtain ⟨j', hj, he⟩ := Option.map_eq_some_iff.mp hx
    obtain ⟨rfl, -⟩ := Prod.mk.inj he
    exact keyed_of_finite? hj
  have hi {i : Int} {x : Number.Binary64} {cs' : List Char}
      (hx : (if d.exact i then some (.integer i, cs') else (finite? x).map (·, cs')) =
        some (j, rest)) : Keyed (ofJson j) := by
    split at hx
    · cases hx
      exact keyed_ofJson_of_ne (by simp) (by simp)
    · exact hf hx
  unfold readMagnitude at h
  dsimp only at h
  split at h
  · cases h
  · obtain ⟨⟨fraction, rest'⟩, -, h⟩ := Option.bind_eq_some_iff.mp h
    obtain ⟨⟨power, rest''⟩, -, h⟩ := Option.bind_eq_some_iff.mp h
    dsimp only at h
    split at h
    · exact hi h
    · exact hf h

theorem readElements_keyed (hv : ReadsKeyed (readValue d fuel depth))
    (hr : ∀ out, (∀ x ∈ out, Keyed (ofJson x)) → ReadsKeyed (readElements d fuel depth out))
    (h : ∀ x ∈ xs, Keyed (ofJson x)) : ReadsKeyed (readElements d (fuel + 1) depth xs) := by
  intro cs j rest he
  rw [readElements] at he
  split at he
  · cases he
  · next x rest' hx =>
    have hx' : ∀ y ∈ x :: xs, Keyed (ofJson y) := by
      intro y hy
      rcases List.mem_cons.mp hy with rfl | hy
      · exact hv _ _ _ hx
      · exact h y hy
    split at he
    · exact hr _ hx' _ _ _ he
    · cases he
      exact keyed_ofJson_array fun y hy => hx' y (List.mem_reverse.mp hy)
    · cases he

theorem readMembers_keyed (hv : ReadsKeyed (readValue d fuel depth))
    (hr : ∀ out, (Entries.keys out).Nodup → (∀ e ∈ out, Keyed (ofJson e.2)) →
      ReadsKeyed (readMembers d fuel depth out))
    (hk : (Entries.keys ms).Nodup) (h : ∀ e ∈ ms, Keyed (ofJson e.2)) :
    ReadsKeyed (readMembers d (fuel + 1) depth ms) := by
  intro cs j rest hm
  rw [readMembers] at hm
  split at hm
  · split at hm
    · cases hm
    · next key _ _ =>
      split at hm
      · split at hm
        · cases hm
        · next x _ hx =>
          obtain ⟨hk', h'⟩ := keyed_put key hk h (hv _ _ _ hx)
          split at hm
          · exact hr _ hk' h' _ _ _ hm
          · cases hm
            exact keyed_ofJson_object hk' h'
          · cases hm
      · cases hm
  · cases hm

theorem readValue_keyed
    (he : ∀ depth, ReadsKeyed (readElements d fuel depth []))
    (hm : ∀ depth, ReadsKeyed (readMembers d fuel depth [])) :
    ReadsKeyed (readValue d (fuel + 1) depth) := by
  intro cs j rest h
  rw [readValue] at h
  split at h
  · split at h
    · cases h
    · split at h
      · cases h
        exact keyed_ofJson_object (by simp) (by simp)
      · exact hm _ _ _ _ h
  · split at h
    · cases h
    · split at h
      · cases h
        exact keyed_ofJson_array (by simp)
      · exact he _ _ _ _ h
  · obtain ⟨⟨s, rest'⟩, -, h⟩ := Option.map_eq_some_iff.mp h
    cases h
    exact keyed_ofJson_of_ne (by simp) (by simp)
  · cases h
    exact keyed_ofJson_of_ne (by simp) (by simp)
  · cases h
    exact keyed_ofJson_of_ne (by simp) (by simp)
  · cases h
    exact keyed_ofJson_of_ne (by simp) (by simp)
  · exact readMagnitude_keyed true _ _ _ h
  · exact readMagnitude_keyed false _ _ _ h

theorem readers_keyed (d : Dialect) (fuel : Nat) :
    (∀ depth, ReadsKeyed (readValue d fuel depth)) ∧
    (∀ depth xs, (∀ x ∈ xs, Keyed (ofJson x)) → ReadsKeyed (readElements d fuel depth xs)) ∧
    (∀ depth ms, (Entries.keys ms).Nodup → (∀ e ∈ ms, Keyed (ofJson e.2)) →
      ReadsKeyed (readMembers d fuel depth ms)) := by
  induction fuel with
  | zero =>
    refine ⟨fun depth cs j rest h => ?_, fun depth xs _ cs j rest h => ?_,
      fun depth ms _ _ cs j rest h => ?_⟩
    · rw [readValue] at h
      cases h
    · rw [readElements] at h
      cases h
    · rw [readMembers] at h
      cases h
  | succ fuel ih =>
    obtain ⟨hv, he, hm⟩ := ih
    refine ⟨fun depth => ?_, fun depth xs => ?_, fun depth ms => ?_⟩
    · exact readValue_keyed (fun depth => he depth [] (by simp)) fun depth =>
        hm depth [] (by simp) (by simp)
    · exact readElements_keyed (hv depth) (he depth)
    · exact readMembers_keyed (hv depth) (hm depth)

theorem read?_keyed {text : String} (h : read? d text = some j) : Keyed (ofJson j) := by
  unfold read? at h
  dsimp only at h
  split at h
  · next hj =>
    split at h
    · cases h
      exact (readers_keyed d _).1 _ _ _ _ hj
    · cases h
  · cases h

end SceneMarkup.Json
