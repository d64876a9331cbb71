import Mathlib.Data.List.Nodup
import SceneMarkup.Log.Template

/-! # What things offer

Every member that a kind lists can be found by its name, and everything that is not a kind itself
offers just what its kind and the kinds behind it list.
-/

namespace SceneMarkup.Log.Thing

variable {k owner : Kind} {m : Member} {name full : String} {t : Thing}

namespace Kind

theorem nodup_names (k : Kind) : (k.members.map (·.name)).Nodup := by
  cases k <;> decide +kernel

theorem member?_eq_some_iff : k.member? name = some m ↔ m ∈ k.members ∧ m.name = name := by
  constructor
  · intro h
    exact ⟨List.mem_of_find?_eq_some h, by simpa using List.find?_some h⟩
  · rintro ⟨hm, rfl⟩
    obtain ⟨m', hf⟩ := Option.isSome_iff_exists.mp
      (List.find?_isSome (p := (·.name == m.name)).mpr ⟨m, hm, beq_self_eq_true m.name⟩)
    have hn : m'.name = m.name := by simpa using List.find?_some hf
    rw [member?, hf, List.inj_on_of_nodup_map k.nodup_names (List.mem_of_find?_eq_some hf) hm hn]

theorem find?_eq_none_iff :
    k.find? name = none ↔ ∀ k' ∈ k.line, ∀ m ∈ k'.members, m.name ≠ name := by
  simp [find?, member?]

theorem mem_of_find? (h : k.find? name = some (owner, m)) :
    owner ∈ k.line ∧ m ∈ owner.members ∧ m.name = name := by
  obtain ⟨k', hk, hm⟩ := List.exists_of_findSome?_eq_some h
  obtain ⟨m', hf, he⟩ := Option.map_eq_some_iff.mp hm
  obtain ⟨rfl, rfl⟩ := Prod.mk.inj he
  exact ⟨hk, member?_eq_some_iff.mp hf⟩

end Kind

/-! ### Properties -/

def Member.IsRead (m : Member) : Prop := m.offer = .property ∨ m.offer = .field

instance : DecidablePred Member.IsRead := fun _ => inferInstanceAs (Decidable (_ ∨ _))

def memberProperties : List String :=
  ["__name__", "__qualname__", "__doc__", "__text_signature__", "__objclass__", "__module__"]

theorem propertyOfMember_ok (h : name ∈ memberProperties) (owner : Kind) (m : Member)
    (full : String) : ∃ v, propertyOfMember owner m full name = .ok v := by
  simp only [memberProperties, List.mem_cons, List.not_mem_nil, or_false] at h
  rcases h with rfl | rfl | rfl | rfl | rfl | rfl <;> exact ⟨_, rfl⟩

theorem mem_of_isRead_bound : ∀ k ∈ [Kind.bound, .wrapper], ∀ m ∈ k.members, m.IsRead →
    m.name ∈ "__self__" :: memberProperties := by decide +kernel

theorem mem_of_isRead_unbound (o : Offer) : ∀ m ∈ o.kind.members, m.IsRead →
    m.name ∈ memberProperties := by
  cases o <;> decide +kernel

theorem not_isRead : ∀ k ∈ [Kind.text, .absent, .tuple, .table], ∀ m ∈ k.members, ¬ m.IsRead := by
  decide +kernel

theorem name_of_isRead_object : ∀ m ∈ Kind.object.members, m.IsRead → m.name = "__class__" := by
  decide +kernel

theorem property_ok (ht : ∀ k, t ≠ kind k) (hm : m ∈ t.kindOf.members) (hr : m.IsRead) :
    ∃ v, t.property m.name = .ok v := by
  have class_or {name : String} {t : Thing} {r : Except Refusal Thing} (h : ∃ v, r = .ok v) :
      ∃ v, (if name = "__class__" then .ok (kind t.kindOf) else r) = Except.ok v := by
    split
    · exact ⟨_, rfl⟩
    · exact h
  cases t with
  | text s => exact absurd hr (not_isRead .text (by simp) m hm)
  | absent => exact absurd hr (not_isRead .absent (by simp) m hm)
  | tuple ks => exact absurd hr (not_isRead .tuple (by simp) m hm)
  | table k => exact absurd hr (not_isRead .table (by simp) m hm)
  | kind k => exact absurd rfl (ht k)
  | unbound owner m' =>
    exact class_or (propertyOfMember_ok (mem_of_isRead_unbound m'.offer m hm hr) ..)
  | bound owner m' subject =>
    refine class_or ?_
    dsimp only
    have hk : (bound owner m' subject).kindOf ∈ [Kind.bound, .wrapper] := by
      rw [kindOf]
      split <;> simp
    rcases List.mem_cons.mp (mem_of_isRead_bound _ hk m hm hr) with hn | hn
    · exact ⟨subject, by rw [hn]; rfl⟩
    · split
      · exact ⟨subject, rfl⟩
      · exact propertyOfMember_ok hn ..

/-! ### Members -/

theorem property_class (t : Thing) : t.property "__class__" = .ok (kind t.kindOf) := rfl

theorem bindTo_ok (ht : ∀ k, t ≠ kind k) (hf : t.kindOf.find? name = some (owner, m)) :
    ∃ v, bindTo owner m t = .ok v := by
  obtain ⟨ho, hm, -⟩ := Kind.mem_of_find? hf
  by_cases hr : m.IsRead
  · have hp : ∃ v, t.property m.name = .ok v := by
      rcases List.mem_cons.mp ho with rfl | ho
      · exact property_ok ht hm hr
      · obtain rfl : owner = .object := by
          rw [Kind.base?] at ho
          split at ho
          · cases ho
          · exact List.mem_singleton.mp ho
        rw [name_of_isRead_object m hm hr]
        exact ⟨_, property_class t⟩
    rcases hr with hr | hr <;> rw [bindTo, hr] <;> exact hp
  · rw [bindTo]
    cases ho : m.offer <;> first | exact ⟨_, rfl⟩ | exact absurd (by simp [Member.IsRead, ho]) hr

theorem member_eq (ht : ∀ k, t ≠ kind k) (name : String) :
    t.member name = match t.kindOf.find? name with
      | some (owner, m) => bindTo owner m t
      | none => .error .noSuchMember := by
  cases t with
  | kind k => exact absurd rfl (ht k)
  | _ => rfl

/-- What is no kind refuses just the names that its kind and the kinds behind it do not list. -/
theorem member_eq_error_iff (ht : ∀ k, t ≠ kind k) {r : Refusal} : t.member name = .error r ↔
    r = .noSuchMember ∧ ∀ k ∈ t.kindOf.line, ∀ m ∈ k.members, m.name ≠ name := by
  rw [← Kind.find?_eq_none_iff, member_eq ht]
  cases hf : t.kindOf.find? name with
  | none => simp [eq_comm]
  | some found =>
    obtain ⟨owner, m⟩ := found
    obtain ⟨v, hv⟩ := bindTo_ok ht hf
    simp [hv]

end SceneMarkup.Log.Thing
