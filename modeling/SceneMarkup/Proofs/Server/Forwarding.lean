import SceneMarkup.Proofs.Entries
import SceneMarkup.Proofs.Server.Confinement

/-! # Requests that are passed on

A request reaches the backend with its method, its whole body and the headers that do not concern a
single connection. Headers with one name become one: only the last of them is passed on, so a
request loses none of its headers exactly when no two of them have the same name.
-/

namespace SceneMarkup.Server

variable {s : Server} {d : Disk} {r : Request}

/-- The headers of a request that do not concern a single connection. -/
def endToEnd (headers : List (String × String)) : List (String × String) :=
  headers.filter fun h => !isHopByHop h.1

theorem mem_endToEnd_iff {headers : List (String × String)} {h : String × String} :
    h ∈ endToEnd headers ↔ h ∈ headers ∧ isHopByHop h.1 = false := by
  simp [endToEnd]

theorem bodyOf_append (front : List Http.Bytes) (last : Http.Bytes)
    (rest : List (Http.Bytes × Bool)) :
    bodyOf (front.map (·, true) ++ (last, false) :: rest) = front.flatten ++ last := by
  induction front with
  | nil => rfl
  | cons bytes front ih =>
    rw [List.map_cons, List.cons_append, bodyOf, if_pos rfl, ih, List.flatten_cons,
      List.append_assoc]

/-- Of the headers with one name, the last is passed on. -/
theorem mem_forwarded_iff {headers : List (String × String)} {h : String × String} :
    h ∈ forwarded headers ↔ isHopByHop h.1 = false ∧
      ∃ front back, headers = front ++ h :: back ∧ ∀ h' ∈ back, h'.1 ≠ h.1 := by
  rw [forwarded, ← endToEnd, Entries.mem_ofList_iff]
  constructor
  · rintro ⟨front, back, he, hb⟩
    obtain ⟨front', back', rfl, -, hr⟩ := List.filter_eq_append_iff.mp he
    obtain ⟨middle, back', rfl, -, hh, rfl⟩ := List.filter_eq_cons_iff.mp hr
    have hh : isHopByHop h.1 = false := by simpa using hh
    refine ⟨hh, front' ++ middle, back', by simp, ?_⟩
    intro h' hm hn
    apply hb
    rw [← hn] at hh ⊢
    exact List.mem_map_of_mem (mem_endToEnd_iff.mpr ⟨hm, hh⟩)
  · rintro ⟨hh, front, back, rfl, hb⟩
    refine ⟨endToEnd front, endToEnd back, by simp [endToEnd, hh], ?_⟩
    intro hm
    obtain ⟨h', hm, hn⟩ := List.mem_map.mp hm
    exact hb h' (mem_endToEnd_iff.mp hm).1 hn

/-- Nothing is lost exactly when no name is given twice. -/
theorem perm_forwarded_iff {headers : List (String × String)} :
    (forwarded headers).Perm (endToEnd headers) ↔ ((endToEnd headers).map Prod.fst).Nodup :=
  Entries.perm_ofList_iff

theorem calls_passOn (address : String) (host : Host) :
    (s.passOn address host r).calls = [Call.ofRequest address r] := by
  unfold passOn
  dsimp only
  split
  · rfl
  · split <;> rfl

/-- A request is passed on with its method, its body, and of its headers those that do not concern
a single connection, the last for every name; all of them exactly when no name is given twice. -/
theorem passes_on {address : String} (hb : s.backend = some address)
    (ha : address.isEmpty = false) (hi : r.path ∉ indexPaths) (hs : r.path ≠ scriptPath)
    {front : List Http.Bytes} {last : Http.Bytes} {rest : List (Http.Bytes × Bool)}
    (hm : r.messages = front.map (·, true) ++ (last, false) :: rest) (d : Disk)
    (host : Host) :
    ∃ call, (s.handle d host r).calls = [call] ∧ call.method = r.method ∧
      call.content = front.flatten ++ last ∧
      (∀ h ∈ call.headers, isHopByHop h.1 = false) ∧
      (call.headers.map Prod.fst).Nodup ∧
      (∀ h, h ∈ call.headers ↔ isHopByHop h.1 = false ∧
        ∃ before after, r.headers = before ++ h :: after ∧ ∀ h' ∈ after, h'.1 ≠ h.1) ∧
      (call.headers.Perm (endToEnd r.headers) ↔ ((endToEnd r.headers).map Prod.fst).Nodup) := by
  refine ⟨Call.ofRequest address r, ?_, rfl, ?_, ?_, ?_, ?_, ?_⟩
  · rw [handle_backend hb ha host hi hs, calls_passOn]
  · change bodyOf r.messages = _
    rw [hm, bodyOf_append]
  · intro h hh
    exact (mem_forwarded_iff.mp hh).1
  · exact Entries.nodup_keys_ofList _
  · intro h
    exact mem_forwarded_iff
  · exact perm_forwarded_iff

/-- A server that passes requests on. -/
def relaying : Server := ofRoot ⟨.slash, ["site"]⟩ "a.opal" (some "http://backend/")

/-- A request with a body in pieces and two headers with one name. -/
def repeating : Request where
  method := "POST"
  path := "/x"
  query := ""
  headers := [("cookie", "a=1"), ("Connection", "close"), ("cookie", "b=2")]
  messages := [([1], true), ([2], true), ([3], false)]

theorem passes_on_repeating :
    relaying.backend = some "http://backend" ∧ repeating.path ∉ indexPaths ∧
      repeating.path ≠ scriptPath ∧
      repeating.messages = [[1], [2]].map (·, true) ++ ([3], false) :: [] ∧
      ∃ call, (relaying.handle styled silent repeating).calls = [call] ∧ call.method = "POST" ∧
        call.content = [1, 2, 3] ∧ ("cookie", "b=2") ∈ call.headers := by
  have hb : relaying.backend = some "http://backend" := by decide
  have hi : repeating.path ∉ indexPaths := by decide
  have hs : repeating.path ≠ scriptPath := by decide
  have hm : repeating.messages = [[1], [2]].map (·, true) ++ ([3], false) :: [] := rfl
  obtain ⟨call, hc, hmethod, hbody, -, -, hh, -⟩ :=
    passes_on hb (by decide) hi hs hm styled silent
  refine ⟨hb, hi, hs, hm, call, hc, hmethod, hbody, (hh _).mpr ⟨by decide, ?_⟩⟩
  exact ⟨[("cookie", "a=1"), ("Connection", "close")], [], rfl, nofun⟩

/-- Of two headers with one name the first is lost. -/
theorem not_passes_on_repeating :
    ("cookie", "a=1") ∈ repeating.headers ∧ isHopByHop "cookie" = false ∧
      ∀ d host, ∃ call, (relaying.handle d host repeating).calls = [call] ∧
        ("cookie", "a=1") ∉ call.headers := by
  refine ⟨by decide, by decide, ?_⟩
  intro d host
  have hb : relaying.backend = some "http://backend" := by decide
  refine ⟨Call.ofRequest "http://backend" repeating, ?_, by decide⟩
  rw [handle_backend hb (by decide) host (by decide) (by decide), calls_passOn]

end SceneMarkup.Server
