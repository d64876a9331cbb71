import SceneMarkup.Proofs.Http.Percent
import SceneMarkup.Proofs.Server.Confinement

/-! # Reachability

A file below the root is served under its path from the root, unless there is an escape in that
path. The path of a request comes decoded and is decoded once more, so that one with an escape leads
to a place with a shorter name.
-/

namespace SceneMarkup.Server

open Http.Percent (Escaped decode decode_of_not_escaped length_decode_of_escaped
  not_escaped_of_not_mem)

variable {s : Server} {d : Disk} {p base : Path} {place : Place} {names : List String}
  {bytes : Http.Bytes}

/-- The path of a request for what lies under these names below the root. -/
def requestPath (names : List String) : String := "/" ++ "/".intercalate names

theorem dropWhile_of_head?_ne {cs : List Char} (h : cs.head? ≠ some '/') :
    cs.dropWhile (· == '/') = cs := by
  cases cs with
  | nil => rfl
  | cons c cs => exact List.dropWhile_cons_of_neg (by simpa using h)

theorem isName_of_legal {name : String} (h : Disk.Legal name) : Path.IsName name :=
  ⟨h.ne_empty, h.ne_dot, h.slash⟩

theorem isAbsolute_ofText {t : String} (h : t.toList.head? ≠ some '/') :
    (Path.ofText t).isAbsolute = false := by
  unfold Path.ofText
  dsimp only
  rw [Path.takeWhile_of_head?_ne h]
  rfl

/-- Without an escape a request asks for what its path says. -/
theorem target_of_not_escaped (hn : ∀ name ∈ names, Disk.Legal name)
    (he : ¬ Escaped (requestPath names).toList) :
    s.target (requestPath names) = s.root.join ⟨.relative, names⟩ := by
  have hl : ∀ name ∈ names, Path.IsName name := fun name hm => isName_of_legal (hn name hm)
  have hd : (requestPath names).toList.dropWhile (· == '/') = ("/".intercalate names).toList := by
    rw [requestPath, String.toList_append]
    exact dropWhile_of_head?_ne (Path.head?_intercalate hl)
  have ht : Path.ofText ("/".intercalate names) = ⟨.relative, names⟩ := by
    have := Path.ofText_append_intercalate .relative hl
    rwa [Root.text, String.empty_append] at this
  rw [target, decode_of_not_escaped he, hd, String.ofList_toList, ht]

/-! ### Lengths -/

/-- How many characters the names of a place have, with a slash each. -/
def extent (place : Place) : Nat := Text.extent (place.map String.toList)

theorem extent_append (place other : Place) :
    extent (place ++ other) = extent place + extent other := by
  rw [extent, List.map_append, Text.extent_append]
  rfl

theorem extent_foldl_le (place : Place) (names : List String) :
    extent (names.foldl lexicalStep place) ≤ extent place + extent names := by
  induction names generalizing place with
  | nil => exact Nat.le_refl _
  | cons name names ih =>
    have hs : extent (lexicalStep place name) ≤ extent place + extent [name] := by
      rw [lexicalStep]
      split
      · exact Nat.le_trans (Text.extent_le_of_sublist ((List.dropLast_sublist place).map _))
          (Nat.le_add_right ..)
      · exact Nat.le_of_eq (extent_append place [name])
    have hc : extent (name :: names) = extent [name] + extent names := extent_append [name] names
    have hi := ih (lexicalStep place name)
    rw [List.foldl_cons]
    omega

theorem extent_ofText_le (t : String) : extent (Path.ofText t).parts ≤ t.toList.length + 1 := by
  have hm (pieces : List (List Char)) :
      extent (pieces.map String.ofList) = Text.extent pieces := by
    simp [extent, Function.comp_def]
  unfold Path.ofText
  dsimp only
  rw [hm, ← Text.extent_splitOnP (· == '/') t.toList]
  exact Text.extent_le_of_sublist List.filter_sublist

theorem length_requestPath (hn : names ≠ []) :
    (requestPath names).toList.length = extent names := by
  have hi : (['/'].intercalate (names.map String.toList)).length + 1 = extent names :=
    Text.length_intercalate '/' (by simpa using hn)
  rw [requestPath, String.toList_append, List.length_append, String.toList_intercalate, ← hi]
  exact Nat.add_comm ..

/-- With an escape a request asks for something else than what its path says. -/
theorem resolved_target_ne (hw : d.WellFormed) (hn : names ≠ [])
    (he : Escaped (requestPath names).toList) : resolved d (s.target (requestPath names)) ≠ resolved d s.root ++ names := by
  let asked := String.ofList ((decode (requestPath names)).toList.dropWhile (· == '/'))
  have hh : asked.toList.head? ≠ some '/' := by
    intro h
    have hd := List.head?_dropWhile_not (· == '/') (decode (requestPath names)).toList
    rw [String.toList_ofList] at h
    rw [h] at hd
    cases hd
  have ht : resolved d (s.target (requestPath names)) =
      (Path.ofText asked).parts.foldl lexicalStep (resolved d s.root) :=
    resolved_join hw (isAbsolute_ofText hh)
  -- The names that are asked for are too short to make up the names below the root.
  have hshort : extent (Path.ofText asked).parts < extent names := by
    have hl := length_decode_of_escaped he
    have hd : asked.toList.length ≤ (decode (requestPath names)).toList.length := by
      rw [String.toList_ofList]
      exact (List.dropWhile_sublist _).length_le
    have hp := extent_ofText_le asked
    have hr := length_requestPath hn
    omega
  intro h
  have hf := extent_foldl_le (resolved d s.root) (Path.ofText asked).parts
  rw [← ht, h, extent_append] at hf
  omega

/-! ### Files below the root -/

/-- Without an escape the file that lies where the path of a request says is the answer, unless
that place has too long a path. -/
theorem serveFile_of_not_escaped (hw : d.WellFormed)
    (hr : ∀ name ∈ s.root.parts, Disk.hasNull name = false)
    (hf : d.at? (resolved d s.root ++ names) = some (.file bytes))
    (he : ¬ Escaped (requestPath names).toList) (types : Http.MediaType.Table) :
    s.serveFile types d (requestPath names) =
      if (pathTo (resolved d s.root ++ names)).text.utf8ByteSize > Disk.longestPath then
        .error (.disk .nameTooLong)
      else .ok (.ofFile types (pathTo (resolved d s.root ++ names)) bytes) := by
  have ha : d.at? (resolved d s.root ++ names) ≠ none := by simp [hf]
  have hl : ∀ name ∈ names, Disk.Legal name := fun name hm =>
    hw.legal_of_mem ha name (List.mem_append_right _ hm)
  have ht := target_of_not_escaped (s := s) hl he
  have hp : resolved d (s.target (requestPath names)) = resolved d s.root ++ names := by
    rw [ht, resolved_join hw rfl, foldl_lexicalStep fun name hm => (hl name hm).ne_dots]
  have hnull : ¬ (s.target (requestPath names)).parts.any Disk.hasNull := by
    rw [ht, Path.join_of_relative rfl, List.any_eq_true]
    rintro ⟨name, hm, hn⟩
    rcases List.mem_append.mp hm with hm | hm
    · rw [hr name hm] at hn
      cases hn
    · rw [Disk.hasNull_eq_false (hl name hm)] at hn
      cases hn
  rw [serveFile_lexical hw, if_neg hnull, hp,
    if_pos (List.isPrefixOf_iff_prefix.mpr (List.prefix_append ..)), Http.Response.file?, Disk.file?, pathTo, hw.find?_of_at? ha, hf]
  split_ifs <;> rfl

/-- A file below the root is served whole under its path from the root, if that path holds no escape
and the path of its place is not too long. With an escape the path leads to another file, if to any
at all. -/
theorem serve_file_below (hb : ∀ address, s.backend = some address → address.isEmpty)
    (hw : d.WellFormed) (hr : ∀ name ∈ s.root.parts, Disk.hasNull name = false)
    (hf : d.at? (resolved d s.root ++ names) = some (.file bytes))
    (hi : requestPath names ∉ indexPaths) (hs : requestPath names ≠ scriptPath)
    (host : Host) {r : Request} (hp : r.path = requestPath names) :
    (¬ Escaped (requestPath names).toList →
      (pathTo (resolved d s.root ++ names)).text.utf8ByteSize ≤ Disk.longestPath →
      ∃ events headers, (s.serve d host (.request r)).result = .ok events ∧
        .started 200 headers ∈ events ∧ Http.received events = bytes) ∧
    (¬ Escaped (requestPath names).toList →
      (pathTo (resolved d s.root ++ names)).text.utf8ByteSize > Disk.longestPath →
      (s.serve d host (.request r)).result = .error (.disk .nameTooLong)) ∧
    (Escaped (requestPath names).toList → ∀ events headers,
      (s.serve d host (.request r)).result = .ok events → .started 200 headers ∈ events →
      ∃ place bytes', place ≠ resolved d s.root ++ names ∧ d.at? place = some (.file bytes') ∧
        Http.received events = bytes') := by
  have hi' : r.path ∉ indexPaths := hp ▸ hi
  have hs' : r.path ≠ scriptPath := hp ▸ hs
  refine ⟨fun he hl => ?_, fun he hl => ?_, fun he events headers hserved hm => ?_⟩
  · rw [serve_file_result hb host hi' hs', hp, serveFile_of_not_escaped hw hr hf he,
      if_neg (Nat.not_lt.mpr hl)]
    exact ⟨_, _, rfl, List.mem_cons_self, Http.Response.received_events_ofFile _ _ bytes⟩
  · rw [serve_file_result hb host hi' hs', hp, serveFile_of_not_escaped hw hr hf he, if_pos hl]
    rfl
  · have hn : names ≠ [] := by
      rintro rfl
      exact hi (by decide)
    have ha := (received_of_serve hb hw hi' hs' hserved hm).2
    rw [hp] at ha
    exact ⟨_, _, resolved_target_ne hw hn he, ha, rfl⟩

theorem serve_file_below_styled :
    styled.WellFormed ∧ styled.at? (resolved styled homely.root ++ ["a.css"]) = some (.file [0x2A]) ∧
      ∃ events headers,
        (homely.serve styled silent (.request (getRequest (requestPath ["a.css"])))).result =
          .ok events ∧ .started 200 headers ∈ events ∧ Http.received events = [0x2A] := by
  have hf : styled.at? (resolved styled homely.root ++ ["a.css"]) = some (.file [0x2A]) := by decide
  have he : ¬ Escaped (requestPath ["a.css"]).toList := not_escaped_of_not_mem (by decide)
  exact ⟨styled_wellFormed, hf, (serve_file_below (s := homely) nofun styled_wellFormed (by decide)
    hf (by decide) (by decide) silent rfl).1 he (by decide)⟩

/-- A working directory with a file whose name looks like an escape. -/
def percented : Disk := (Disk.blank ["site"]).put ["site", "a%20b.txt"] (.file [0x78])

theorem not_serve_percented :
    percented.WellFormed ∧
      percented.at? (resolved percented homely.root ++ ["a%20b.txt"]) = some (.file [0x78]) ∧
      (homely.serve percented silent (.request (getRequest "/a%20b.txt"))).result =
        .ok notFound.events ∧ ∀ headers, .started 200 headers ∉ notFound.events := by
  refine ⟨.of_entries rfl (by decide), by decide, by with_unfolding_all rfl, fun headers h => ?_⟩
  cases Http.Response.status_eq_of_mem_events h

end SceneMarkup.Server
