import SceneMarkup.Proofs.Http.Framing
import SceneMarkup.Proofs.Server.Confinement
import SceneMarkup.Proofs.Source.Scanner

/-! # Framed answers

Whatever the server answers is framed: the index page, the module of the entry, what is wrong with
it, a file, what the backend says and that the backend says nothing. A file is sent after its
length, and what is sent is the file.
-/

namespace SceneMarkup.Server

open Http (Framed)

variable {s : Server} {d : Disk} {r : Request} {response : Http.Response}

theorem framed_of_passOn {backend : String} {host : Host}
    (h : (s.passOn backend host r).result = .ok response) :
    Framed response.status response.events := by
  unfold passOn at h
  dsimp only at h
  split at h
  · obtain rfl := Except.ok.inj h
    exact Http.Response.framed_ofContent ..
  · split at h
    · obtain rfl := Except.ok.inj h
      exact Http.Response.framed_ofContent ..
    · cases h

theorem framed_of_serveModule (h : (s.serveModule d).result = .ok response) :
    Framed response.status response.events := by
  unfold serveModule at h
  dsimp only at h
  split at h
  · cases h
  · obtain rfl := Except.ok.inj h
    split
    · exact Http.Response.framed_ofContent ..
    · exact Http.Response.framed_ofContent ..

theorem ofFile_or_notFound_of_serveFile {types : Http.MediaType.Table}
    {requested : String} (h : s.serveFile types d requested = .ok response) :
    (∃ bytes, resolved d s.root <+: resolved d (s.target requested) ∧
      d.file? (pathTo (resolved d (s.target requested))) = .ok (some bytes) ∧
      response = .ofFile types (pathTo (resolved d (s.target requested))) bytes) ∨
    ((resolved d s.root <+: resolved d (s.target requested) →
      d.file? (pathTo (resolved d (s.target requested))) = .ok none) ∧ response = notFound) := by
  unfold serveFile at h
  dsimp only at h
  split_ifs at h with hc hn hc' hp
  · rw [Http.Response.file?] at h
    cases hf : d.file? (pathTo (resolved d (s.target requested))) with
    | error f =>
      rw [hf] at h
      cases h
    | ok found =>
      rw [hf] at h
      obtain rfl := Except.ok.inj h
      cases found with
      | none =>
        right
        exact ⟨fun _ => rfl, rfl⟩
      | some bytes =>
        left
        exact ⟨bytes, List.isPrefixOf_iff_prefix.mp hp, rfl, rfl⟩
  · right
    obtain rfl := Except.ok.inj h
    exact ⟨fun hr => absurd (List.isPrefixOf_iff_prefix.mpr hr) hp, rfl⟩

theorem framed_of_serveFile {types : Http.MediaType.Table} {requested : String}
    (h : s.serveFile types d requested = .ok response) :
    Framed response.status response.events := by
  rcases ofFile_or_notFound_of_serveFile h with ⟨bytes, -, -, rfl⟩ | ⟨-, rfl⟩
  · exact Http.Response.framed_ofFile ..
  · exact Http.Response.framed_ofContent ..

theorem framed_of_handle {host : Host} (h : (s.handle d host r).result = .ok response) :
    Framed response.status response.events := by
  by_cases hi : r.path ∈ indexPaths
  · rw [handle_indexPage host hi] at h
    obtain rfl := Except.ok.inj h
    exact Http.Response.framed_ofContent ..
  by_cases hs : r.path = scriptPath
  · have hr : r = { r with path := scriptPath } := by rw [← hs]
    rw [hr, handle_scriptPath] at h
    exact framed_of_serveModule h
  by_cases hb : ∀ address, s.backend = some address → address.isEmpty
  · rw [handle_file hb host hi hs] at h
    dsimp only at h
    exact framed_of_serveFile h
  · push Not at hb
    obtain ⟨address, hb, ha⟩ := hb
    rw [handle_backend hb (by simpa using ha) host hi hs] at h
    exact framed_of_passOn h

theorem serve_of_handle {host : Host} (h : (s.handle d host r).result = .ok response) :
    (s.serve d host (.request r)).result = .ok response.events := by
  rw [serve]
  dsimp only
  rw [h]

end SceneMarkup.Server
