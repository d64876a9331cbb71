import Mathlib.Data.List.Induction
import SceneMarkup.Client
import SceneMarkup.Proofs.Compression.RoundTrip
import SceneMarkup.Proofs.Server.Forwarding
import SceneMarkup.Proofs.Url

/-! # What a client sends and receives

A client asks for one visible word of a host, on a path that does not lead back. Whatever codings
the headers of an answer list, it receives the body to which they were applied. So a server that
passes a request on answers with that body.
-/

namespace SceneMarkup

namespace Http.Coding

open Compression

/-- Apply a coding to a body, without making it shorter. -/
def apply : Coding → Bytes → Bytes
  | gzip, body => Wrapping.gzip.wrap body (Inflate.deflateStored body)
  | deflate, body => Wrapping.zlib.wrap body (Inflate.deflateStored body)

theorem undo_apply (coding : Coding) (body : Bytes) :
    coding.undo (coding.apply body) = .ok body := by
  have hu (w : Wrapping) : w.unwrap (w.wrap body (Inflate.deflateStored body)) = .ok body := by
    rw [← (w.wrap body (Inflate.deflateStored body)).append_nil]
    exact w.unwrap_wrap (Inflate.inflate_deflateStored body)
  cases coding with
  | gzip => exact hu .gzip
  | deflate => rw [undo, apply, hu]

def codings (headers : List (String × String)) : List Coding :=
  (headerOf? headers "content-encoding").elim [] listed

def coded (codings : List Coding) (body : Bytes) : Bytes :=
  codings.foldl (fun bytes coding => coding.apply bytes) body

theorem content_coded (headers : List (String × String)) (body : Bytes) :
    content headers (coded (codings headers) body) = .ok body := by
  change (codings headers).reverse.foldlM (fun bytes coding => coding.undo bytes) _ = _
  induction codings headers using List.reverseRecOn with
  | nil => rfl
  | append_singleton cs coding ih =>
    rw [coded, List.foldl_append, List.reverse_append]
    change coding.undo (coding.apply (coded cs body)) >>= _ = _
    rw [undo_apply]
    exact ih

end Http.Coding

namespace Client

open Http.Coding

open Server (Call Host)

variable {backend : Call → Reply} {c : Call} {address : Url} {status : Int}
  {headers : List (String × String)} {body : Http.Bytes}

theorem addressOf_ok (h : addressOf c = .ok address) :
    areSendable c.headers ∧ isAscii address.host ∧ ∃ read, Url.ofText c.url = .ok read ∧
      (address = read ∨ address.isAbsolute = false ∧ read.relative = .ok address) := by
  rw [addressOf] at h
  split at h
  · cases h
  · next read' ha =>
    split at h
    · next hs =>
      cases h
      obtain ⟨hs, hh⟩ := Bool.and_eq_true_iff.mp hs
      refine ⟨hs, hh, ?_⟩
      simp only [addressOf?, bind, Except.bind] at ha
      split at ha
      · cases ha
      · next read hr =>
        refine ⟨read, hr, ?_⟩
        split at ha
        · exact .inl (Except.ok.inj ha).symm
        · refine .inr ⟨?_, ha⟩
          rw [Url.relative_ok ha]
          rfl
    · cases h

/-- What is asked for at the host is one visible word. -/
theorem target_of_addressOf (h : addressOf c = .ok address) :
    ∀ ch ∈ address.target.toList, 0x20 < ch.toNat ∧ ch.toNat < 0x7F := by
  obtain ⟨-, -, read, hr, ha⟩ := addressOf_ok h
  have he := (Url.ofText_ok hr).1
  rcases ha with rfl | ⟨-, ha⟩
  · exact he.target
  · exact (he.relative ha).target

/-- The path of a call with an absolute address does not lead back. -/
theorem path_of_addressOf (h : addressOf c = .ok address) (ha : address.isAbsolute) :
    ∀ step ∈ Text.splitOnP (· == '/') address.path.toList, ¬ Url.IsDots step := by
  obtain ⟨-, -, read, hr, rfl | ⟨hn, -⟩⟩ := addressOf_ok h
  · exact Url.not_isDots_of_ofText hr ha
  · exact absurd ha (by simp [hn])

theorem call_coded (ha : addressOf c = .ok address) (hu : address.isAbsolute)
    (hb : backend c = .answer status headers (coded (codings headers) body))
    (hs : areSendable headers) (hr : isRedirect status = false) :
    call backend c = .ok ⟨status, Http.headerOf? headers "content-type", body⟩ := by
  rw [call, ha]
  dsimp only [bind, Except.bind]
  rw [hb]
  dsimp only
  rw [received, hs, content_coded, hu]
  cases Http.headerOf? headers "location" with
  | none => rfl
  | some location =>
    dsimp only
    rw [hr]
    rfl

end Client

namespace Server

open Http.Coding Client

/-- A request that is passed on is answered with the body that the backend coded. -/
theorem handle_coded {s : Server} {d : Disk} {r : Request} {backend : Call → Reply}
    {root : String} {address : Url} {status : Int} {headers : List (String × String)}
    {body : Http.Bytes} (types : Http.MediaType.Table) (hb : s.backend = some root)
    (hn : root.isEmpty = false) (hi : r.path ∉ indexPaths) (hp : r.path ≠ scriptPath)
    (ha : addressOf (Call.ofRequest root r) = .ok address) (hu : address.isAbsolute)
    (hreply : backend (Call.ofRequest root r) =
      .answer status headers (coded (codings headers) body))
    (hs : areSendable headers) (hr : isRedirect status = false) :
    (s.handle d ⟨types, call backend⟩ r).result = .ok (Answer.relayed
      ⟨status, Http.headerOf? headers "content-type", body⟩) := by
  rw [handle_backend hb hn ⟨types, call backend⟩ hi hp, passOn]
  dsimp only
  rw [call_coded ha hu hreply hs hr]

end Server

end SceneMarkup
