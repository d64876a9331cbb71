import SceneMarkup.Http.Response

/-! # Sending and framing

The pieces in which a file is sent make up the file. A framed answer is one start message and then
the messages of its body. Of these all but the last say that more follows, and the start message
says the length of what they carry and its type.
-/

namespace SceneMarkup.Http

def Event.carried : Event → Bytes
  | .body bytes _ => bytes
  | _ => []

/-- The body that messages carry. -/
def received (events : List Event) : Bytes := events.flatMap Event.carried

namespace Response

theorem flatten_pieces {α : Type} (size : Nat) (xs : List α) : (pieces size xs).flatten = xs := by
  induction xs using pieces.induct size with
  | case1 => rw [pieces]; rfl
  | case2 x xs ih => rw [pieces, List.flatten_cons, ih, List.cons_append, List.take_append_drop]

theorem status_eq_of_mem_events {r : Response} {status : Int} {headers : List (String × String)}
    (h : .started status headers ∈ r.events) : r.status = status := by
  rw [events] at h
  rcases List.mem_cons.mp h with h | h
  · exact (Event.started.inj h).1.symm
  · split at h
    · simp at h
    · simp at h

theorem received_map_body (bss : List Bytes) (more : Option Bool) :
    received (bss.map (.body · more)) = bss.flatten := by
  rw [received, List.flatMap_map]
  exact List.flatMap_id'

theorem received_events_ofFile (types : MediaType.Table) (path : Path) (bytes : Bytes) :
    received (ofFile types path bytes).events = bytes := by
  have hp := received_map_body (pieces pieceSize bytes) (some true)
  rw [flatten_pieces, received] at hp
  simp [received, events, ofFile, make, hp, Event.carried]

end Response

/-- The messages of a body: all but the last say that more follows, and the last does not. -/
inductive BodyMessages : List Event → Prop where

  | last (bytes : Bytes) {more : Option Bool} : more ≠ some true → BodyMessages [.body bytes more]

  | piece (bytes : Bytes) {events : List Event} : BodyMessages events →
      BodyMessages (.body bytes (some true) :: events)

def valuesOf (headers : List (String × String)) (name : String) : List String :=
  (headers.filter fun h => Text.lower h.1 == name).map Prod.snd

/-- A whole answer with a status. -/
inductive Framed (status : Int) : List Event → Prop where

  | intro {headers : List (String × String)} {events : List Event} : BodyMessages events →
      valuesOf headers "content-length" = [toString (received events).length] →
      (∃ type, valuesOf headers "content-type" = [type]) →
      Framed status (.started status headers :: events)

@[simp] theorem received_nil : received [] = [] := rfl

@[simp] theorem received_cons (event : Event) (events : List Event) :
    received (event :: events) = event.carried ++ received events :=
  List.flatMap_cons

theorem BodyMessages.of_pieces {more : Option Bool} (bss : List Bytes) (bytes : Bytes)
    (h : more ≠ some true) : BodyMessages (bss.map (.body · (some true)) ++ [.body bytes more]) := by
  induction bss with
  | nil => exact .last bytes h
  | cons bs bss ih => exact .piece bs ih

theorem Framed.of_headers {status : Int} {events : List Event} {headers : List (String × String)}
    (type : String) (hb : BodyMessages events)
    (hh : headers.Perm [("content-type", type),
      ("content-length", toString (received events).length)]) :
    Framed status (.started status headers :: events) := by
  have ht : Text.lower "content-type" = "content-type" := by decide
  have hl : Text.lower "content-length" = "content-length" := by decide
  have hv (name : String) : (valuesOf headers name).Perm
      (valuesOf [("content-type", type),
        ("content-length", toString (received events).length)] name) :=
    (hh.filter _).map _
  constructor
  · exact hb
  · apply List.perm_singleton.mp
    simpa [valuesOf, ht, hl] using hv "content-length"
  · refine ⟨type, List.perm_singleton.mp ?_⟩
    simpa [valuesOf, ht, hl] using hv "content-type"

namespace Response

theorem events_ofContent (kind : Kind) (content : Content) (status : Int) (mediaType : String) :
    ∃ type, (ofContent kind content status [] mediaType).events =
      [.started status [("content-type", type), ("content-length", toString content.toBytes.length)],
        .body content.toBytes none] := by
  have ht : Text.lower "Content-Type" = "content-type" := by decide
  have hl : Text.lower "Content-Length" = "content-length" := by decide
  let type := contentType (if mediaType.isEmpty then kind.mediaType else mediaType)
  refine ⟨type, ?_⟩
  simp [events, sentHeaders, ofContent, make, addMissing, hasHeader, Entries.put, ht, hl, type]

theorem events_ofFile (types : MediaType.Table) (path : Path) (bytes : Bytes) :
    ∃ type, (ofFile types path bytes).events =
      .started 200 [("content-length", toString bytes.length), ("content-type", type)] ::
        ((pieces pieceSize bytes).map (.body · (some true)) ++ [.body [] (some false)]) := by
  have ht : Text.lower "Content-Type" = "content-type" := by decide
  have hl : Text.lower "Content-Length" = "content-length" := by decide
  refine ⟨contentType (MediaType.ofName types path.text), ?_⟩
  simp [events, sentHeaders, ofFile, make, addMissing, hasHeader, Entries.put, ht, hl]

theorem framed_ofContent (kind : Kind) (content : Content) (status : Int) (mediaType : String) :
    Framed status (ofContent kind content status [] mediaType).events := by
  obtain ⟨type, he⟩ := events_ofContent kind content status mediaType
  rw [he]
  apply Framed.of_headers type
  · exact .last content.toBytes (by simp)
  · simp [Event.carried]

theorem received_ofContent (kind : Kind) (content : Content) (status : Int) (mediaType : String) :
    received (ofContent kind content status [] mediaType).events = content.toBytes := by
  obtain ⟨type, he⟩ := events_ofContent kind content status mediaType
  simp [he, Event.carried]

theorem framed_ofFile (types : MediaType.Table) (path : Path) (bytes : Bytes) :
    Framed 200 (ofFile types path bytes).events := by
  obtain ⟨type, he⟩ := events_ofFile types path bytes
  have hr : received (ofFile types path bytes).events = bytes :=
    received_events_ofFile types path bytes
  rw [he, received_cons] at hr
  rw [he]
  apply Framed.of_headers type
  · exact .of_pieces (pieces pieceSize bytes) [] (by simp)
  · rw [show received _ = bytes from hr]
    exact .swap ..

end Response

end SceneMarkup.Http
