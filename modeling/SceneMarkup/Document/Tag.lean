import SceneMarkup.Document.Basic
import SceneMarkup.Source.Capture

/-! # Tags

An opening tag holds attributes and bindings in any order. Each name may be given once among the
attributes and once among the bindings, but an explicit binding may replace a shorthand before it.
-/

namespace SceneMarkup

/-- A tag as far as it has been read; `shorthands` are the bindings given only by their name. -/
structure Tag where
  name : String
  attributes : Entries AttributeValue
  bindings : Entries String
  shorthands : List String
  deriving DecidableEq, Repr

namespace Tag

def ofName (name : String) : Tag := ⟨name, [], [], []⟩

def setAttribute (tag : Tag) (name : String) (value : AttributeValue) (place : Location) :
    Except Stop Tag :=
  if tag.attributes.has name then (Fault.attributeTwice name).stop place
  else .ok { tag with attributes := tag.attributes.put name value }

/-- Give a shorthand binding, whose name is also its text. -/
def setShorthand (tag : Tag) (name : String) (place : Location) : Except Stop Tag :=
  if tag.bindings.has name then (Fault.bindingTwice name).stop place
  else .ok { tag with
    bindings := tag.bindings.put name name
    shorthands := name :: tag.shorthands }

/-- Give a binding its text; a shorthand of that name gives way to it. -/
def setBinding (tag : Tag) (name source : String) (place : Location) : Except Stop Tag :=
  if tag.bindings.has name && !tag.shorthands.contains name then
    (Fault.bindingTwice name).stop place
  else .ok { tag with
    bindings := tag.bindings.put name source
    shorthands := tag.shorthands.filter (· != name) }

def readShorthand (tag : Tag) (s : Scanner) : Except Stop (Tag × Scanner) := do
  let s := (s.skip 1).skipBlanks
  let place := s.here
  let (name, s) ← s.expect .identifier "shorthand binding name"
  let s := s.skipBlanks
  if s.current? = some '\x7d' then
    let tag ← tag.setShorthand (String.ofList name) place
    return (tag, (s.skip 1).skipBlanks)
  else Fault.noShorthandEnd.stop s.here

def readValue (tag : Tag) (name : String) (place : Location) (s : Scanner) :
    Except Stop (Tag × Scanner) :=
  match s.current? with
  | some '\x7b' =>
      match s.binding with
      | (some source, s) => do
          let tag ← tag.setBinding name (String.ofList source) place
          return (tag, s)
      | (none, s) => Fault.openBinding.stop s.here
  | some '\x60' => Fault.templateLiteral.stop s.here
  | some c =>
      if isQuote c then do
        let (text, s) ← s.literal "attribute value"
        let tag ← tag.setAttribute name (.text (String.ofList text)) place
        return (tag, s)
      else (Fault.noValue name).stop s.here
  | none => (Fault.noValue name).stop s.here

def readNamed (tag : Tag) (s : Scanner) : Except Stop (Tag × Scanner) := do
  let place := s.here
  let (name, s) ← s.expect .identifier "attribute name"
  let name := String.ofList name
  if s.current? = some '=' then
    let (tag, s) ← tag.readValue name place (s.skip 1)
    return (tag, s.skipBlanks)
  else
    let tag ← tag.setAttribute name .present place
    return (tag, s.skipBlanks)

/-- What comes next in a tag: one more item, its end `/>` with the scanner after it, or its end
`>` with the scanner still on it. -/
inductive Step where
  | item (tag : Tag) (s : Scanner)
  | selfClosed (s : Scanner)
  | opened (s : Scanner)

/-- Read one item or the end of the tag. -/
def step (tag : Tag) (s : Scanner) : Except Stop Step :=
  match s.current? with
  | none => (Fault.unfinished tag.name).stop s.here
  | some '/' =>
      let s := s.skip 1
      if s.current? = some '>' then return .selfClosed (s.skip 1) else Fault.noTagEnd.stop s.here
  | some '>' => return .opened s
  | some '\x7b' => do
      let (tag, s) ← tag.readShorthand s
      return .item tag s
  | some _ => do
      let (tag, s) ← tag.readNamed s
      return .item tag s

inductive Ending where
  | selfClosed
  | opened
  deriving DecidableEq, Repr

open Scanner

variable {tag tag' : Tag} {name : String} {s s' : Scanner} {place : Location}

theorem readValue_of_isQuote {c : Char} (hc : s.current? = some c) (hq : isQuote c) :
    tag.readValue name place s = s.literal "attribute value" >>= fun r =>
      tag.setAttribute name (.text (String.ofList r.1)) place >>= fun tag => .ok (tag, r.2) := by
  unfold readValue
  rw [hc]
  split
  · next h =>
    obtain rfl := Option.some.inj h
    cases hq
  · next h =>
    obtain rfl := Option.some.inj h
    cases hq
  · next h =>
    obtain rfl := Option.some.inj h
    exact if_pos hq
  · next h => cases h

theorem readValue_of_brace (hc : s.current? = some '\x7b') :
    tag.readValue name place s = s.expectBinding >>= fun r =>
      tag.setBinding name (String.ofList r.1) place >>= fun tag => .ok (tag, r.2) := by
  simp only [readValue, hc, expectBinding]
  cases s.binding with
  | mk text s => cases text <;> rfl

theorem onward_setAttribute (value : AttributeValue)
    (hp : ∃ s', s.Ahead 0 s' ∧ place = s'.here) (hs : s.Ahead 0 s') :
    s.Onward 0 (fun _ => s') (tag.setAttribute name value place) := by
  unfold setAttribute
  split
  · exact hp
  · exact hs

theorem onward_setShorthand (hp : ∃ s', s.Ahead 0 s' ∧ place = s'.here) (hs : s.Ahead 0 s') :
    s.Onward 0 (fun _ => s') (tag.setShorthand name place) := by
  unfold setShorthand
  split
  · exact hp
  · exact hs

theorem onward_setBinding (source : String) (hp : ∃ s', s.Ahead 0 s' ∧ place = s'.here)
    (hs : s.Ahead 0 s') : s.Onward 0 (fun _ => s') (tag.setBinding name source place) := by
  unfold setBinding
  split
  · exact hp
  · exact hs

theorem onward_readShorthand (tag : Tag) (s : Scanner) :
    s.Onward 1 Prod.snd (tag.readShorthand s) := by
  have h₁ : s.Ahead 1 (s.skip 1).skipBlanks := (s.ahead_skip 1).trans (ahead_skipBlanks _)
  refine ((onward_expect _ fun n _ => n.zero_le).of_ahead h₁).bind ?_
  rintro ⟨name, s₂⟩ h₂
  have h₃ : s.Ahead 1 s₂.skipBlanks := h₂.trans (ahead_skipBlanks _)
  dsimp only
  split
  · refine (onward_setShorthand ⟨_, h₁.mono (Nat.zero_le _), rfl⟩
      (h₃.mono (Nat.zero_le _))).bind fun tag' _ => ?_
    exact (h₃.trans ((s₂.skipBlanks.ahead_skip 1).trans (ahead_skipBlanks _))).mono (by omega)
  · exact onward_stop _ _ (h₃.mono (Nat.zero_le _))

theorem onward_readValue {s₀ : Scanner} {k : Nat} (tag : Tag) (name : String)
    (hp : ∃ s', s₀.Ahead 0 s' ∧ place = s'.here) (hs : s₀.Ahead k s) :
    s₀.Onward k Prod.snd (tag.readValue name place s) := by
  have h₀ := hs.mono (Nat.zero_le k)
  unfold readValue
  split
  · have hb := hs.trans s.ahead_binding
    split
    · next hsb =>
      rw [hsb] at hb
      exact (onward_setBinding _ hp h₀).bind fun _ _ => hb
    · next hsb =>
      rw [hsb] at hb
      exact onward_stop _ _ (hb.mono (Nat.zero_le _))
  · exact onward_stop _ _ h₀
  · next c _ _ hc =>
    split
    · next hq =>
      refine ((onward_literal hc hq _).of_ahead hs).bind ?_
      rintro ⟨text, s'⟩ h'
      exact (onward_setAttribute _ hp h₀).bind fun _ _ => h'
    · exact onward_stop _ _ h₀
  · exact onward_stop _ _ h₀

theorem onward_readNamed (tag : Tag) (s : Scanner) :
    s.Onward 1 Prod.snd (tag.readNamed s) := by
  refine (onward_expect _ fun _ => Token.extent?_identifier_pos).bind ?_
  rintro ⟨name, s₁⟩ h₁
  have hp : ∃ s', s.Ahead 0 s' ∧ s.here = s'.here := ⟨s, ahead_refl s, rfl⟩
  dsimp only
  split
  · refine (onward_readValue (k := 1) _ _ hp ((h₁.trans (s₁.ahead_skip 1)).mono (by omega))).bind ?_
    rintro ⟨tag', s₂⟩ h₂
    exact Ahead.trans h₂ s₂.ahead_skipBlanks
  · exact (onward_setAttribute _ hp (ahead_refl s)).bind fun _ _ => h₁.trans s₁.ahead_skipBlanks

/-- Where a step leaves the scanner. -/
def Step.scanner : Step → Scanner
  | item _ s | selfClosed s | opened s => s

theorem onward_step (tag : Tag) (s : Scanner) : s.Onward 0 Step.scanner (tag.step s) := by
  unfold step
  split
  · exact onward_stop _ _ s.ahead_refl
  · dsimp only
    split
    · exact ((s.ahead_skip 1).trans ((s.skip 1).ahead_skip 1)).mono (Nat.zero_le _)
    · exact onward_stop _ _ ((s.ahead_skip 1).mono (Nat.zero_le _))
  · exact s.ahead_refl
  · exact (tag.onward_readShorthand s).bind fun _ h => h.mono (Nat.zero_le _)
  · exact (tag.onward_readNamed s).bind fun _ h => h.mono (Nat.zero_le _)

theorem step_length_lt
    (h : tag.step s = .ok (.item tag' s')) : s'.rest.length < s.rest.length := by
  have item_lt {x : Except Stop (Tag × Scanner)} (hx : s.Onward 1 Prod.snd x)
      (hs : s.rest ≠ []) (h : (x >>= fun r => pure (Step.item r.1 r.2)) = .ok (.item tag' s')) :
      s'.rest.length < s.rest.length := by
    match x, hx with
    | .ok r, hx =>
      simp only [bind, Except.bind, pure, Except.pure, Except.ok.injEq, Step.item.injEq] at h
      exact h.2 ▸ hx.length_lt hs
  unfold step at h
  split at h
  · cases h
  · dsimp only at h
    split at h <;> cases h
  · cases h
  · next hc =>
    have hs : s.rest ≠ [] := by rintro hs; simp [current?, hs] at hc
    exact item_lt (tag.onward_readShorthand s) hs h
  · next hc =>
    have hs : s.rest ≠ [] := by rintro hs; simp [current?, hs] at hc
    exact item_lt (tag.onward_readNamed s) hs h

def readItems (tag : Tag) (s : Scanner) : Except Stop (Tag × Ending × Scanner) :=
  match _h : tag.step s with
  | .error f => .error f
  | .ok (.selfClosed s) => .ok (tag, .selfClosed, s)
  | .ok (.opened s) => .ok (tag, .opened, s)
  | .ok (.item tag' s') => readItems tag' s'
termination_by s.rest.length
decreasing_by exact step_length_lt (by assumption)

theorem readItems_eq (tag : Tag) (s : Scanner) : tag.readItems s = tag.step s >>= fun
    | .item tag' s' => tag'.readItems s'
    | .selfClosed s' => .ok (tag, .selfClosed, s')
    | .opened s' => .ok (tag, .opened, s') := by
  rw [readItems]
  split <;> next h => rw [h]; rfl

theorem onward_readItems (tag : Tag) (s : Scanner) :
    s.Onward 0 (·.2.2) (tag.readItems s) := by
  fun_induction readItems tag s with
  | case1 tag s f h =>
    have hs := onward_step tag s
    rw [h] at hs
    exact hs.error
  | case2 tag s s' h =>
    have hs := onward_step tag s
    rwa [h] at hs
  | case3 tag s s' h =>
    have hs := onward_step tag s
    rwa [h] at hs
  | case4 tag s tag' s' h ih =>
    have hs := onward_step tag s
    rw [h] at hs
    exact ih.of_ahead hs

end Tag

end SceneMarkup
