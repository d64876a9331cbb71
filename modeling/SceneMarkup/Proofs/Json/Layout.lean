import SceneMarkup.Json.Reader
import SceneMarkup.Json.Basic

/-! # Layouts

The two layouts in which values are written differ in blanks only, so one writer with the blanks as
a parameter stands for both. Its text has at least half as many characters as the reader needs
steps.
-/

namespace SceneMarkup.Json

/-- What stands in front of an element or member, by its level, and behind a colon. -/
structure Layout where
  gap : Nat → List Char
  space : List Char
  gap_blank : ∀ level, ∀ c ∈ gap level, isSpace c
  space_blank : ∀ c ∈ space, isSpace c

namespace Layout

def dense : Layout := ⟨fun _ => [], [], by simp, by simp⟩

def airy : Layout where
  gap level := '\n' :: List.replicate (2 * level) ' '
  space := [' ']
  gap_blank level c hc := by
    rcases List.mem_cons.mp hc with rfl | hc
    · rfl
    · rw [List.eq_of_mem_replicate hc]
      rfl
  space_blank c hc := by
    rw [List.mem_singleton.mp hc]
    rfl

mutual

def lay (l : Layout) (level : Nat) : Json → List Char → List Char
  | array (x :: xs), k =>
      '[' :: (l.gap (level + 1) ++ lay l (level + 1) x (layElements l level xs k))
  | object ((key, x) :: ms), k =>
      '{' :: (l.gap (level + 1) ++ writeString key
        (':' :: (l.space ++ lay l (level + 1) x (layMembers l level ms k))))
  | j, k => writeLeaf j k

def layElements (l : Layout) (level : Nat) : List Json → List Char → List Char
  | [], k => l.gap level ++ ']' :: k
  | x :: xs, k =>
      ',' :: (l.gap (level + 1) ++ lay l (level + 1) x (layElements l level xs k))

def layMembers (l : Layout) (level : Nat) : List (String × Json) → List Char → List Char
  | [], k => l.gap level ++ '}' :: k
  | (key, x) :: ms, k =>
      ',' :: (l.gap (level + 1) ++ writeString key
        (':' :: (l.space ++ lay l (level + 1) x (layMembers l level ms k))))

end

mutual

theorem lay_dense (level : Nat) : (j : Json) → (k : List Char) → dense.lay level j k = compact j k
  | array [], k => by simp [lay, compact]
  | array (x :: xs), k => by
      rw [lay, compact, lay_dense, layElements_dense]
      rfl
  | object [], k => by simp [lay, compact]
  | object ((key, x) :: ms), k => by
      rw [lay, compact, lay_dense, layMembers_dense]
      rfl
  | null, k | bool _, k | integer _, k | binary _, k | string _, k => by simp [lay, compact]

theorem layElements_dense (level : Nat) :
    (xs : List Json) → (k : List Char) → dense.layElements level xs k = compactElements xs k
  | [], k => rfl
  | x :: xs, k => by
      rw [layElements, compactElements, lay_dense, layElements_dense]
      rfl

theorem layMembers_dense (level : Nat) : (ms : List (String × Json)) → (k : List Char) →
    dense.layMembers level ms k = compactMembers ms k
  | [], k => rfl
  | (key, x) :: ms, k => by
      rw [layMembers, compactMembers, lay_dense, layMembers_dense]
      rfl

end

mutual

theorem lay_airy (level : Nat) :
    (j : Json) → (k : List Char) → airy.lay level j k = pretty level j k
  | array [], k => by simp [lay, pretty]
  | array (x :: xs), k => by
      rw [lay, pretty, lay_airy, layElements_airy]
      rfl
  | object [], k => by simp [lay, pretty]
  | object ((key, x) :: ms), k => by
      rw [lay, pretty, lay_airy, layMembers_airy]
      rfl
  | null, k | bool _, k | integer _, k | binary _, k | string _, k => by simp [lay, pretty]

theorem layElements_airy (level : Nat) :
    (xs : List Json) → (k : List Char) → airy.layElements level xs k = prettyElements level xs k
  | [], k => rfl
  | x :: xs, k => by
      rw [layElements, prettyElements, lay_airy, layElements_airy]
      rfl

theorem layMembers_airy (level : Nat) : (ms : List (String × Json)) → (k : List Char) →
    airy.layMembers level ms k = prettyMembers level ms k
  | [], k => rfl
  | (key, x) :: ms, k => by
      rw [layMembers, prettyMembers, lay_airy, layMembers_airy]
      rfl

end

end Layout

/-! ### Lengths -/

mutual

/-- Steps of the reader that are enough for a value, but for the first. -/
def cost : Json → Nat
  | array xs => costElements xs
  | object ms => costMembers ms
  | _ => 0

def costElements : List Json → Nat
  | [] => 0
  | x :: xs => 2 + cost x + costElements xs

def costMembers : List (String × Json) → Nat
  | [] => 0
  | (_, x) :: ms => 2 + cost x + costMembers ms

end

theorem length_le_writeString (s : String) (k : List Char) :
    k.length + 2 ≤ (writeString s k).length := by
  have hf (cs : List Char) :
      k.length < (cs.foldr (fun c k => escapeChar c ++ k) ('"' :: k)).length := by
    induction cs with
    | nil => simp
    | cons c cs ih =>
      rw [List.foldr_cons, List.length_append]
      omega
  rw [writeString, List.length_cons]
  exact Nat.succ_le_succ (hf s.toList)

theorem length_le_writeLeaf (j : Json) (k : List Char) : k.length ≤ (writeLeaf j k).length := by
  cases j with
  | string s =>
    rw [writeLeaf]
    exact Nat.le_of_add_right_le (length_le_writeString s k)
  | _ => simp [writeLeaf] <;> omega

mutual

/-- The steps for a value are at most twice as many as the characters of its text. -/
theorem cost_le_lay (l : Layout) (level : Nat) :
    (j : Json) → (k : List Char) → cost j + 2 * k.length ≤ 2 * (l.lay level j k).length
  | array [], k => by simp [cost, costElements, Layout.lay, writeLeaf]; omega
  | array (x :: xs), k => by
      have hx := cost_le_lay l (level + 1) x (l.layElements level xs k)
      have hs := costElements_le_lay l level xs k
      rw [Layout.lay, cost, costElements, List.length_cons, List.length_append]
      omega
  | object [], k => by simp [cost, costMembers, Layout.lay, writeLeaf]; omega
  | object ((key, x) :: ms), k => by
      have hx := cost_le_lay l (level + 1) x (l.layMembers level ms k)
      have hs := costMembers_le_lay l level ms k
      have hw := length_le_writeString key
        (':' :: (l.space ++ l.lay (level + 1) x (l.layMembers level ms k)))
      rw [List.length_cons, List.length_append] at hw
      rw [Layout.lay, cost, costMembers, List.length_cons, List.length_append]
      omega
  | null, k | bool _, k | integer _, k | binary _, k | string _, k => by
      rw [cost, Layout.lay, Nat.zero_add]
      · exact Nat.mul_le_mul_left 2 (length_le_writeLeaf _ k)
      all_goals simp

theorem costElements_le_lay (l : Layout) (level : Nat) :
    (xs : List Json) → (k : List Char) →
      costElements xs + 2 * k.length + 2 ≤ 2 * (l.layElements level xs k).length
  | [], k => by simp [costElements, Layout.layElements]; omega
  | x :: xs, k => by
      have hx := cost_le_lay l (level + 1) x (l.layElements level xs k)
      have hs := costElements_le_lay l level xs k
      rw [Layout.layElements, costElements, List.length_cons, List.length_append]
      omega

theorem costMembers_le_lay (l : Layout) (level : Nat) :
    (ms : List (String × Json)) → (k : List Char) →
      costMembers ms + 2 * k.length + 2 ≤ 2 * (l.layMembers level ms k).length
  | [], k => by simp [costMembers, Layout.layMembers]; omega
  | (key, x) :: ms, k => by
      have hx := cost_le_lay l (level + 1) x (l.layMembers level ms k)
      have hs := costMembers_le_lay l level ms k
      have hw := length_le_writeString key
        (':' :: (l.space ++ l.lay (level + 1) x (l.layMembers level ms k)))
      rw [List.length_cons, List.length_append] at hw
      rw [Layout.layMembers, costMembers, List.length_cons, List.length_append]
      omega

end

end SceneMarkup.Json
