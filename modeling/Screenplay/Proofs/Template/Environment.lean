/-
Rendering without scopes. One list of bindings stands for the context and the
items of the enclosing `each` blocks together: an item overrides the names it
has, and `this` after them. What a template puts out is read off this list in
fragments (`fragments`), and `render` gives the same text
(`render_eq_join_fragments`).

A fragment is literal text of the template or the text of a value. Both are put
side by side as they are, so what was put in for a name is not read as template
text again.
-/
import Screenplay.Template.Render

namespace Screenplay

/-- The members of an object; no other value has any. -/
def Json.members : Json → List (String × Json)
  | .object members => members
  | _ => []

namespace Template

/-! ## Environments -/

/-- What the names mean at one place. Of two bindings of a name the last one counts. -/
structure Environment where
  bindings : List (String × Json)

namespace Environment

/-- The names of a context. It has no current item, whatever it calls `this`. -/
def ofContext (c : Context) : Environment := ⟨c.bindings.filter (·.1 != currentItem)⟩

/-- The environment inside an item: all its members override, and then the item as `this`. -/
def override (e : Environment) (item : Json) : Environment :=
  ⟨e.bindings ++ item.members ++ [(currentItem, item)]⟩

/-- A dotted name is a path from the environment, taken as an object. -/
def resolve? (e : Environment) (name : String) : Option Json :=
  (parts name).foldlM step? (.object e.bindings)

end Environment

/-! ## Fragments -/

/-- A part of what a template puts out. -/
inductive Fragment
  /-- Literal text of the template. -/
  | copied (text : String)
  /-- The text of a value, put in for a name. -/
  | filled (text : String)
  deriving Repr, DecidableEq

namespace Fragment

def text : Fragment → String
  | copied t => t
  | filled t => t

/-- The fragments side by side. -/
def join (fs : List Fragment) : String := String.join (fs.map text)

@[simp] theorem join_nil : join [] = "" := by simp [join]

@[simp] theorem join_singleton (f : Fragment) : join [f] = f.text := by simp [join]

@[simp] theorem join_append (fs gs : List Fragment) : join (fs ++ gs) = join fs ++ join gs := by
  simp [join]

theorem join_flatMap {α : Type} (f : α → List Fragment) (l : List α) :
    join (l.flatMap f) = String.join (l.map fun a => join (f a)) := by
  induction l with
  | nil => simp
  | cons a l ih => rw [List.flatMap_cons, join_append, ih, List.map_cons, String.join_cons]

end Fragment

mutual

/-- What a node puts out in an environment. -/
def nodeFragments (e : Environment) : Node → List Fragment
  | .text t => [.copied t]
  | .variable name =>
    match e.resolve? name with
    | some v => [.filled (textOf v)]
    | none => []
  | .helper h name =>
    match e.resolve? name with
    | some v => [.filled (h.apply (textOf v))]
    | none => []
  | .block .whenTrue name body => if holds (e.resolve? name) then fragments e body else []
  | .block .whenFalse name body => if holds (e.resolve? name) then [] else fragments e body
  | .block .each name body =>
    match e.resolve? name with
    | some (.array items) => items.flatMap fun item => fragments (e.override item) body
    | _ => []

/-- What nodes put out, one after another and each in the same environment. -/
def fragments (e : Environment) : List Node → List Fragment
  | [] => []
  | n :: ns => nodeFragments e n ++ fragments e ns

end

mutual

/-- The literal texts of a node. -/
def nodeLiterals : Node → List String
  | .text t => [t]
  | .variable _ | .helper _ _ => []
  | .block _ _ body => literals body

def literals : List Node → List String
  | [] => []
  | n :: ns => nodeLiterals n ++ literals ns

end

/-! ## An environment in place of a scope -/

theorem member?_append (l m : List (String × Json)) (name : String) :
    Json.member? (l ++ m) name = (Json.member? m name).or (Json.member? l name) := by
  unfold Json.member?
  rw [List.reverse_append, List.find?_append]
  cases m.reverse.find? (·.1 == name) <;> rfl

theorem member?_members (j : Json) (name : String) : Json.member? j.members name = j.get? name := by
  cases j <;> rfl

theorem member?_singleton (n : String) (v : Json) (name : String) :
    Json.member? [(n, v)] name = if n == name then some v else none := by
  simp only [Json.member?, List.reverse_singleton, List.find?_singleton]
  split <;> rfl

theorem member?_filter_other {l : List (String × Json)} {n name : String} (h : n ≠ name) :
    Json.member? (l.filter (·.1 != n)) name = Json.member? l name := by
  unfold Json.member?
  rw [← List.filter_reverse, List.find?_filter]
  congr 2
  funext p
  by_cases hp : p.1 = name
  · simp [hp, Ne.symm h]
  · simp [hp]

theorem member?_filter_self (l : List (String × Json)) (n : String) :
    Json.member? (l.filter (·.1 != n)) n = none := by
  unfold Json.member?
  rw [← List.filter_reverse, List.find?_filter, List.find?_eq_none.2 (by simp)]
  rfl

theorem foldlM_step? (value : Json) (path : List String) : path.foldlM step? value = follow? value path := by
  induction path generalizing value with
  | nil => rfl
  | cons part path ih =>
    rw [List.foldlM_cons, follow?]
    cases step? value part with
    | none => rfl
    | some v => exact ih v

/-- The first parts of names mean the same in the environment as in the scope. -/
def Agrees (e : Environment) (s : Scope) : Prop :=
  ∀ head, Json.member? e.bindings head = s.find? head

theorem agrees_ofContext (c : Context) : Agrees (.ofContext c) ⟨[], c⟩ := by
  intro head
  by_cases h : head = currentItem
  · subst h; simp [Environment.ofContext, Scope.find?, member?_filter_self]
  · have hb : (head == currentItem) = false := by simpa using h
    simp only [Environment.ofContext, Scope.find?, hb, Bool.false_eq_true, if_false]
    rw [member?_filter_other (Ne.symm h)]
    rfl

/-- Going into an item overrides in the environment what the item shadows in the scope. -/
theorem Agrees.override {e : Environment} {s : Scope} (h : Agrees e s) (item : Json) :
    Agrees (e.override item) (s.enter item) := by
  intro head
  simp only [Environment.override, member?_append, member?_singleton, member?_members, h head]
  by_cases hh : head = currentItem
  · subst hh; simp [Scope.find?, Scope.enter]
  · have hb : (head == currentItem) = false := by simpa using hh
    have hb' : (currentItem == head) = false := by simpa using Ne.symm hh
    simp only [hb, hb', Scope.find?, Scope.enter, Bool.false_eq_true, if_false, Option.none_or,
      List.findSome?_cons]
    cases item.get? head <;> rfl

theorem Agrees.resolve? {e : Environment} {s : Scope} (h : Agrees e s) (name : String) :
    e.resolve? name = s.lookup? name := by
  unfold Environment.resolve? Scope.lookup?
  cases hp : parts name with
  | nil =>
    have hne : parts name ≠ [] := by simp [parts]
    exact absurd hp hne
  | cons head rest =>
    rw [List.foldlM_cons]
    have hstep : step? (.object e.bindings) head = s.find? head := h head
    rw [hstep]
    simp only [foldlM_step?]

/-- An item of a list goes by its position. -/
example :
    let c : Context := ⟨[("rows", .array [.string "a", .object [("id", .string "b")]])]⟩
    let text (name : String) := (Scope.lookup? ⟨[], c⟩ name).map textOf
    text "rows.1.id" = some "b" ∧ text "rows.+0" = some "a" ∧ text "rows.2" = none ∧ text "rows.-1" = none := by
  decide +kernel

mutual

theorem Agrees.join_nodeFragments {e : Environment} {s : Scope} (h : Agrees e s) :
    ∀ n : Node, Fragment.join (nodeFragments e n) = renderNode s n
  | .text t => by simp [nodeFragments, renderNode, Fragment.text]
  | .variable name => by
    rw [nodeFragments, renderNode, h.resolve?]
    cases s.lookup? name <;> simp [Fragment.text]
  | .helper f name => by
    rw [nodeFragments, renderNode, h.resolve?]
    cases s.lookup? name <;> simp [Fragment.text]
  | .block .whenTrue name body => by
    rw [nodeFragments, renderNode, h.resolve?]
    split
    · exact h.join_fragments body
    · exact Fragment.join_nil
  | .block .whenFalse name body => by
    rw [nodeFragments, renderNode, h.resolve?]
    split
    · exact Fragment.join_nil
    · exact h.join_fragments body
  | .block .each name body => by
    rw [nodeFragments, renderNode, h.resolve?]
    cases s.lookup? name with
    | none => exact Fragment.join_nil
    | some v =>
      cases v with
      | array items =>
        rw [Fragment.join_flatMap]
        congr 1
        exact List.map_congr_left fun item _ => (h.override item).join_fragments body
      | _ => exact Fragment.join_nil

theorem Agrees.join_fragments {e : Environment} {s : Scope} (h : Agrees e s) :
    ∀ ns : List Node, Fragment.join (fragments e ns) = renderNodes s ns
  | [] => Fragment.join_nil
  | n :: ns => by
    rw [fragments, renderNodes, Fragment.join_append, h.join_nodeFragments n, h.join_fragments ns]

end

/-! ## Copied text -/

mutual

/-- Whatever the names mean, what a node copies is literal text of its own. -/
theorem mem_nodeLiterals_of_copied {t : String} :
    ∀ (e : Environment) (n : Node), .copied t ∈ nodeFragments e n → t ∈ nodeLiterals n
  | e, .text u, h => by simpa [nodeFragments, nodeLiterals] using h
  | e, .variable name, h => by
    rw [nodeFragments] at h
    split at h <;> simp at h
  | e, .helper f name, h => by
    rw [nodeFragments] at h
    split at h <;> simp at h
  | e, .block .whenTrue name body, h => by
    rw [nodeFragments] at h
    rw [nodeLiterals]
    split at h
    · exact mem_literals_of_copied e body h
    · simp at h
  | e, .block .whenFalse name body, h => by
    rw [nodeFragments] at h
    rw [nodeLiterals]
    split at h
    · simp at h
    · exact mem_literals_of_copied e body h
  | e, .block .each name body, h => by
    rw [nodeFragments] at h
    rw [nodeLiterals]
    split at h
    · obtain ⟨item, -, hi⟩ := List.mem_flatMap.1 h
      exact mem_literals_of_copied (e.override item) body hi
    · simp at h

theorem mem_literals_of_copied {t : String} :
    ∀ (e : Environment) (ns : List Node), .copied t ∈ fragments e ns → t ∈ literals ns
  | e, [], h => by simp [fragments] at h
  | e, n :: ns, h => by
    rw [fragments, List.mem_append] at h
    rw [literals, List.mem_append]
    rcases h with h | h
    · exact .inl (mem_nodeLiterals_of_copied e n h)
    · exact .inr (mem_literals_of_copied e ns h)

end

/-- **Scopes and environments render alike.** A template puts out its fragments
in the environment of the context, side by side; and whatever the context holds,
the fragments that are not values are literal texts of the template. -/
theorem render_eq_join_fragments (t : Template) (c : Context) :
    t.render c = Fragment.join (fragments (.ofContext c) t.nodes) ∧
      ∀ s, .copied s ∈ fragments (.ofContext c) t.nodes → s ∈ literals t.nodes :=
  ⟨((agrees_ofContext c).join_fragments t.nodes).symm, fun _ => mem_literals_of_copied _ _⟩

end Template

end Screenplay
