/-
What a template can see of its context. The names that its tags refer to are read
off the text, tag by tag; they are the names that its tree carries, less those of
the current item (`mem_references_iff`). A rendering looks at nothing else: two
contexts that agree on these names, each as a path from the root, render alike
(`compile_references`).

`each` blocks bring items into the scope that shadow names of the root. The items
come from names that the template refers to, so the two renderings are in the same
items at every place, and differ in their roots only (`lookup?_congr`).
-/
import Screenplay.Proofs.Template.Environment
import Screenplay.Proofs.Template.Growth
import Screenplay.Proofs.Text.Ordering
import Screenplay.Template.Node

namespace Screenplay

/-- The value of a dotted name in a context, as a path from its root. -/
def Context.resolve? (c : Context) (name : String) : Option Json :=
  (Template.parts name).foldlM Template.step? (.object c.bindings)

namespace Template

/-! ## The names of a tree -/

mutual

/-- The names that a node carries. -/
def nodeNames : Node → List String
  | .text _ => []
  | .variable name | .helper _ name => [name]
  | .block _ name body => name :: treeNames body

def treeNames : List Node → List String
  | [] => []
  | n :: ns => nodeNames n ++ treeNames ns

end

def Mark.names : Mark → List String
  | .leaf n => nodeNames n
  | .opening _ name => if name.isEmpty then [] else [name]
  | .closing _ => []

theorem treeNames_append (ns ms : List Node) : treeNames (ns ++ ms) = treeNames ns ++ treeNames ms := by
  induction ns with
  | nil => rfl
  | cons n ns ih => rw [List.cons_append, treeNames, treeNames, ih, List.append_assoc]

@[simp] theorem treeNames_singleton (n : Node) : treeNames [n] = nodeNames n := by
  rw [treeNames, treeNames, List.append_nil]

theorem treeNames_pushNode (n : Node) (done : List Node) :
    treeNames (pushNode n done).reverse = treeNames done.reverse ++ nodeNames n := by
  unfold pushNode
  split
  · split <;> simp [treeNames_append, treeNames, nodeNames]
  · simp [treeNames_append]

/-- The names of open blocks, innermost first, and of the nodes behind them. -/
def frameNames : List Frame → List Node → List String
  | [], done => treeNames done.reverse
  | f :: outer, done => frameNames outer f.before ++ f.name :: treeNames done.reverse

theorem frameNames_pushNode (frames : List Frame) (n : Node) (done : List Node) :
    frameNames frames (pushNode n done) = frameNames frames done ++ nodeNames n := by
  cases frames with
  | nil => exact treeNames_pushNode n done
  | cons f outer => simp [frameNames, treeNames_pushNode]

/-- A tree carries the names of its marks, in their order. -/
theorem treeNames_of_grow {frames : List Frame} {done : List Node} {ms : List Mark} {ns : List Node}
    (h : grow frames done ms = some ns) : treeNames ns = frameNames frames done ++ ms.flatMap Mark.names := by
  induction ms generalizing frames done with
  | nil =>
    cases frames with
    | nil => cases h; simp [frameNames]
    | cons f outer => cases h
  | cons m ms ih =>
    rw [List.flatMap_cons, ← List.append_assoc]
    cases m with
    | leaf n => rw [ih h, frameNames_pushNode, Mark.names]
    | opening c name =>
      rw [grow] at h
      split at h
      · cases h
      · next hn => rw [ih h, frameNames, Mark.names, if_neg hn, List.reverse_nil, treeNames]
    | closing c =>
      cases frames with
      | nil => cases h
      | cons f outer =>
        rw [grow] at h
        split at h
        · rw [ih h, frameNames_pushNode, nodeNames, frameNames, Mark.names, List.append_nil]
        · cases h

/-! ## The names of a text -/

theorem names_mark (tok : Token) : tok.mark.names = tok.reference?.toList := by
  cases tok with
  | pair first second raw =>
    simp only [Token.mark, Token.leaf, Token.reference?]
    cases Helper.named? first <;> rfl
  | openBlock c name o =>
    simp only [Token.mark, Mark.names, Token.reference?]
    split <;> rfl
  | _ => rfl

theorem filterMap_reference? (ts : List Token) :
    ts.filterMap Token.reference? = (ts.map Token.mark).flatMap Mark.names := by
  induction ts with
  | nil => rfl
  | cons tok ts ih =>
    rw [List.map_cons, List.flatMap_cons, ← ih, names_mark, List.filterMap_cons]
    cases tok.reference? <;> rfl

/-- A template refers to the names of its tree, but for those of the current item. -/
theorem mem_references_iff {source : String} {t : Template} (h : compile source = .ok t) (name : String) :
    name ∈ references source ↔ name ∈ treeNames t.nodes ∧ headOf name ≠ currentItem := by
  have htree := treeNames_of_grow (compile_eq_ok_iff_grow.1 h)
  rw [← map_mark_tokens, ← filterMap_reference?] at htree
  rw [htree, references, Text.mem_ordered, List.mem_filter, bne_iff_ne]
  rfl

/-! ## Two contexts -/

/-- Two contexts mean the same by a name, unless it is one of the current item. -/
def AgreeOn (c c' : Context) (name : String) : Prop :=
  headOf name ≠ currentItem → c.resolve? name = c'.resolve? name

theorem lookup?_congr {c c' : Context} {name : String} (h : AgreeOn c c' name) (items : List Json) :
    Scope.lookup? ⟨items, c⟩ name = Scope.lookup? ⟨items, c'⟩ name := by
  unfold AgreeOn Context.resolve? headOf at h
  unfold Scope.lookup?
  cases hp : parts name with
  | nil => rfl
  | cons head rest =>
    simp only [hp, List.head?_cons, Option.getD_some, List.foldlM_cons, foldlM_step?] at h
    by_cases hh : head = currentItem
    · simp [Scope.find?, hh]
    · have hb : (head == currentItem) = false := by simpa using hh
      simp only [Scope.find?, hb, Bool.false_eq_true, if_false]
      cases items.findSome? (·.get? head) with
      | some v => rfl
      | none => exact h hh

mutual

theorem renderNode_congr {c c' : Context} :
    ∀ (items : List Json) (n : Node), (∀ name ∈ nodeNames n, AgreeOn c c' name) →
      renderNode ⟨items, c⟩ n = renderNode ⟨items, c'⟩ n
  | _, .text _, _ => by rw [renderNode, renderNode]
  | items, .variable name, h => by
    rw [renderNode, renderNode, lookup?_congr (h name (by simp [nodeNames]))]
  | items, .helper f name, h => by
    rw [renderNode, renderNode, lookup?_congr (h name (by simp [nodeNames]))]
  | items, .block .whenTrue name body, h => by
    have hbody := renderNodes_congr items body fun x hx => h x (by simp [nodeNames, hx])
    rw [renderNode, renderNode, lookup?_congr (h name (by simp [nodeNames])), hbody]
  | items, .block .whenFalse name body, h => by
    have hbody := renderNodes_congr items body fun x hx => h x (by simp [nodeNames, hx])
    rw [renderNode, renderNode, lookup?_congr (h name (by simp [nodeNames])), hbody]
  | items, .block .each name body, h => by
    have hbody : ∀ item : Json, renderNodes (Scope.enter ⟨items, c⟩ item) body =
        renderNodes (Scope.enter ⟨items, c'⟩ item) body :=
      fun item => renderNodes_congr (item :: items) body fun x hx => h x (by simp [nodeNames, hx])
    rw [renderNode, renderNode, lookup?_congr (h name (by simp [nodeNames]))]
    simp only [hbody]

/-- Nodes that carry only names on which two contexts agree render alike in the same items. -/
theorem renderNodes_congr {c c' : Context} :
    ∀ (items : List Json) (ns : List Node), (∀ name ∈ treeNames ns, AgreeOn c c' name) →
      renderNodes ⟨items, c⟩ ns = renderNodes ⟨items, c'⟩ ns
  | _, [], _ => by rw [renderNodes, renderNodes]
  | items, n :: ns, h => by
    rw [renderNodes, renderNodes, renderNode_congr items n fun x hx => h x (by simp [treeNames, hx]),
      renderNodes_congr items ns fun x hx => h x (by simp [treeNames, hx])]

end

/-- **The references of a template are all it sees.** They are the names that its tree carries,
those of the current item apart, each once; and contexts in which every one of them resolves
to the same value, or in both to none, render alike. -/
theorem compile_references {source : String} {t : Template} (h : compile source = .ok t) :
    (∀ name, name ∈ references source ↔ name ∈ treeNames t.nodes ∧ headOf name ≠ currentItem) ∧
    (references source).Nodup ∧
    ∀ c c' : Context, (∀ name ∈ references source, c.resolve? name = c'.resolve? name) →
      t.render c = t.render c' := by
  refine ⟨mem_references_iff h, (Text.ascending_ordered _).nodup, fun c c' hc => ?_⟩
  exact renderNodes_congr [] t.nodes fun name hn hh => hc name ((mem_references_iff h name).2 ⟨hn, hh⟩)

/-- A name that some items shadow and others do not, and contexts that differ beside it. -/
theorem compile_references_shadowed :
    let source := tagText "#each rows" ++ tagText "a.b" ++ tagText "this.c" ++ tagText "/each" ++ tagText "upper u"
    let nodes : List Node := [.block .each "rows" [.variable "a.b", .variable "this.c"], .helper .upper "u"]
    let rows : Json := .array [.object [("a", .object [("b", .string "x")])], .object [("c", .string "y")]]
    let c : Context := ⟨[("a", .object [("b", .string "z")]), ("rows", rows), ("v", .null)]⟩
    let c' : Context := ⟨[("a", .object [("b", .string "z"), ("d", .null)]), ("rows", rows), ("this", .null)]⟩
    compile source = .ok ⟨nodes⟩ ∧ references source = ["a.b", "rows", "u"] ∧
      Template.render ⟨nodes⟩ c = Template.render ⟨nodes⟩ c' := by
  intro source nodes rows c c'
  have hp : pieces source.toList =
      [.tag "#each rows".toList, .tag "a.b".toList, .tag "this.c".toList, .tag "/each".toList,
        .tag "upper u".toList] := by decide +kernel
  have h : compile source = .ok ⟨nodes⟩ := by
    rw [compile_eq_ok_iff_grow, marks, hp]
    rfl
  have hr : references source = ["a.b", "rows", "u"] := by decide +kernel
  refine ⟨h, hr, (compile_references h).2.2 c c' fun name hn => ?_⟩
  rw [hr] at hn
  simp only [List.mem_cons, List.not_mem_nil, or_false] at hn
  rcases hn with rfl | rfl | rfl <;> rfl

end Template

end Screenplay
