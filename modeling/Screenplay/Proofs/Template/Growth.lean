/-
The tree of a template without places. A token means something to the tree that
does not depend on where it stands (`Token.mark`), and the tree grows from these
marks alone (`grow`, `compile_eq_ok_iff_grow`). So two texts whose pieces mean
the same have the same tree, whatever they look like.
-/
import Screenplay.Proofs.Template.Nesting

namespace Screenplay.Template

/-- What a token means to the tree. -/
inductive Mark
  | leaf (node : Node)
  | opening (construct : Construct) (name : String)
  | closing (construct : Construct)

def Token.mark : Token → Mark
  | .openBlock c name _ => .opening c name
  | .closeBlock c _ => .closing c
  | tok => .leaf tok.leaf

/-- What a piece means to the tree. -/
def Piece.mark (p : Piece) : Mark := (p.token 0).mark

@[simp] theorem mark_literal (text : List Char) :
    (Piece.literal text).mark = .leaf (.text (.ofList text)) := rfl

/-- The meaning of a tag is not a matter of its place. -/
theorem mark_classify (inner : List Char) (offset : Nat) :
    (classify inner offset).mark = (Piece.tag inner).mark := by
  unfold Piece.mark Piece.token classify
  dsimp only
  split
  · split
    · split <;> rfl
    · rfl
  · split <;> rfl
  · rfl

theorem mark_token (p : Piece) (offset : Nat) : (p.token offset).mark = p.mark := by
  cases p with
  | literal text => rfl
  | tag inner => exact mark_classify inner offset

theorem map_mark_tokensAt (offset : Nat) (ps : List Piece) :
    (tokensAt offset ps).map Token.mark = ps.map Piece.mark := by
  induction ps generalizing offset with
  | nil => rfl
  | cons p ps ih => rw [tokensAt, List.map_cons, List.map_cons, ih, mark_token]

/-- What the pieces of a template mean, in order. -/
def marks (source : String) : List Mark := (pieces source.toList).map Piece.mark

theorem map_mark_tokens (source : String) : (tokens source).map Token.mark = marks source :=
  map_mark_tokensAt 0 _

/-! ## Growing a tree -/

/-- An open block with the nodes that stand before it, last first. -/
structure Frame where
  construct : Construct
  name : String
  before : List Node

def OpenBlock.frame (b : OpenBlock) : Frame := ⟨b.construct, b.name, b.before⟩

/-- The tree of marks inside open blocks, innermost first, behind nodes already grown. -/
def grow (frames : List Frame) (done : List Node) : List Mark → Option (List Node)
  | [] => if frames.isEmpty then some done.reverse else none
  | .leaf n :: ms => grow frames (pushNode n done) ms
  | .opening c name :: ms => if name.isEmpty then none else grow (⟨c, name, done⟩ :: frames) [] ms
  | .closing c :: ms =>
    match frames with
    | [] => none
    | f :: outer =>
      if f.construct = c then grow outer (pushNode (.block c f.name done.reverse) f.before) ms
      else none

theorem grow_cons_congr {ms ms' : List Mark} (h : ∀ frames done, grow frames done ms = grow frames done ms')
    (m : Mark) (frames : List Frame) (done : List Node) :
    grow frames done (m :: ms) = grow frames done (m :: ms') := by
  cases m with
  | leaf n => exact h _ _
  | opening c name => simp only [grow, h]
  | closing c =>
    cases frames with
    | nil => rfl
    | cons f outer => simp only [grow, h]

theorem nest_eq_ok_iff_grow {blocks : List OpenBlock} {done : List Node} {ts : List Token} {ns : List Node} :
    nest blocks done ts = .ok ns ↔ grow (blocks.map OpenBlock.frame) done (ts.map Token.mark) = some ns := by
  induction ts generalizing blocks done with
  | nil =>
    cases blocks with
    | nil => simp [nest, grow]
    | cons b bs => simp [nest, grow]
  | cons tok ts ih =>
    cases tok with
    | openBlock c name o =>
      by_cases hn : name.isEmpty = true
      · simp [nest, grow, Token.mark, hn]
      · simp only [nest, List.map_cons, Token.mark, grow, hn]
        exact ih
    | closeBlock c o =>
      cases blocks with
      | nil => simp [nest, grow, Token.mark]
      | cons b bs =>
        by_cases hc : b.construct = c
        · simp only [nest, List.map_cons, Token.mark, grow, OpenBlock.frame, hc, if_true]
          exact ih
        · simp [nest, grow, Token.mark, OpenBlock.frame, hc]
    | _ => exact ih

/-- A template compiles to the tree of its marks. -/
theorem compile_eq_ok_iff_grow {source : String} {t : Template} :
    compile source = .ok t ↔ grow [] [] (marks source) = some t.nodes := by
  rw [compile_eq_ok_iff, nest_eq_ok_iff_grow, map_mark_tokens, List.map_nil]

/-! ## Texts that meet -/

theorem pushNode_text_text (s t : String) (done : List Node) :
    pushNode (.text t) (pushNode (.text s) done) = pushNode (.text (s ++ t)) done := by
  cases done with
  | nil => rfl
  | cons n rest =>
    cases n with
    | text r => simp [pushNode, String.append_assoc]
    | _ => rfl

/-- Whatever is written for nodes, text as it is, is written for a node behind others. -/
theorem join_map_pushNode {out : Node → String} (htext : ∀ s, out (.text s) = s) (n : Node)
    (done : List Node) :
    String.join ((pushNode n done).reverse.map out) = String.join (done.reverse.map out) ++ out n := by
  have hcons : ∀ rest,
      String.join ((n :: rest).reverse.map out) = String.join (rest.reverse.map out) ++ out n := by
    intro rest
    simp
  unfold pushNode
  split
  · split
    · simp [htext, String.append_assoc]
    · exact hcons _
  · exact hcons _

end Screenplay.Template
