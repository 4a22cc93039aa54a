/-
Trees that are read as they are printed. A tree can be written that no template has: with
names that are none, with texts that hold a tag, or with texts side by side. Without
these its printed text compiles to the tree itself (`compile_of_legible`).

The pieces of the printed text are read off the tree (`treePieces`); they fit together
without seams, and the tree that grows from them is the one that was printed.
-/
import Screenplay.Proofs.Template.Printing

namespace Screenplay.Template

/-! ## Legible nodes -/

def Node.isText : Node → Bool
  | .text _ => true
  | _ => false

/-- No two texts stand side by side. -/
def Apart : List Node → Prop
  | [] => True
  | n :: ns => (n.isText = true → ∀ m ∈ ns.head?, m.isText = false) ∧ Apart ns

mutual

/-- Texts can stand before a tag, and names are names. -/
def Legible : Node → Prop
  | .text s => s.toList ≠ [] ∧ Clear '\x7b' s.toList
  | .variable name => isName name.toList = true
  | .helper _ name => isName name.toList = true
  | .block _ name body => isName name.toList = true ∧ Apart body ∧ LegibleAll body

def LegibleAll : List Node → Prop
  | [] => True
  | n :: ns => Legible n ∧ LegibleAll ns

end

theorem legibleAll_append {ns ms : List Node} : LegibleAll (ns ++ ms) ↔ LegibleAll ns ∧ LegibleAll ms := by
  induction ns with
  | nil => simp [LegibleAll]
  | cons n ns ih => simp only [List.cons_append, LegibleAll, ih, and_assoc]

theorem Clear.append {c : Char} {s t : List Char} (hs : Clear c s) (ht : Clear c t) : Clear c (s ++ t) := by
  induction s with
  | nil => exact ht
  | cons d r ih =>
    refine ⟨fun hd => ?_, ih hs.2⟩
    obtain ⟨e, he, hne⟩ := hs.1 hd
    exact ⟨e, by simp [he], hne⟩

instance decidableClear (c : Char) : (s : List Char) → Decidable (Clear c s)
  | [] => inferInstanceAs (Decidable True)
  | [d] => decidable_of_iff (d ≠ c) (by simp [Clear])
  | d :: e :: r =>
    have := decidableClear c (e :: r)
    decidable_of_iff ((d = c → e ≠ c) ∧ Clear c (e :: r)) (by simp [Clear])

theorem legibleAll_joinTexts {ns : List Node} (h : LegibleAll ns) : LegibleAll (joinTexts ns) := by
  induction ns with
  | nil => trivial
  | cons n ns ih =>
    obtain ⟨hn, hns⟩ := h
    have ih := ih hns
    cases n with
    | text s =>
      rw [joinTexts]
      split
      · next t others ht =>
        rw [ht] at ih
        obtain ⟨⟨-, hc⟩, ho⟩ := ih
        refine ⟨⟨by simp [hn.1], ?_⟩, ho⟩
        rw [String.toList_append]
        exact hn.2.append hc
      · exact ⟨hn, ih⟩
    | _ => exact ⟨hn, ih⟩

theorem apart_joinTexts (ns : List Node) : Apart (joinTexts ns) := by
  induction ns with
  | nil => trivial
  | cons n ns ih =>
    cases n with
    | text s =>
      rw [joinTexts]
      split
      · next t others ht =>
        rw [ht] at ih
        exact ih
      · next hno =>
        refine ⟨fun _ m hm => ?_, ih⟩
        cases m with
        | text t =>
          obtain ⟨others, ho⟩ := List.head?_eq_some_iff.1 hm
          exact absurd ho (hno t others)
        | _ => rfl
    | _ => exact ⟨nofun, ih⟩

/-! ## The pieces of a tree -/

mutual

/-- The pieces that a node is printed as. -/
def nodePieces : Node → List Piece
  | .text s => [.literal s.toList]
  | .variable name => [.tag name.toList]
  | .helper h name => [.tag (h.name.toList ++ ' ' :: name.toList)]
  | .block c name body =>
    .tag ('#' :: (c.keyword.toList ++ ' ' :: name.toList)) ::
      (treePieces body ++ [.tag ('/' :: c.keyword.toList)])

def treePieces : List Node → List Piece
  | [] => []
  | n :: ns => nodePieces n ++ treePieces ns

end

theorem toList_tagText (words : String) : (tagText words).toList = (Piece.tag words.toList).source := by
  simp [tagText, Piece.source, tagOpen, tagClose]

mutual

theorem toList_printNode : ∀ n : Node, (printNode n).toList = (nodePieces n).flatMap Piece.source
  | .text s => by simp [printNode, nodePieces, Piece.source]
  | .variable name => by simp [printNode, nodePieces, toList_tagText]
  | .helper h name => by simp [printNode, nodePieces, toList_tagText]
  | .block c name body => by
    simp [printNode, nodePieces, toList_tagText, toList_printNodes body]

/-- A tree is printed as its pieces. -/
theorem toList_printNodes : ∀ ns : List Node, (printNodes ns).toList = (treePieces ns).flatMap Piece.source
  | [] => by simp [printNodes, treePieces]
  | n :: ns => by
    rw [printNodes, treePieces, String.toList_append, List.flatMap_append, toList_printNode n,
      toList_printNodes ns]

end

theorem isName_helper (h : Helper) : isName h.name.toList = true := by
  cases h <;> decide

mutual

theorem firm_nodePieces : ∀ n : Node, Legible n → ∀ p ∈ nodePieces n, p.Firm
  | .text s, h => by
    rw [nodePieces, List.forall_mem_singleton]
    exact h
  | .variable name, h => by
    rw [nodePieces, List.forall_mem_singleton]
    exact clear_of_not_mem (brace_not_mem h)
  | .helper f name, h => by
    rw [nodePieces, List.forall_mem_singleton]
    exact clear_of_not_mem (by simpa using ⟨brace_not_mem (isName_helper f), brace_not_mem h⟩)
  | .block c name body, h => by
    have hk := brace_not_mem (isName_keyword c)
    rw [nodePieces, List.forall_mem_cons, List.forall_mem_append, List.forall_mem_singleton]
    refine ⟨clear_of_not_mem ?_, firm_treePieces body h.2.2, clear_of_not_mem ?_⟩
    · simpa using ⟨hk, brace_not_mem h.1⟩
    · simpa using hk

theorem firm_treePieces : ∀ ns : List Node, LegibleAll ns → ∀ p ∈ treePieces ns, p.Firm
  | [], _ => by simp [treePieces]
  | n :: ns, h => by
    rw [treePieces, List.forall_mem_append]
    exact ⟨firm_nodePieces n h.1, firm_treePieces ns h.2⟩

end

/-! ## Reading them again -/

/-- Adds nodes behind others, which are listed last first. -/
def pushNodes (done : List Node) (ns : List Node) : List Node := ns.foldl (fun done n => pushNode n done) done

theorem pushNodes_of_apart {done ns : List Node} (h : Apart ns)
    (hmeet : ∀ m ∈ done.head?, m.isText = true → ∀ n ∈ ns.head?, n.isText = false) :
    pushNodes done ns = ns.reverse ++ done := by
  induction ns generalizing done with
  | nil => rfl
  | cons n ns ih =>
    have hpush : pushNode n done = n :: done := by
      cases done with
      | nil => rfl
      | cons m done =>
        cases m with
        | text s =>
          have hn := hmeet (.text s) rfl rfl n rfl
          cases n with
          | text t => cases hn
          | _ => rfl
        | _ => rfl
    rw [List.reverse_cons, List.append_assoc, pushNodes, List.foldl_cons, hpush]
    refine ih h.2 fun m hm htext => h.1 ?_
    cases hm
    exact htext

theorem mark_helper {f : Helper} {name : String} (h : isName name.toList = true) :
    (Piece.tag (f.name.toList ++ ' ' :: name.toList)).mark = .leaf (.helper f name) := by
  have hnamed : Helper.named? f.name = some f := by cases f <;> rfl
  show (classify _ 0).mark = _
  rw [classify_pair (isName_helper f) h]
  simp only [Token.mark, Token.leaf, String.ofList_toList, hnamed]

mutual

/-- The tree that grows from the pieces of a node has the node. -/
theorem grow_nodePieces (frames : List Frame) (done : List Node) (ps : List Piece) :
    ∀ n : Node, Legible n → grow frames done ((nodePieces n ++ ps).map Piece.mark) =
      grow frames (pushNode n done) (ps.map Piece.mark)
  | .text s, _ => by
    simp only [nodePieces, List.singleton_append, List.map_cons, mark_literal, String.ofList_toList, grow]
  | .variable name, h => by
    have hmark : (Piece.tag name.toList).mark = .leaf (.variable name) := by
      show (classify _ 0).mark = _
      rw [classify_name h, String.ofList_toList]
      rfl
    simp only [nodePieces, List.singleton_append, List.map_cons, hmark, grow]
  | .helper f name, h => by
    simp only [nodePieces, List.singleton_append, List.map_cons, mark_helper h, grow]
  | .block c name body, h => by
    have hopen : (Piece.tag ('#' :: (c.keyword.toList ++ ' ' :: name.toList))).mark = .opening c name := by
      show (classify _ 0).mark = _
      rw [classify_openBlock (.inr h.1), String.ofList_toList]
      rfl
    have hclose : (Piece.tag ('/' :: c.keyword.toList)).mark = .closing c := by
      show (classify _ 0).mark = _
      rw [classify_closeBlock]
      rfl
    have hname : name.isEmpty = false := by
      rw [Bool.eq_false_iff, ne_eq, String.isEmpty_iff]
      rintro rfl
      exact ne_nil_of_isName h.1 rfl
    rw [nodePieces, List.cons_append, List.map_cons, hopen, List.append_assoc]
    simp only [grow, hname, Bool.false_eq_true, if_false]
    rw [grow_treePieces _ _ _ body h.2.2, pushNodes_of_apart h.2.1 (by simp)]
    simp only [List.singleton_append, List.map_cons, hclose, grow, if_true, List.append_nil,
      List.reverse_reverse]

theorem grow_treePieces (frames : List Frame) (done : List Node) (ps : List Piece) :
    ∀ ns : List Node, LegibleAll ns → grow frames done ((treePieces ns ++ ps).map Piece.mark) =
      grow frames (pushNodes done ns) (ps.map Piece.mark)
  | [], _ => rfl
  | n :: ns, h => by
    rw [treePieces, List.append_assoc, grow_nodePieces frames done _ n h.1,
      grow_treePieces frames _ ps ns h.2]
    rfl

end

/-- **A legible tree is read as it is printed.** -/
theorem compile_of_legible {ns : List Node} (h : LegibleAll ns) (hapart : Apart ns) :
    compile (printNodes ns) = .ok ⟨ns⟩ := by
  have hseam : Seamless (treePieces ns) := by
    rw [← List.append_nil (treePieces ns)]
    exact seamless_append (firm_treePieces ns h) trivial
  rw [compile_flatMap_source hseam (toList_printNodes ns)]
  have hgrow := grow_treePieces [] [] [] ns h
  rw [List.append_nil, pushNodes_of_apart hapart (by simp)] at hgrow
  simpa [grow] using hgrow

end Screenplay.Template
